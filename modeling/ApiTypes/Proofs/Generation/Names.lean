import ApiTypes.Proofs.DeclarationName
import ApiTypes.Proofs.NameFormat
import ApiTypes.Proofs.Selection.Bodies
import ApiTypes.Proofs.TypeExpr.Spelling

/-!
# Which exported names are identifiers

Bodies are exported under plain names, which are identifiers. A named schema is exported under the
key that the document gives it. Among the characters of such keys the full stop and the hyphen
have no place in an identifier, and no identifier starts with a digit.

## Main definitions

* `IsSchemaKey` — the keys that a document may give to its schemas

## Main results

* `Document.exists_of_mem_declarations` — the name and the schema of a declaration
* `IsSchemaKey.isIdentifier_iff` — which keys are identifiers
* `Document.isIdentifier_exported_iff` — which exported names are
-/

namespace ApiTypes

/-! ### Declarations -/

/-- The name that is exported and the type it stands for. -/
theorem Schema.value_declaration (schema : Schema) (format : NameFormat) (name : String) :
    (schema.declaration format name).value =
      exportedAlias (format.apply name) (schema.rootType (.root name)).value := rfl

/-- Every declaration is that of a schema under a selected name. -/
theorem Document.exists_of_mem_declarations {document : Document} {settings : Settings}
    {name : String} {declaration : Reported String}
    (among : (name, declaration) ∈ (document.generate settings).declarations) :
    name ∈ Entries.keys (document.select settings).entries ∧
      ∃ schema : Schema, declaration = schema.declaration settings.nameFormat name := by
  obtain ⟨⟨_, schema⟩, selected, same⟩ := List.mem_map.mp among
  obtain ⟨rfl, rfl⟩ := Prod.mk.inj same
  exact ⟨List.mem_map_of_mem selected, schema, rfl⟩

/-! ### Keys -/

/-- A key that a document may give to a schema. -/
structure IsSchemaKey (key : String) : Prop where
  nonempty : key ≠ ""
  chars : ∀ c ∈ key.toList, c.isAlphanum ∨ c ∈ ['.', '-', '_']

namespace IsSchemaKey

variable {key : String}

theorem ascii (isKey : IsSchemaKey key) : ∀ c ∈ key.toList, c.toNat < 128 := by
  intro c among
  rcases isKey.chars c among with letterOrDigit | mark
  · exact Unicode.ascii_of_isAlphanum letterOrDigit
  · have marks : ∀ c ∈ ['.', '-', '_'], c.toNat < 128 := by simp
    exact marks c mark

theorem isIdentifier_iff (isKey : IsSchemaKey key) :
    isIdentifier key ↔
      (∀ c ∈ key.toList.head?, ¬ c.isDigit) ∧ '.' ∉ key.toList ∧ '-' ∉ key.toList := by
  rw [isIdentifier_iff_of_ascii isKey.nonempty isKey.ascii]
  refine and_congr_right fun _ => ⟨fun allowed => ?_, fun ⟨noStop, noHyphen⟩ c among => ?_⟩
  · exact ⟨fun stop => absurd (allowed '.' stop) (by decide),
      fun hyphen => absurd (allowed '-' hyphen) (by decide)⟩
  · rcases isKey.chars c among with letterOrDigit | mark
    · exact .inl letterOrDigit
    · simp only [List.mem_cons, List.not_mem_nil, or_false] at mark
      rcases mark with rfl | rfl | rfl
      · exact absurd among noStop
      · exact absurd among noHyphen
      · exact .inr (.inl rfl)

end IsSchemaKey

theorem PlainName.isSchemaKey {name : String} (plain : PlainName name) : IsSchemaKey name := by
  refine ⟨?_, fun c among => .inl (plain.letters c among)⟩
  rintro rfl
  obtain ⟨_, first, -⟩ := plain.starts
  cases first

/-! ### Exported names -/

/-- Let names be exported as they are, those of schemas be made of the characters that a document
may use for them, and the selected paths and statuses be of ASCII. Then every declaration is one
of its name; the name is an identifier just if it does not start with a digit and has neither a
full stop nor a hyphen; and all names but those of schemas are identifiers. -/
theorem Document.isIdentifier_exported_iff {document : Document} {settings : Settings}
    (bare : settings.nameFormat = .bare)
    (keys : ∀ entry ∈ document.schemas, IsSchemaKey entry.1)
    (ascii : ∀ template method suffix schema,
      document.Selects settings template method suffix schema →
        suffix.IsPlain ∧ ∀ fragment ∈ (PathTemplate.segments template).flatten,
          ∀ c ∈ fragment.text.toList, c.toNat < 128)
    {name : String} {declaration : Reported String}
    (among : (name, declaration) ∈ (document.generate settings).declarations) :
    (∃ body, declaration.value = "export type " ++ name ++ " = " ++ body) ∧
      (isIdentifier name ↔
        (∀ c ∈ name.toList.head?, ¬ c.isDigit) ∧ '.' ∉ name.toList ∧ '-' ∉ name.toList) ∧
      (isIdentifier name ∨ (settings.schemas ∧ name ∈ Entries.keys document.schemas)) := by
  obtain ⟨selected, schema, rfl⟩ := Document.exists_of_mem_declarations among
  obtain ⟨origin, declared⟩ := Document.mem_keys_select.mp selected
  -- a name that is not that of a schema is plain
  have source : PlainName name ∨
      (IsSchemaKey name ∧ settings.schemas ∧ name ∈ Entries.keys document.schemas) := by
    rcases Document.mem_declarable.mp declared with
      ⟨wanted, named⟩ | ⟨template, method, suffix, selects, rfl⟩
    · exact .inr ⟨keys _ named, wanted, List.mem_map_of_mem named⟩
    · obtain ⟨plain, path⟩ := ascii template method suffix origin selects
      refine .inl (plainName_declarationName (fun fragment inPath c inText _ => ?_) plain method)
      exact path fragment inPath c inText
  have isKey : IsSchemaKey name := source.elim PlainName.isSchemaKey And.left
  have noNull : '\x00' ∉ name.toList := fun null => absurd (isKey.chars _ null) (by decide)
  refine ⟨?_, isKey.isIdentifier_iff, source.imp PlainName.isIdentifier And.right⟩
  rw [Schema.value_declaration, bare, NameFormat.apply_bare]
  unfold exportedAlias
  rw [nameChars_of_noNull noNull, String.ofList_toList]
  exact ⟨_, String.append_assoc ..⟩

/-- Beside a body, whose name is plain, a schema is exported under an identifier and another one
under a key that is none. -/
theorem Document.isIdentifier_exported_iff_of_pets :
    let op : Operation :=
      ⟨some ⟨[("application/json", some (.primitive .string false))]⟩, []⟩
    let document : Document := ⟨none, [("/\x7bpetId\x7d", [(.put, op)])],
      [("Pet_1", .primitive .string false), ("pet.list", .primitive .string false)]⟩
    let settings : Settings := ⟨.all, true, .bare⟩
    (settings.nameFormat = .bare ∧ (∀ entry ∈ document.schemas, IsSchemaKey entry.1) ∧
      ∀ template method suffix schema,
        document.Selects settings template method suffix schema →
          suffix.IsPlain ∧ ∀ fragment ∈ (PathTemplate.segments template).flatten,
            ∀ c ∈ fragment.text.toList, c.toNat < 128) ∧
    ∀ name declaration, (name, declaration) ∈ (document.generate settings).declarations →
      (∃ body, declaration.value = "export type " ++ name ++ " = " ++ body) ∧
        (isIdentifier name ↔
          (∀ c ∈ name.toList.head?, ¬ c.isDigit) ∧ '.' ∉ name.toList ∧ '-' ∉ name.toList) ∧
        (isIdentifier name ∨ (settings.schemas ∧ name ∈ Entries.keys document.schemas)) := by
  intro op document settings
  have keys : ∀ entry ∈ document.schemas, IsSchemaKey entry.1 := by
    intro entry among
    simp only [document, List.mem_cons, List.not_mem_nil, or_false] at among
    rcases among with rfl | rfl
    · exact ⟨by decide, by simp⟩
    · exact ⟨by decide, by simp⟩
  have ascii : ∀ template method suffix schema,
      document.Selects settings template method suffix schema →
        suffix.IsPlain ∧ ∀ fragment ∈ (PathTemplate.segments template).flatten,
          ∀ c ∈ fragment.text.toList, c.toNat < 128 := by
    rintro template method suffix schema ⟨-, -, item, path, op', operation, content, describes, -⟩
    have segments : PathTemplate.segments "/\x7bpetId\x7d" = [[.param "petId"]] := by decide
    simp only [document, List.mem_cons, List.not_mem_nil, or_false, Prod.mk.injEq] at path
    obtain ⟨rfl, rfl⟩ := path
    simp only [List.mem_cons, List.not_mem_nil, or_false, Prod.mk.injEq] at operation
    obtain ⟨rfl, rfl⟩ := operation
    cases describes with
    | response among => cases among
    | request =>
      refine ⟨trivial, ?_⟩
      simp [segments, PathTemplate.Fragment.text]
  refine ⟨⟨rfl, keys, ascii⟩, fun name declaration among => ?_⟩
  exact Document.isIdentifier_exported_iff rfl keys ascii among

/-- The key `pet-list` is exported as it is, and no identifier is. -/
theorem Document.exported_name_not_identifier :
    let document : Document := ⟨none, [], [("pet-list", .object ⟨[], []⟩ none false)]⟩
    let settings : Settings := ⟨.all, true, .bare⟩
    let text := "export type pet-list = \x7b\n\x7d;\n"
    settings.nameFormat = .bare ∧ (∀ entry ∈ document.schemas, IsSchemaKey entry.1) ∧
      (∀ template method suffix schema,
        ¬ document.Selects settings template method suffix schema) ∧
      (document.generate settings).texts = [text] ∧
      ¬ ∃ name body, isIdentifier name ∧ text = "export type " ++ name ++ " = " ++ body := by
  intro document settings text
  have keys : ∀ entry ∈ document.schemas, IsSchemaKey entry.1 := by
    intro entry among
    obtain rfl := List.mem_singleton.mp among
    exact ⟨by decide, by simp⟩
  have noPath : ∀ template method suffix schema,
      ¬ document.Selects settings template method suffix schema := by
    rintro template method suffix schema ⟨-, -, item, path, -⟩
    cases path
  refine ⟨rfl, keys, noPath, by decide +kernel, ?_⟩
  rintro ⟨name, body, identifier, same⟩
  have chars : "pet-list".toList ++ " = \x7b\n\x7d;\n".toList =
      name.toList ++ " = ".toList ++ body.toList := by
    have := congrArg String.toList same
    simpa [text] using this
  -- the identifier would end in front of the hyphen, where there is no space
  unfold isIdentifier at identifier
  match characters : name.toList with
  | [] | [_] | [_, _] | [_, _, _] => simp [characters] at chars
  | _ :: _ :: _ :: fourth :: rest =>
    obtain rfl : fourth = '-' := by simp [characters] at chars; exact chars.2.2.2.1.symm
    have : Unicode.continuesIdentifier '-' = false :=
      Unicode.continuesIdentifier_of_ascii (by decide)
    simp [characters, this] at identifier

end ApiTypes
