import ApiTypes.Proofs.Schema.Decoding

/-!
# What sorting a schema guarantees

A schema that is decoded has no combination without branches, no enumeration without values, and
no properties beside either unless it declares one; what it says about additional properties says
something; and no type that it does not understand is one of those that it does.

## Main definitions

* `Schema.Classified` — these guarantees, for a schema and everything inside it

## Main results

* `classified_of_decode` — every decoded schema gives them
-/

namespace ApiTypes.Schema

/-- The types that are understood. -/
def understoodTypes : List String :=
  ["string", "integer", "number", "boolean", "array", "object"]

/-- What sorting guarantees of a schema and of all schemas inside it. -/
inductive Classified : Schema → Prop
  | combination {op : Combinator} {branches : List Schema} {beside : Option (PropertySet Schema)}
      (nonempty : branches ≠ []) (each : ∀ branch ∈ branches, Classified branch)
      (declares : ∀ properties ∈ beside, properties.entries ≠ [])
      (eachBeside : ∀ properties ∈ beside, ∀ entry ∈ properties.entries, Classified entry.2) :
      Classified (.combination op branches beside)
  | enumeration {values : List Json} {beside : Option (PropertySet Schema)}
      (nonempty : values ≠ []) (declares : ∀ properties ∈ beside, properties.entries ≠ [])
      (eachBeside : ∀ properties ∈ beside, ∀ entry ∈ properties.entries, Classified entry.2) :
      Classified (.enumeration values beside)
  | primitive (type : Primitive) (isNullable : Bool) : Classified (.primitive type isNullable)
  | object {properties : PropertySet Schema} {additional : Option Schema} {isNullable : Bool}
      (each : ∀ entry ∈ properties.entries, Classified entry.2)
      (telling : ∀ schema ∈ additional, schema ≠ .unsupported none)
      (eachAdditional : ∀ schema ∈ additional, Classified schema) :
      Classified (.object properties additional isNullable)
  | array {items : Option Schema} {isNullable : Bool}
      (each : ∀ schema ∈ items, Classified schema) : Classified (.array items isNullable)
  | unsupported {type : Option String} (unknown : ∀ text ∈ type, text ∉ understoodTypes) :
      Classified (.unsupported type)

namespace Written

variable {w : Written} {P : Schema → Prop}

theorem shape_spec {shape : PropertySet Schema} (h : w.shape = some shape) :
    shape.entries ≠ [] ∧ w.properties = some shape.entries := by
  unfold Written.shape at h
  cases given : w.properties with
  | none => simp [given] at h
  | some properties =>
    cases properties with
    | nil => simp [given] at h
    | cons entry rest =>
      simp only [given, Option.some.injEq] at h
      subst h
      exact ⟨List.cons_ne_nil _ _, rfl⟩

theorem combination?_spec {op : Combinator} {branches : List Schema}
    (h : w.combination? = some (op, branches)) :
    branches ≠ [] ∧
      (w.oneOf = some branches ∨ w.anyOf = some branches ∨ w.allOf = some branches) := by
  unfold combination? at h
  obtain ⟨⟨op', given⟩, among, chosen⟩ := List.exists_of_findSome?_eq_some h
  cases given with
  | none => simp at chosen
  | some given =>
    cases given with
    | nil => simp at chosen
    | cons branch rest =>
      simp only [Option.some.injEq, Prod.mk.injEq] at chosen
      obtain ⟨rfl, rfl⟩ := chosen
      simp only [List.mem_cons, Prod.mk.injEq, List.not_mem_nil, or_false] at among
      refine ⟨List.cons_ne_nil _ _, ?_⟩
      rcases among with ⟨-, same⟩ | ⟨-, same⟩ | ⟨-, same⟩
      · exact .inl same.symm
      · exact .inr (.inl same.symm)
      · exact .inr (.inr same.symm)

theorem Each.branches {op : Combinator} {branches : List Schema} (each : w.Each P)
    (h : w.combination? = some (op, branches)) : ∀ branch ∈ branches, P branch := by
  rcases (combination?_spec h).2 with given | given | given
  · exact each.oneOf branches given
  · exact each.anyOf branches given
  · exact each.allOf branches given

theorem Each.shape {shape : PropertySet Schema} (each : w.Each P) (h : shape ∈ w.shape) :
    ∀ entry ∈ shape.entries, P entry.2 :=
  each.properties shape.entries (shape_spec h).2

theorem additionalSchema_spec {schema : Schema} (h : w.additionalSchema = some schema) :
    schema ≠ .unsupported none ∧ w.additional = some (.schema schema) := by
  unfold additionalSchema at h
  split at h
  · simp at h
  · next given telling same =>
    obtain rfl := Option.some.inj h
    exact ⟨telling, same⟩
  · simp at h

/-- Types that are listed together are none of those that are understood: between two of them
stands a comma. -/
theorem intercalate_not_mem_understoodTypes {first second : String} {rest : List String} :
    String.intercalate ", " (first :: second :: rest) ∉ understoodTypes := by
  have comma : ',' ∈ (String.intercalate ", " (first :: second :: rest)).toList := by
    simp [String.toList_intercalate]
  have none : ∀ type ∈ understoodTypes, ',' ∉ type.toList := by decide
  exact fun understood => none _ understood comma

theorem typing_eq_error {types : List String} (h : w.typing = .error types) :
    ∃ first second rest, types = first :: second :: rest := by
  unfold typing at h
  match listed : w.types with
  | [] => simp [listed] at h
  | [type] => simp [listed] at h
  | [first, second] =>
    simp only [listed] at h
    split_ifs at h
    obtain rfl := Except.error.inj h
    exact ⟨first, second, [], rfl⟩
  | first :: second :: third :: rest =>
    simp only [listed] at h
    obtain rfl := Except.error.inj h
    exact ⟨first, second, third :: rest, rfl⟩

theorem object_classified (each : w.Each Classified) (isNullable : Bool) :
    Classified (w.object isNullable) := by
  refine .object ?_ (fun schema given => (additionalSchema_spec given).1)
    fun schema given => each.additional schema (additionalSchema_spec given).2
  cases given : w.properties with
  | none => simp
  | some properties => simpa using each.properties properties given

theorem ofType_classified (each : w.Each Classified) (isNullable : Bool) (type : Option String) :
    Classified (w.ofType isNullable type) := by
  unfold ofType
  split
  · exact .primitive _ _
  · exact .primitive _ _
  · exact .primitive _ _
  · exact .primitive _ _
  · exact .array each.items
  · exact object_classified each isNullable
  · next type _ _ _ _ _ _ =>
    -- a type by another name than the six that were tried before
    refine .unsupported fun text same => ?_
    obtain rfl := Option.some.inj same
    simp_all [understoodTypes]
  · split
    · exact object_classified each isNullable
    · exact .unsupported (by simp)

/-- Sorting gives the guarantees, if the schemas inside have them. -/
theorem classify_classified (each : w.Each Classified) : Classified w.classify := by
  have declares : ∀ shape ∈ w.shape, shape.entries ≠ [] := fun _ given => (shape_spec given).1
  unfold classify
  split
  · next op branches chosen =>
    exact .combination (combination?_spec chosen).1 (each.branches chosen) declares
      fun _ given => each.shape given
  · split
    · exact .enumeration (List.cons_ne_nil _ _) declares fun _ given => each.shape given
    · split
      · exact ofType_classified each _ _
      · next types listed =>
        -- several types in a list, shown with commas between them
        obtain ⟨first, second, rest, rfl⟩ := typing_eq_error listed
        refine .unsupported fun text same => ?_
        obtain rfl := Option.some.inj same
        exact intercalate_not_mem_understoodTypes

end Written

/-- Every schema that is decoded gives the guarantees. -/
theorem classified_of_decode {value : Json} {schema : Schema} (h : decode value = .ok schema) :
    schema.Classified :=
  decode_induction (fun _ => Written.classify_classified) value schema h

end ApiTypes.Schema
