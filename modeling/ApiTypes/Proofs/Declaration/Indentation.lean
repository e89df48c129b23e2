import ApiTypes.Proofs.Generation.Aliases
import ApiTypes.Proofs.Rendering.Inlined

/-!
# Printing types in their places

A type is printed in the same way wherever it stands, but for the spaces behind its line breaks, of
which each object type around it adds two. So a schema that is inlined at several places is printed
alike at all of them, and the lines of a declaration show how deep they are. A line that starts in
the exported name is not the printer's own, and starts as the name has it.

## Main definitions

* `aliasHead` — a declaration up to its type

## Main results

* `TypeExpr.Context.text_fill` — the text of a type in its place
* `Schema.printed_in_place` — inlined schemas and the lines of declarations
* `Schema.exported_name_breaks_line` — lines that start in the exported name
-/

namespace ApiTypes

namespace TypeExpr

/-- Wherever a type stands, its text is the one that it has alone, shifted. -/
theorem Rendered.chars_layout {type : TypeExpr} (h : Rendered type) (depth : Nat) :
    (layout depth type).flatMap Piece.chars = Text.shifted (2 * depth) type.text.toList := by
  have further := layout_add 0 depth type
  rw [Nat.zero_add] at further
  rw [further, (h.aligned_layout 0).flatMap_deepen, text, String.toList_ofList]

/-- What a context prints does not depend on the type that fills it, and that is printed as it is
alone, with two more spaces behind its line breaks for each object type around it. -/
theorem Context.text_fill (context : Context) :
    ∃ front back : List Char, ∀ type, Rendered type →
      (context.fill type).text.toList =
        front ++ Text.shifted (2 * context.depth) type.text.toList ++ back := by
  obtain ⟨front, back, around⟩ := context.layout_fill 0
  refine ⟨front.flatMap Piece.chars, back.flatMap Piece.chars, fun type rendered => ?_⟩
  rw [text, String.toList_ofList, around, Nat.zero_add, List.flatMap_append, List.flatMap_append,
    rendered.chars_layout]

/-- The lines of a declaration behind its name. -/
theorem Rendered.indents_body {type : TypeExpr} (h : Rendered type) :
    Indents ⟨0, .code⟩ (type.text.toList ++ ";\n".toList) := by
  have lastBreak : Indents ⟨0, .code⟩ ['\n'] :=
    .newline rfl rfl fun before after whole => by simp at whole
  have ending : Indents ⟨0, .code⟩ ([';'] ++ ['\n']) := .append_of_not_mem (by decide) lastBreak
  rw [text, String.toList_ofList]
  exact (h.aligned_layout 0).indents_append ending

end TypeExpr

/-- The declaration of an alias up to its type. -/
def aliasHead (name : String) : List Char :=
  "export type ".toList ++ nameChars name.toList ++ " = ".toList

theorem toList_exportedAlias_eq (name : String) (type : TypeExpr) :
    (exportedAlias name type).toList = aliasHead name ++ (type.text.toList ++ ";\n".toList) := by
  have ending : ";\n".toList = [';'] ++ ['\n'] := by decide
  rw [Generation.toList_exportedAlias]
  unfold Generation.declarationChars aliasHead
  simp only [ending, List.append_assoc]

/-- The lines that start behind a head are indented if those of what follows the head are. -/
theorem Indents.behind {reader : BraceReader} {head body : List Char} (h : Indents reader body)
    {before after : List Char} (whole : head ++ body = before ++ '\n' :: after)
    (long : head.length ≤ before.length) :
    Text.indentation after = 2 * (reader.read (before.drop head.length)).openAround after := by
  obtain ⟨middle, rfl⟩ := List.prefix_of_prefix_length_le (List.prefix_append head body)
    (whole ▸ List.prefix_append before _) long
  rw [List.append_assoc] at whole
  rw [List.drop_left]
  exact h middle after (List.append_cancel_left whole)

namespace Schema

open TypeExpr (Context Rendered)

/-- Every type that the renderer builds is printed in its place as it is alone, with two more spaces
behind each line break for each object type around the place. That holds for inlined schemas, which
are printed in a declaration wherever they are visited from its properties, one object type further
inside for each property on the way. Of the lines of a declaration, the first is not indented, and
one that starts behind the exported name is indented by two spaces for each object type that is
open around it. -/
theorem printed_in_place :
    (∀ (schema : Schema) (path : SchemaPath) (context : Context) (type : TypeExpr),
      (schema.render path).value = some (context.fill type) → Rendered type) ∧
    (∀ context : Context, ∃ front back : List Char, ∀ type, Rendered type →
      (context.fill type).text.toList =
        front ++ Text.shifted (2 * context.depth) type.text.toList ++ back) ∧
    ∀ (format : NameFormat) (name : String) (schema : Schema),
      let declared := (schema.rootType (.root name)).value
      let head := aliasHead (format.apply name)
      let declaration := (schema.declaration format name).value.toList
      declaration = head ++ (declared.text.toList ++ ";\n".toList) ∧
      (∀ properties ∈ schema.rootProperties, ∀ property ∈ properties.entries,
        ∀ visit ∈ property.2.visits, ∀ path type, (visit.2.render path).value = some type →
          ∃ context : Context, context.fill type = declared ∧
            context.depth = SchemaPath.depthOf visit.1 + 1 ∧
            ∃ front back, declaration =
              front ++ Text.shifted (2 * context.depth) type.text.toList ++ back) ∧
      Text.indentation declaration = 0 ∧
      ∀ before after, declaration = before ++ '\n' :: after → head.length ≤ before.length →
        Text.indentation after =
          2 * (BraceReader.read ⟨0, .code⟩ (before.drop head.length)).openAround after := by
  refine ⟨fun schema path context type rendered => ?_, Context.text_fill, ?_⟩
  · have inside : TypeExpr.Within type (context.fill type) :=
      TypeExpr.within_iff_exists_context.mpr ⟨context, rfl⟩
    exact (rendered_render schema path _ rendered).of_within inside
  · intro format name schema declared head declaration
    have rendered : Rendered declared := schema.rendered_rootType (.root name)
    have split : declaration = head ++ (declared.text.toList ++ ";\n".toList) :=
      toList_exportedAlias_eq (format.apply name) declared
    refine ⟨split, ?_, ?_, fun before after whole => ?_⟩
    · -- the type is the same at every place, and stands somewhere in the declared one
      intro properties declares property isProperty visit visited path type renderedVisit
      rw [value_render] at renderedVisit
      obtain ⟨context, depth, fills⟩ :=
        standsAt_rootType declares isProperty visited renderedVisit (.root name)
      obtain ⟨front, back, around⟩ := context.text_fill
      refine ⟨context, fills, depth, head ++ front, back ++ ";\n".toList, ?_⟩
      have text : declared.text.toList =
          front ++ Text.shifted (2 * context.depth) type.text.toList ++ back := by
        rw [← around type (rendered_render visit.2 _ type renderedVisit), fills]
      rw [split, text]
      simp only [List.append_assoc]
    · rw [split]
      rfl
    · rw [split] at whole
      exact rendered.indents_body.behind whole

/-- A schema whose keys and values have braces and line breaks, in an array and in an object. -/
theorem printed_in_place_of_pet :
    let toy : Schema := .object ⟨[("\x7b\n", .enumeration [.string "\n\x7d"] none)], []⟩ none false
    let pet : Schema := .object ⟨[("toys", .array (some toy) false),
      ("owner", .object ⟨[("toy", toy)], []⟩ none true)], []⟩ none false
    let type : TypeExpr := .object [.named "\x7b\n" true (.union [.literal (.string "\n\x7d")])]
    let declaration := (pet.declaration .bare "Pet").value
    let before := "export type Pet = \x7b\n  toys?: \x7b\n    \"\x7b\\n\"?: \"\\n\x7d\";\n  \x7d[];\n" ++
      "  owner?: Nullable<\x7b\n    toy?: \x7b\n      \"\x7b\\n\"?: \"\\n\x7d\";"
    let after := "    \x7d;\n  \x7d>;\n\x7d;\n"
    (toy.render (.root "Toy")).value = some type ∧
      type.text = "\x7b\n  \"\x7b\\n\"?: \"\\n\x7d\";\n\x7d" ∧
      declaration.toList = before.toList ++ '\n' :: after.toList ∧
      (∃ front back, declaration.toList = front ++ Text.shifted 2 type.text.toList ++ back) ∧
      (∃ front back, declaration.toList = front ++ Text.shifted 4 type.text.toList ++ back) ∧
      Text.indentation after.toList =
        2 * (BraceReader.read ⟨0, .code⟩ (before.toList.drop (aliasHead "Pet").length)).openAround
          after.toList := by
  intro toy pet type declaration before after
  have rendered : (toy.render (.root "Toy")).value = some type := rfl
  have split : declaration.toList = before.toList ++ '\n' :: after.toList := by decide +kernel
  obtain ⟨-, inside, -, lines⟩ := printed_in_place.2.2 .bare "Pet" pet
  refine ⟨rendered, by decide +kernel, split, ?_, ?_, lines _ _ split (by decide +kernel)⟩
  · -- the items of the first property
    have visited : ([.items], toy) ∈ (Schema.array (some toy) false).visits :=
      mem_visits.mpr
        (.inr ⟨(.items, toy), List.mem_singleton_self _, [], self_mem_visits toy, rfl⟩)
    obtain ⟨context, -, depth, printed⟩ :=
      inside _ rfl ("toys", _) List.mem_cons_self _ visited (.root "Toy") type rendered
    rwa [depth] at printed
  · -- the property of the second one
    have visited : ([.property "toy"], toy) ∈
        (Schema.object ⟨[("toy", toy)], []⟩ none true).visits :=
      mem_visits.mpr
        (.inr ⟨(.property "toy", toy), List.mem_singleton_self _, [], self_mem_visits toy, rfl⟩)
    obtain ⟨context, -, depth, printed⟩ :=
      inside _ rfl ("owner", _) (List.mem_cons_of_mem _ (List.mem_singleton_self _)) _ visited
        (.root "Toy") type rendered
    rwa [depth] at printed

/-- The line that starts in this exported name is indented, with no object type around it. -/
theorem exported_name_breaks_line :
    let format : NameFormat := ⟨"A\n  \x7bname\x7d"⟩
    let schema : Schema := .object ⟨[], []⟩ none false
    let before := "export type A".toList
    let after := "  B = \x7b\n\x7d;\n".toList
    (schema.declaration format "B").value.toList = before ++ '\n' :: after ∧
      Text.indentation after = 2 ∧ (BraceReader.read ⟨0, .code⟩ before).openAround after = 0 := by
  decide +kernel

end Schema

end ApiTypes
