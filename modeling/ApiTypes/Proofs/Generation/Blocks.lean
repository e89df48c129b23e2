import ApiTypes.Proofs.Generation.Aliases
import ApiTypes.Proofs.Text.Lines

/-!
# The blocks of a module

A declaration has no empty line, whatever stands in it: within a type every line is indented or
closes an object type, and the text of names and values is written on one line. So the empty lines
of a module are those in front of its declarations, and its blocks are what it was made of.

## Main results

* `Indented.isParagraph` — indented lines are not empty
* `Generation.isParagraph_exportedAlias` — declarations have no empty line
* `Generation.blocks_moduleText` — the blocks of a module
* `Document.blocks_module` — the blocks of the module of a document
-/

namespace ApiTypes

open TypeExpr (Rendered)

/-- Where every break is followed by an indented line or by a brace, no line is empty. -/
theorem Indented.isParagraph {body : List Char} (indented : Indented body)
    (starts : ∃ c ∈ body.head?, c ≠ '\n') : Text.IsParagraph (body ++ ['\n']) := by
  refine ⟨⟨body, rfl⟩, fun among => ?_⟩
  obtain ⟨earlier, later, split⟩ := List.append_of_mem among
  have whole : body ++ ['\n'] = earlier.flatten ++ '\n' :: later.flatten := by
    rw [← Text.flatten_lines (body ++ ['\n']), split, List.flatten_append, List.flatten_cons]
    rfl
  by_cases isFirst : earlier = []
  · -- the text would start with the empty line
    obtain ⟨c, first, noBreak⟩ := starts
    have firstOfWhole : (body ++ ['\n']).head? = some c := by
      rw [List.head?_append, Option.mem_def.mp first, Option.some_or]
    rw [whole, isFirst] at firstOfWhole
    exact noBreak (Option.some.inj firstOfWhole).symm
  · -- two breaks would follow each other, and the second one may be the last of all
    obtain ⟨before, ends⟩ := Text.exists_of_lines_eq_append split isFirst
    rw [ends, List.append_assoc, List.singleton_append] at whole
    rcases List.eq_nil_or_concat later.flatten with rest | ⟨rest, d, concat⟩
    · have isBody : body = before ++ '\n' :: [] := by
        have sameLast : body ++ ['\n'] = (before ++ ['\n']) ++ ['\n'] := by
          rw [whole, rest, List.append_assoc, List.singleton_append]
        exact List.append_cancel_right sameLast
      obtain ⟨c, first, -⟩ := indented before [] isBody
      cases first
    · have isBody : body = before ++ '\n' :: ('\n' :: rest) := by
        rw [concat, List.concat_eq_append] at whole
        have sameLast : body ++ ['\n'] = (before ++ '\n' :: '\n' :: rest) ++ [d] := by
          rw [whole, List.append_assoc, List.cons_append, List.cons_append]
        exact (List.append_inj' sameLast rfl).1
      obtain ⟨c, first, indents⟩ := indented before ('\n' :: rest) isBody
      obtain rfl := Option.some.inj first
      exact absurd indents (by decide)

namespace Generation

/-- Only the name that is declared could break a line in such a way that the next one is empty. -/
theorem isParagraph_exportedAlias {name : String} (oneLine : '\n' ∉ name.toList) {type : TypeExpr}
    (rendered : Rendered type) : Text.IsParagraph (exportedAlias name type).toList := by
  have before : Indented ("export type ".toList ++ (nameChars name.toList ++ " = ".toList)) := by
    refine .append (.of_not_mem (by decide)) (.append (.of_not_mem fun among => ?_) ?_)
    · exact oneLine (mem_of_mem_nameChars among)
    · exact .of_not_mem (by decide)
  have after : Indented (type.text.toList ++ [';']) :=
    rendered.indented_text.append (.of_not_mem (by decide))
  rw [toList_exportedAlias]
  exact (before.append after).isParagraph ⟨'e', rfl, by decide⟩

/-- The comment that a module starts with. -/
def comment : String :=
  "// This file was generated by openapi-ts-types. Do not edit it by hand.\n"

/-- The declaration of the alias that admits `null`. -/
def nullableAlias : String := "export type Nullable<T> = T | null;\n"

/-- A module is the comment and, after an empty line each, the alias and the declarations. -/
theorem toList_moduleText (declarations : List String) :
    (moduleText declarations).toList = comment.toList ++
      (nullableAlias.toList :: declarations.map String.toList).flatMap ('\n' :: ·) := by
  have start : banner = comment ++ ("\n" ++ nullableAlias) := rfl
  have rest : (String.join (declarations.map ("\n" ++ ·))).toList =
      (declarations.map String.toList).flatMap ('\n' :: ·) := by
    rw [String.toList_join, List.flatMap_map, List.flatMap_map]
    exact List.flatMap_congr fun declaration _ => String.toList_append
  rw [moduleText, start, String.toList_append, String.toList_append, String.toList_append, rest,
    List.flatMap_cons, List.append_assoc]
  rfl

/-- Declarations without empty lines are the blocks of their module, after the two that every
module starts with. -/
theorem blocks_moduleText {declarations : List String}
    (whole : ∀ declaration ∈ declarations, Text.IsParagraph declaration.toList) :
    Text.blocks (moduleText declarations).toList =
      comment.toList :: nullableAlias.toList :: declarations.map String.toList := by
  have isComment : Text.IsParagraph (comment.toList.dropLast ++ ['\n']) :=
    Text.isParagraph_of_not_mem (by simp [comment]) (by simp [comment])
  have isAlias : Text.IsParagraph (nullableAlias.toList.dropLast ++ ['\n']) :=
    Text.isParagraph_of_not_mem (by simp [nullableAlias]) (by simp [nullableAlias])
  rw [toList_moduleText]
  refine Text.blocks_paragraphs ?_
  simpa using ⟨isComment, isAlias, whole⟩

end Generation

/-- Let no exported name have a line break in it. Then no declaration has an empty line, and the
blocks of the module are the comment, the alias that admits `null`, and all declarations, complete
and in order. -/
theorem Document.blocks_module {document : Document} {settings : Settings}
    (oneLine : ∀ name ∈ Entries.keys (document.select settings).entries,
      '\n' ∉ (settings.nameFormat.apply name).toList) :
    let declarations := (document.generate settings).texts
    (∀ declaration ∈ declarations, ['\n'] ∉ Text.lines declaration.toList) ∧
      (Text.blocks (Generation.moduleText declarations).toList).map String.ofList =
        "// This file was generated by openapi-ts-types. Do not edit it by hand.\n" ::
          "export type Nullable<T> = T | null;\n" :: declarations := by
  intro declarations
  have whole : ∀ declaration ∈ declarations, Text.IsParagraph declaration.toList := by
    intro declaration among
    simp only [declarations, Document.texts_generate, List.map_map, List.mem_map] at among
    obtain ⟨⟨name, schema⟩, selected, rfl⟩ := among
    exact Generation.isParagraph_exportedAlias (oneLine name (List.mem_map_of_mem selected))
      (schema.rendered_rootType (.root name))
  refine ⟨fun declaration among => (whole declaration among).noEmptyLine, ?_⟩
  rw [Generation.blocks_moduleText whole]
  simp [Generation.comment, Generation.nullableAlias, Function.comp_def]

/-- Empty lines in the name of a property and in a listed value, an object type of which nothing is
left, and a schema that declares nothing. -/
theorem Document.blocks_module_of_pets :
    let listed : Schema := .enumeration [.string "\n\n"] none
    let nothing : Schema := .object ⟨[("d", .unsupported none)], []⟩ none false
    let document : Document := ⟨none, [], [
      ("Pet", .object ⟨[("a\n\nb", listed), ("c", nothing)], ["a\n\nb"]⟩ none false),
      ("Owner", .primitive .string false)]⟩
    let settings : Settings := ⟨.all, true, ⟨"Api\x7bname\x7d"⟩⟩
    let declarations := (document.generate settings).texts
    (∀ name ∈ Entries.keys (document.select settings).entries,
        '\n' ∉ (settings.nameFormat.apply name).toList) ∧
      declarations =
        ["export type ApiPet = \x7b\n  \"a\\n\\nb\": \"\\n\\n\";\n  c?: \x7b\n  \x7d;\n\x7d;\n",
          "export type ApiOwner = \x7b\n\x7d;\n"] ∧
      (∀ declaration ∈ declarations, ['\n'] ∉ Text.lines declaration.toList) ∧
      (Text.blocks (Generation.moduleText declarations).toList).map String.ofList =
        "// This file was generated by openapi-ts-types. Do not edit it by hand.\n" ::
          "export type Nullable<T> = T | null;\n" :: declarations := by
  intro listed nothing document settings declarations
  have exported : (Entries.keys (document.select settings).entries).map settings.nameFormat.apply =
      ["ApiPet", "ApiOwner"] := by decide +kernel
  have oneLine : ∀ name ∈ Entries.keys (document.select settings).entries,
      '\n' ∉ (settings.nameFormat.apply name).toList := by
    intro name among
    have inExported := List.mem_map_of_mem (f := settings.nameFormat.apply) among
    rw [exported] at inExported
    have each : ∀ name ∈ ["ApiPet", "ApiOwner"], '\n' ∉ name.toList := by decide
    exact each _ inExported
  exact ⟨oneLine, by decide +kernel, Document.blocks_module oneLine⟩

end ApiTypes
