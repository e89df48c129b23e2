import ApiTypes.Declaration
import ApiTypes.Selection

/-!
# Generating a module

Every schema that is selected becomes one declaration. The module starts with a banner and the
alias that admits `null`; an empty line stands in front of each declaration.

## Main definitions

* `Document.generate` — the declarations of a document
* `Generation.moduleText` — the text of the module
-/

namespace ApiTypes

/-- A selection, and the declarations of its schemas under their bare names. -/
structure Generation where
  selection : Selection
  declarations : List (String × Reported String)
deriving Repr

/-- The declarations of a document. -/
def Document.generate (document : Document) (settings : Settings) : Generation :=
  let selection := document.select settings
  ⟨selection, selection.entries.map fun (name, schema) =>
    (name, schema.declaration settings.nameFormat name)⟩

namespace Generation

/-- The texts of the declarations. -/
def texts (generation : Generation) : List String :=
  generation.declarations.map (·.2.value)

/-- The diagnostics of all declarations. -/
def diagnostics (generation : Generation) : List Diagnostic :=
  generation.declarations.flatMap (·.2.diagnostics)

/-- The notices of the generation. -/
def notices (generation : Generation) : List Notice :=
  generation.selection.notices ++ .selected generation.declarations.length ::
    generation.declarations.flatMap fun (name, declaration) =>
      .generating name :: declaration.diagnostics.map .leftOut

/-- What a module starts with. -/
def banner : String :=
  "// This file was generated by openapi-ts-types. Do not edit it by hand.\n\n" ++
    "export type Nullable<T> = T | null;\n"

/-- The text of the module with the declarations. -/
def moduleText (declarations : List String) : String :=
  banner ++ String.join (declarations.map ("\n" ++ ·))

end Generation

end ApiTypes
