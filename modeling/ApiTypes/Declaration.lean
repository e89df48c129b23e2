import ApiTypes.DeclarationName
import ApiTypes.Rendering
import ApiTypes.TypeExpr.Printer

/-!
# Declarations

A schema is declared as an exported alias of an object type that has the properties the schema
itself declares; whatever else it says is passed over.

## Main definitions

* `Schema.declaration` — the text of a declaration
-/

namespace ApiTypes

/-- The object type of the properties that the schema itself declares. -/
def Schema.rootType (path : SchemaPath) (schema : Schema) : Reported TypeExpr :=
  match schema.rootProperties with
  | some properties => do return .object (← properties.render path)
  | none => return .object []

/-- The declaration of the schema under its bare name, which the format turns into the exported
one. -/
def Schema.declaration (format : NameFormat) (name : String) (schema : Schema) :
    Reported String := do
  let type ← schema.rootType (.root name)
  return exportedAlias (format.apply name) type

end ApiTypes
