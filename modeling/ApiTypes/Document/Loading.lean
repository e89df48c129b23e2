import ApiTypes.Document.Decoding
import ApiTypes.Reference
import ApiTypes.Yaml.Node.Json

/-!
# Loading documents

A document is a YAML text. Its references are expanded before it is decoded.

## Main definitions

* `Document.load` — the document of a text
* `LoadError` — why there is none
-/

namespace ApiTypes

/-- Why a text is no document. -/
inductive LoadError where
  | malformed
  | reference (fault : Reference.Fault)
  | shape (error : Decoding.Error)
deriving Repr

namespace LoadError

/-- The error in words. -/
def message : LoadError → String
  | malformed => "failed to parse OpenAPI document"
  | reference fault => fault.message
  | shape _ => "document doesn't match the OpenAPI schema"

/-- Advice on the error. -/
def help? : LoadError → Option String
  | reference fault => fault.help?
  | _ => none

end LoadError

/-- The document of a text. -/
def Document.load (text : String) : Except LoadError Document := do
  let some value := Yaml.parseJson text | throw .malformed
  let value ← value.expanded.mapError .reference
  (Document.decode value).mapError .shape

end ApiTypes
