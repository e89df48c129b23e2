import ApiTypes.Document
import ApiTypes.Schema.Decoding

/-!
# Decoding documents

Each part of a document is an object, or the list of its fields in a fixed order; a path item is
an object. Whatever names no field, and each entry of a path item that is no method, is passed
over.

## Main definitions

* `Document.decode` — the document that a JSON value describes
-/

namespace ApiTypes

open Decoding

/-- A body: its schema, which may be missing. -/
def Content.decodeBody : Json → Decoded (Option Schema) :=
  record "MediaType" [field "schema" (optional Schema.decode) fun schema _ => schema] none

/-- The bodies by media type. -/
def Content.decode : Json → Decoded Content :=
  mapOf decodeBody

/-- The body of a request. -/
def RequestBody.decode : Json → Decoded RequestBody :=
  record "RequestBody" [field "content" Content.decode fun content _ => ⟨content⟩] ⟨[]⟩

/-- An answer. -/
def Response.decode : Json → Decoded Response :=
  record "Response" [field "content" (optional Content.decode) fun content _ => ⟨content⟩] ⟨none⟩

/-- An operation. -/
def Operation.decode : Json → Decoded Operation :=
  record "Operation"
    [field "requestBody" (optional RequestBody.decode) fun body op =>
        { op with requestBody := body },
      field "responses" (mapOf Response.decode) fun responses op => { op with responses }]
    ⟨none, []⟩

/-- The operations among the entries of a path item. -/
def PathItem.decodeEntries : List (String × Json) → Decoded PathItem
  | [] => .ok []
  | (key, value) :: rest =>
    match Method.ofText? key with
    | none => decodeEntries rest
    | some method => do
      let operation ← below (.key key) (Operation.decode value)
      let operations ← decodeEntries rest
      return (method, operation) :: operations

/-- A path item. -/
def PathItem.decode : Json → Decoded PathItem
  | .object entries => decodeEntries entries
  | other => fail (.invalidType other .pathItem)

/-- What is said about the whole API: its title, which must be there. -/
def Document.decodeInfo (value : Json) : Decoded String := do
  match ← record "Info" [field "title" string fun title _ => some title] none value, value with
  | some title, _ => return title
  | none, .array _ => fail (.noElement "Info")
  | none, _ => fail (.missingField "title")

/-- The named schemas. -/
def Document.decodeComponents : Json → Decoded (List (String × Schema)) :=
  record "Components" [field "schemas" (mapOf Schema.decode) fun schemas _ => schemas] []

/-- A document. -/
def Document.decode : Json → Decoded Document :=
  record "Document"
    [field "info" (optional decodeInfo) fun title d => { d with title },
      field "paths" (mapOf PathItem.decode) fun paths d => { d with paths },
      field "components" (optional decodeComponents) fun schemas d =>
        { d with schemas := schemas.getD [] }]
    ⟨none, [], []⟩

end ApiTypes
