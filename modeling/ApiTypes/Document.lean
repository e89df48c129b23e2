import ApiTypes.MediaType
import ApiTypes.Method
import ApiTypes.Schema

/-!
# Documents

A document describes an API: what it is called, the operations behind each path template, and
the schemas that it names. Everything is kept in the order of the text.

## Main definitions

* `Document` and its parts `Operation`, `RequestBody`, `Response`
* `RequestBody.jsonSchema`, `Response.jsonSchema` — the schema of a body in JSON
-/

namespace ApiTypes

/-- The bodies that are described, each under its media type, and their schemas if they have
one. -/
abbrev Content := List (String × Option Schema)

/-- The schema of the first body in JSON, if it has one. -/
def Content.jsonSchema (content : Content) : Option Schema :=
  (content.find? (MediaType.isJson ·.1)).bind (·.2)

/-- The body of a request. -/
structure RequestBody where
  content : Content
deriving Repr

/-- The schema of the body in JSON. -/
def RequestBody.jsonSchema (body : RequestBody) : Option Schema :=
  body.content.jsonSchema

/-- An answer to a request. -/
structure Response where
  content : Option Content
deriving Repr

/-- The schema of the body in JSON. -/
def Response.jsonSchema (response : Response) : Option Schema :=
  response.content.bind Content.jsonSchema

/-- What a method does: the body that it takes, and its answers by their status. -/
structure Operation where
  requestBody : Option RequestBody
  responses : List (String × Response)
deriving Repr

/-- The operations of a path. -/
abbrev PathItem := List (Method × Operation)

/-- The description of an API. -/
structure Document where
  title : Option String
  paths : List (String × PathItem)
  schemas : List (String × Schema)
deriving Repr

end ApiTypes
