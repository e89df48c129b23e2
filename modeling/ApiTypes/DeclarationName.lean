import ApiTypes.Method
import ApiTypes.PathTemplate
import ApiTypes.Text.Words

/-!
# Names of declarations

A body of an operation is named after the method, the path and its place: the response to
`GET /pets/{petId}` with status `200` is `GetPetsByPetIdOkResponse`. A name format then puts the
bare name into a template such as `Api{name}`.

## Main definitions

* `Suffix` — the place of a body: a response with a status, or the request
* `declarationName` — the bare name of a body
* `NameFormat.apply` — the exported name
-/

namespace ApiTypes

/-- The word for a status in a name. -/
def statusText (status : String) : String :=
  if status = "200" then "Ok" else if status = "201" then "Created" else status

/-- The place of a body in its operation. -/
inductive Suffix where
  | response (status : String)
  | requestBody
deriving DecidableEq, Repr

/-- How the place ends a name. -/
def Suffix.text : Suffix → String
  | .response status => statusText status ++ "Response"
  | .requestBody => "RequestBody"

/-- What a fragment of the path adds to a name. -/
def PathTemplate.Fragment.nameText : Fragment → String
  | .literal text => Text.pascalCase text
  | .param name => "By" ++ Text.pascalCase name

/-- What a path adds to a name. -/
def PathTemplate.nameText (template : String) : String :=
  String.join ((segments template).flatten.map Fragment.nameText)

/-- The bare name of a body of the operation. -/
def declarationName (template : String) (method : Method) (suffix : Suffix) : String :=
  Text.pascalCase method.text ++ PathTemplate.nameText template ++ suffix.text

/-- A template for exported names. -/
structure NameFormat where
  template : String
deriving DecidableEq, Repr

namespace NameFormat

/-- The format that exports bare names. -/
def bare : NameFormat := ⟨"\x7bname\x7d"⟩

/-- Puts the name in the place of the first `{name}` of the template. -/
def substitute (name : List Char) : List Char → List Char
  | '\x7b' :: 'n' :: 'a' :: 'm' :: 'e' :: '\x7d' :: rest => name ++ rest
  | c :: rest => c :: substitute name rest
  | [] => []

/-- The exported name: the bare name in the place of the first `{name}` of the template, which
stays as it is if there is none. -/
def apply (format : NameFormat) (name : String) : String :=
  String.ofList (substitute name.toList format.template.toList)

end NameFormat

end ApiTypes
