/-!
# HTTP methods

The methods that a path item may describe an operation for. They are written in lower case.

## Main definitions

* `Method`, `Method.text`, `Method.ofText?`
-/

namespace ApiTypes

/-- An HTTP method. -/
inductive Method where
  | get
  | put
  | post
  | delete
  | options
  | head
  | patch
  | trace
deriving DecidableEq, Repr

namespace Method

/-- The method in lower case letters. -/
def text : Method → String
  | get => "get"
  | put => "put"
  | post => "post"
  | delete => "delete"
  | options => "options"
  | head => "head"
  | patch => "patch"
  | trace => "trace"

/-- All methods. -/
def all : List Method := [get, put, post, delete, options, head, patch, trace]

/-- The method that the text names. -/
def ofText? (text : String) : Option Method :=
  all.find? (·.text == text)

end Method

end ApiTypes
