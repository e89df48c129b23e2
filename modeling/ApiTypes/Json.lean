import ApiTypes.Entries
import ApiTypes.Number.Shortest

/-!
# JSON values

Objects keep their entries in the order in which they were written. A reader enters a repeated
key in the place of its first occurrence with the value of the last one, so that the keys of an
object that was read are distinct.

## Main definitions

* `Json` — JSON values
* `Json.Number` — integers and binary floating point numbers, which are never the same value
* `Json.Number.text` — the text of a number
-/

namespace ApiTypes

/-- A number: an integer, or a binary floating point number. -/
inductive Json.Number where
  | integer (value : Int)
  | binary (value : Binary64)
deriving DecidableEq, Repr

/-- A JSON value. -/
inductive Json where
  | null
  | bool (value : Bool)
  | number (value : Json.Number)
  | string (value : String)
  | array (items : List Json)
  | object (entries : List (String × Json))
deriving Repr, Inhabited

namespace Json

/-- The number as a text. -/
def Number.text : Number → String
  | .integer value => toString value
  | .binary value => value.text

end Json

end ApiTypes
