import ApiTypes.Entries

/-!
# TOML values

## Main definitions

* `Toml.Value` — values of a TOML text
-/

namespace ApiTypes.Toml

/-- A value. Of numbers with a fraction and of dates only the kind is kept. -/
inductive Value where
  | string (text : String)
  | integer (value : Int)
  | float
  | boolean (value : Bool)
  | dateTime
  | array (items : List Value)
  | table (entries : List (String × Value))
deriving Repr, Inhabited

end ApiTypes.Toml
