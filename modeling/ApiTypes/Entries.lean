/-!
# Keyed entries

A list of keys with their values, in which order matters. Entering a key that is there already
replaces its value and keeps its place, so keys stay distinct.

## Main definitions

* `Entries.find?` — the value of a key
* `Entries.insert` — enters a key and its value
* `Entries.ofList` — enters the pairs of a list one after another
-/

namespace ApiTypes

/-- Keys and their values, in order. -/
abbrev Entries (α : Type) := List (String × α)

namespace Entries

variable {α : Type}

/-- The value of the first entry with the key. -/
def find? (key : String) (entries : Entries α) : Option α :=
  entries.lookup key

/-- Enters the key with its value: in the place of an entry with that key, else at the end. -/
def insert (key : String) (value : α) : Entries α → Entries α
  | [] => [(key, value)]
  | (k, v) :: rest => if k = key then (key, value) :: rest else (k, v) :: insert key value rest

/-- Enters the pairs of a list one after another. -/
def ofList (pairs : List (String × α)) : Entries α :=
  pairs.foldl (fun entries (key, value) => insert key value entries) []

end Entries

end ApiTypes
