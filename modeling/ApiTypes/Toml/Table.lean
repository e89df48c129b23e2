import ApiTypes.Toml

/-!
# Building TOML tables

A table may be spread over a text: a header opens the table that the keys after it belong to, a
header in double brackets adds a table to a list, and a dotted key makes tables on its way. A
table that was opened by a header, or written as a value, is not opened again, and the table
that a dotted key adds to is one that dotted keys have made.

## Main definitions

* `Toml.Item` — what a key stands for while tables are being built
* `Toml.Draft.enter?` — enters a dotted key and its value
* `Toml.Draft.openTable?`, `Toml.Draft.openListed?` — enters a header
* `Toml.Draft.entries` — the entries as values
-/

namespace ApiTypes.Toml

/-- How a table came to be: on the way of a header, on the way of a dotted key, or by its own
header. -/
inductive Origin where
  | implied
  | dotted
  | opened
deriving DecidableEq, Repr

/-- What a key stands for while tables are being built. The last one of listed tables is the one
that is built. -/
inductive Item where
  | value (value : Value)
  | table (origin : Origin) (entries : List (String × Item))
  | listed (done : List (List (String × Item))) (last : List (String × Item))
deriving Repr, Inhabited

/-- The entries of a table that is being built. -/
abbrev Draft := List (String × Item)

namespace Draft

/-- Changes the table at the end of a path. Tables that are missing on the way are made; a list
of tables is entered at its last one. The change is told where its table comes from. -/
def change (dotted : Bool) (f : Origin → Draft → Option Draft) (origin : Origin) :
    List String → Draft → Option Draft
  | [], draft => f origin draft
  | key :: path, draft =>
    match Entries.find? key draft with
    | none =>
      let origin := if dotted then Origin.dotted else .implied
      (change dotted f origin path []).map fun entries =>
        Entries.insert key (.table origin entries) draft
    | some (.table origin entries) =>
      if dotted ∧ origin = .opened then none
      else (change dotted f origin path entries).map fun entries =>
        Entries.insert key (.table origin entries) draft
    | some (.listed done last) =>
      (change dotted f .opened path last).map fun last =>
        Entries.insert key (.listed done last) draft
    | some (.value _) => none

/-- Enters a key that is not there yet. -/
def enterNew? (key : String) (value : Value) (draft : Draft) : Option Draft :=
  match Entries.find? key draft with
  | none => some (draft ++ [(key, .value value)])
  | some _ => none

/-- Enters a dotted key, its steps and its last part, with its value. -/
def enter? (path : List String) (key : String) (value : Value) (draft : Draft) : Option Draft :=
  change true (fun origin draft =>
    if path ≠ [] ∧ origin ≠ .dotted then none else enterNew? key value draft) .opened path draft

/-- Enters a key and its value below a header. -/
def enterBelow? (header path : List String) (key : String) (value : Value) (draft : Draft) :
    Option Draft :=
  change false (fun _ draft => enter? path key value draft) .opened header draft

/-- Enters the header of a table. A table that is only implied so far may be opened. -/
def openTable? (path : List String) (key : String) (draft : Draft) : Option Draft :=
  change false (fun _ draft =>
    match Entries.find? key draft with
    | none => some (draft ++ [(key, .table .opened [])])
    | some (.table .implied entries) =>
      some (draft.filter (·.1 != key) ++ [(key, .table .opened entries)])
    | some _ => none) .opened path draft

/-- Enters the header of a further table of a list. -/
def openListed? (path : List String) (key : String) (draft : Draft) : Option Draft :=
  change false (fun _ draft =>
    match Entries.find? key draft with
    | none => some (draft ++ [(key, .listed [] [])])
    | some (.listed done last) => some (Entries.insert key (.listed (done ++ [last]) []) draft)
    | some _ => none) .opened path draft

end Draft

mutual

/-- The value that an item has become. -/
def Item.toValue : Item → Value
  | .value value => value
  | .table _ entries => .table (Draft.entries entries)
  | .listed done last => .array (Draft.tables done ++ [.table (Draft.entries last)])

/-- The entries of a table as values. -/
def Draft.entries : List (String × Item) → List (String × Value)
  | [] => []
  | (key, item) :: rest => (key, item.toValue) :: Draft.entries rest

/-- Tables as values. -/
def Draft.tables : List (List (String × Item)) → List Value
  | [] => []
  | entries :: rest => .table (Draft.entries entries) :: Draft.tables rest

end

end ApiTypes.Toml
