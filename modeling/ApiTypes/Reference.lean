import ApiTypes.Json.Pointer
import ApiTypes.Text.Percent

/-!
# References

An object with a string under the key `$ref` is a reference: it stands for the value that the
string leads to, and whatever else it says is dropped. The string is `#` and a percent-encoded
JSON pointer into the document itself. Expansion puts the expanded target in the place of each
reference. Targets are looked up in the document as it was written.

A reference that is met again while it is being expanded is part of a cycle. The references
under way are held in a list; as they are distinct texts of the document, there are never more of
them than the document has references. A target that has been expanded is kept, and not expanded
a second time.

## Main definitions

* `Json.reference?` — the text of a reference
* `Reference.target` — the value that a reference leads to
* `Reference.expandWith` — expands a value, given how its references are followed
* `Reference.follow` — the expanded target of a reference
* `Json.expanded` — the document with all its references expanded
-/

namespace ApiTypes

/-- The text of a reference, given the entries of an object. -/
def Json.reference? (entries : List (String × Json)) : Option String :=
  match Entries.find? "$ref" entries with
  | some (.string reference) => some reference
  | _ => none

namespace Json

mutual

/-- The texts of the references in a value, those inside other references included. -/
def references : Json → List String
  | object entries => (reference? entries).toList ++ entryReferences entries
  | array items => itemReferences items
  | _ => []

/-- The texts of the references in the items of an array. -/
def itemReferences : List Json → List String
  | [] => []
  | item :: rest => references item ++ itemReferences rest

/-- The texts of the references in the entries of an object. -/
def entryReferences : List (String × Json) → List String
  | [] => []
  | (_, value) :: rest => references value ++ entryReferences rest

end

end Json

namespace Reference

/-- Why a reference cannot be expanded. -/
inductive Fault where
  | external (reference : String)
  | dangling (reference : String)
  | cyclic (reference : String)
deriving DecidableEq, Repr

/-- The value in the document that a reference leads to. -/
def target (document : Json) (reference : String) : Except Fault Json :=
  match reference.toList with
  | '#' :: fragment =>
    match (Json.Pointer.parse? (Percent.decode fragment)).bind (Json.at? · document) with
    | some value => .ok value
    | none => .error (.dangling reference)
  | _ => .error (.external reference)

/-- The references that have been expanded, with their expansions, and failure for a fault. -/
abbrev Expansion := StateT (List (String × Json)) (Except Fault)

mutual

/-- Expands a value, given how its references are followed. -/
def expandWith (follow : String → Expansion Json) : Json → Expansion Json
  | .object entries =>
    match Json.reference? entries with
    | some reference => follow reference
    | none => return .object (← expandEntries follow entries)
  | .array items => return .array (← expandItems follow items)
  | value => return value

/-- Expands the items of an array. -/
def expandItems (follow : String → Expansion Json) : List Json → Expansion (List Json)
  | [] => return []
  | item :: rest => do
    let value ← expandWith follow item
    let values ← expandItems follow rest
    return value :: values

/-- Expands the values of an object. -/
def expandEntries (follow : String → Expansion Json) :
    List (String × Json) → Expansion (List (String × Json))
  | [] => return []
  | (key, item) :: rest => do
    let value ← expandWith follow item
    let values ← expandEntries follow rest
    return (key, value) :: values

end

/-- The expanded target of a reference, where `underway` lists the references that are being
expanded. At most `fuel` more can be under way at a time. -/
def follow (document : Json) : Nat → List String → String → Expansion Json
  | fuel, underway, reference => do
    match (← get).lookup reference with
    | some value => return value
    | none =>
      if underway.contains reference then throw (.cyclic reference)
      else
        let value ← target document reference
        match fuel with
        | 0 => throw (.cyclic reference)
        | fuel + 1 =>
          let value ← expandWith (follow document fuel (reference :: underway)) value
          modify ((reference, value) :: ·)
          return value

/-- How many references can be under way in a document at a time: each of its own, and the one
that is asked for. -/
def depthBound (document : Json) : Nat :=
  document.references.length + 1

/-- Expands a value whose references lead into the document. -/
def expand (document value : Json) : Except Fault Json :=
  (expandWith (follow document (depthBound document) []) value).run' []

/-- The fault in words. -/
def Fault.message : Fault → String
  | external reference => "external reference `" ++ reference ++ "` isn't supported"
  | dangling reference =>
    "reference `" ++ reference ++ "` doesn't point to anything in the document"
  | cyclic reference => "reference `" ++ reference ++ "` is part of a cycle"

/-- Advice on the fault. -/
def Fault.help? : Fault → Option String
  | external _ => some "only references into the same document (`#/...`) are resolved"
  | dangling _ => none
  | cyclic _ => some "self-referential schemas can't be expanded into inline types"

end Reference

/-- The document with all its references expanded. -/
def Json.expanded (document : Json) : Except Reference.Fault Json :=
  Reference.expand document document

end ApiTypes
