import ApiTypes.Json.Printer
import ApiTypes.Text.Escaped

/-!
# Decoding JSON values

A decoder reads a JSON value as a value of the domain, or says where and why it cannot. The
first fault in the order of the text is the one that is reported.

## Main definitions

* `Decoded` — the result of decoding
* `Decoding.Error` — a place and a cause, `Decoding.Path.text` and `Decoding.Cause.message` the
  words for them
* `Decoding.listOf`, `Decoding.mapOf`, `Decoding.optional`, `Decoding.record` — decoders made of
  decoders
-/

namespace ApiTypes

namespace Decoding

/-- A step into a value. -/
inductive Step where
  | key (name : String)
  | index (n : Nat)
deriving DecidableEq, Repr

/-- What a decoder asks for. -/
inductive Expected where
  | boolean
  | string
  | sequence
  | map
  | pathItem
  | struct (name : String)
deriving DecidableEq, Repr

/-- The words for what a decoder asks for. -/
def Expected.text : Expected → String
  | boolean => "a boolean"
  | string => "a string"
  | sequence => "a sequence"
  | map => "a map"
  | pathItem => "a path item"
  | struct name => "struct " ++ name

/-- Why a value cannot be decoded. -/
inductive Cause where
  | invalidType (found : Json) (expected : Expected)
  | missingField (name : String)
  | noElement (struct : String)
  | extraElements (length : Nat)
  | noVariant (type : String)
deriving Repr

/-- The words for a value that is not what a decoder asks for. -/
def described : Json → String
  | .null => "null"
  | .bool b => "boolean `" ++ (if b then "true" else "false") ++ "`"
  | .number (.integer n) => "integer `" ++ toString n ++ "`"
  | .number (.binary x) => "floating point `" ++ x.text ++ "`"
  | .string s => "string " ++ Text.escaped s
  | .array _ => "sequence"
  | .object _ => "map"

/-- The cause in words. -/
def Cause.message : Cause → String
  | invalidType found expected =>
    "invalid type: " ++ described found ++ ", expected " ++ expected.text
  | missingField name => "missing field `" ++ name ++ "`"
  | noElement struct => "invalid length 0, expected struct " ++ struct ++ " with 1 element"
  | extraElements length =>
    "invalid length " ++ toString length ++ ", expected fewer elements in array"
  | noVariant type => "data did not match any variant of untagged enum " ++ type

/-- A place in a value, from the outside in. -/
abbrev Path := List Step

/-- The steps after the first one: keys after a point, indexes in brackets. -/
def Path.below : Path → String
  | [] => ""
  | .key name :: rest => "." ++ name ++ below rest
  | .index n :: rest => "[" ++ toString n ++ "]" ++ below rest

/-- The place as a text; the whole value is a point. -/
def Path.text : Path → String
  | [] => "."
  | .key name :: rest => name ++ below rest
  | .index n :: rest => "[" ++ toString n ++ "]" ++ below rest

/-- A place, and why the value there cannot be decoded. -/
structure Error where
  path : Path
  cause : Cause
deriving Repr

end Decoding

/-- What a decoder gives. -/
abbrev Decoded (α : Type) := Except Decoding.Error α

namespace Decoding

/-- Fails with a cause at the value itself. -/
def fail {α : Type} (cause : Cause) : Decoded α :=
  .error ⟨[], cause⟩

/-- Places a result below a step. -/
def below {α : Type} (step : Step) : Decoded α → Decoded α
  | .ok value => .ok value
  | .error e => .error { e with path := step :: e.path }

/-- A boolean. -/
def boolean : Json → Decoded Bool
  | .bool b => .ok b
  | other => fail (.invalidType other .boolean)

/-- A string. -/
def string : Json → Decoded String
  | .string s => .ok s
  | other => fail (.invalidType other .string)

/-- The items of a list, from the one with index `n` on. -/
def itemsFrom {α : Type} (decode : Json → Decoded α) (n : Nat) : List Json → Decoded (List α)
  | [] => .ok []
  | item :: rest => do
    let value ← below (.index n) (decode item)
    let values ← itemsFrom decode (n + 1) rest
    return value :: values

/-- A list whose items are decoded one by one. -/
def listOf {α : Type} (decode : Json → Decoded α) : Json → Decoded (List α)
  | .array items => itemsFrom decode 0 items
  | other => fail (.invalidType other .sequence)

/-- The entries of a map. -/
def entriesOf {α : Type} (decode : Json → Decoded α) :
    List (String × Json) → Decoded (List (String × α))
  | [] => .ok []
  | (key, item) :: rest => do
    let value ← below (.key key) (decode item)
    let values ← entriesOf decode rest
    return (key, value) :: values

/-- A map whose values are decoded one by one. -/
def mapOf {α : Type} (decode : Json → Decoded α) : Json → Decoded (List (String × α))
  | .object entries => entriesOf decode entries
  | other => fail (.invalidType other .map)

/-- A value that may be `null`. -/
def optional {α : Type} (decode : Json → Decoded α) : Json → Decoded (Option α)
  | .null => .ok none
  | other => some <$> decode other

/-- A field of a record: its name, and how its value is entered. -/
structure Field (σ : Type) where
  name : String
  enter : Json → σ → Decoded σ

/-- The field that a decoder fills by a setter. -/
def field {α σ : Type} (name : String) (decode : Json → Decoded α) (set : α → σ → σ) : Field σ :=
  ⟨name, fun value state => (set · state) <$> decode value⟩

/-- Enters the fields of a record written as an object. Keys that name no field are passed
over. -/
def enterEntries {σ : Type} (fields : List (Field σ)) :
    List (String × Json) → σ → Decoded σ
  | [], state => .ok state
  | (key, value) :: rest, state =>
    match fields.find? (·.name == key) with
    | none => enterEntries fields rest state
    | some f => do
      let state ← below (.key key) (f.enter value state)
      enterEntries fields rest state

/-- Enters the fields of a record written as a list, one by one. Missing items at the end are
left out. -/
def enterItems {σ : Type} : List (Field σ) → Nat → List Json → σ → Decoded σ
  | f :: fields, n, item :: rest, state => do
    let state ← below (.index n) (f.enter item state)
    enterItems fields (n + 1) rest state
  | _, _, [], state => .ok state
  | [], n, items, _ => fail (.extraElements (n + items.length))

/-- A record, written as an object or as the list of its fields. -/
def record {σ : Type} (name : String) (fields : List (Field σ)) (start : σ) : Json → Decoded σ
  | .object entries => enterEntries fields entries start
  | .array items => enterItems fields 0 items start
  | other => fail (.invalidType other (.struct name))

end Decoding

end ApiTypes
