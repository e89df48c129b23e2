import ApiTypes.ConfigFile
import ApiTypes.Toml.Reader

/-!
# Config files in TOML

Values are taken as they are written: a text must be a string. Options may also be written as the
list of their fields. A date counts as a table that names no field.

## Main definitions

* `ConfigFile.ofToml?` — the config file of a text
-/

namespace ApiTypes.ConfigFile

open Toml

/-- Reads a field if it is there. -/
def tomlField {α : Type} (read : Toml.Value → Option α) (name : String)
    (entries : List (String × Toml.Value)) : Option (Option α) :=
  match Entries.find? name entries with
  | none => some none
  | some value => some <$> read value

/-- A string. -/
def tomlText : Toml.Value → Option String
  | .string text => some text
  | _ => none

/-- An integer from 0 on that fits 32 bits. -/
def tomlNatural : Toml.Value → Option Nat
  | .integer n => if 0 ≤ n ∧ fitsWidth 32 n then some n.toNat else none
  | _ => none

mutual

/-- Whether the integers in a value fit 64 bits. -/
def fits64 : Toml.Value → Bool
  | .integer n => fitsWidth 64 n
  | .array items => allFit64 items
  | .table entries => entriesFit64 entries
  | _ => true

/-- Whether the integers in all values fit 64 bits. -/
def allFit64 : List Toml.Value → Bool
  | [] => true
  | value :: rest => fits64 value && allFit64 rest

/-- Whether the integers in all entries fit 64 bits. -/
def entriesFit64 : List (String × Toml.Value) → Bool
  | [] => true
  | (_, value) :: rest => fits64 value && entriesFit64 rest

end

/-- A list of patterns. -/
def patternsOfToml : Toml.Value → Option (List String)
  | .array items => items.mapM tomlText
  | _ => none

/-- A section. Its integers must fit 64 bits, also where they are passed over. -/
def sectionOfToml : Toml.Value → Option Section
  | .boolean value => some (.enabled value)
  | .dateTime => some (.filtered [] [])
  | .table entries => do
    if entriesFit64 entries then
      return .filtered ((← tomlField patternsOfToml "include" entries).getD [])
        ((← tomlField patternsOfToml "exclude" entries).getD [])
    else none
  | _ => none

/-- The options. Items past the last field of a list are passed over. -/
def optionsOfToml : Toml.Value → Option Options
  | .dateTime => some {}
  | .table entries => do
    return { nameFormat := (← tomlField tomlText "typeNameFormat" entries).map NameFormat.mk
             paths := ← tomlField sectionOfToml "paths" entries
             schemas := ← tomlField sectionOfToml "schemas" entries }
  | .array items => do
    return { nameFormat := (← items[0]?.mapM tomlText).map NameFormat.mk
             paths := ← items[1]?.mapM sectionOfToml
             schemas := ← items[2]?.mapM sectionOfToml }
  | _ => none

/-- The config file of a text. -/
def ofToml? (text : String) : Option ConfigFile := do
  let entries ← Toml.parse? text
  return { version := ← tomlField tomlNatural "version" entries
           input := ← tomlField tomlText "input" entries
           output := ← tomlField tomlText "output" entries
           options := (← tomlField optionsOfToml "options" entries).getD {} }

end ApiTypes.ConfigFile
