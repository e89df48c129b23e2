import ApiTypes.ConfigFile
import ApiTypes.Yaml.Value

/-!
# Config files in YAML

A record is a mapping, or nothing at all. A field is named once; keys that name no field are
passed over. A text may be any scalar, whatever it stands for. A section, by contrast, is read by
the values in it, so that its patterns must be strings; its filters may also be named by the
numbers 0 and 1.

## Main definitions

* `ConfigFile.ofYaml?` — the config file of a text
-/

namespace ApiTypes.ConfigFile

open Yaml

/-- Reading from a document, with its aliases. -/
abbrev YamlReading := StateT Aliases Option

/-- A field of a record: its name, and how its value is entered. -/
structure YamlField (σ : Type) where
  name : String
  enter : Node → σ → YamlReading σ

/-- Enters the entries of a record. The names in `seen` have been entered before. -/
def enterYaml {σ : Type} (fields : List (YamlField σ)) (seen : List String) :
    List (Node × Node) → σ → YamlReading σ
  | [], state => return state
  | (key, value) :: rest, state => do
    let name ← key.keyText
    match fields.find? (·.name == name) with
    | none => enterYaml fields seen rest state
    | some field =>
      if seen.contains name then failure
      else
        let state ← field.enter value state
        enterYaml fields (name :: seen) rest state

/-- A record. -/
def yamlRecord {σ : Type} (fields : List (YamlField σ)) (start : σ) (node : Node) :
    YamlReading σ := do
  match ← node.follow with
  | .mapping _ entries => enterYaml fields [] entries start
  | .scalar _ .plain "" => return start
  | _ => failure

/-- Whether a scalar stands for the lack of a value; no answer for one that claims to be `null`
and is not. -/
def isYamlNull (properties : Properties) (style : Style) (text : String) : Option Bool :=
  if style ≠ .plain then some false
  else
    match properties.tag with
    | none => some (text == "" || Plain.isNull text)
    | some "tag:yaml.org,2002:null" => if Plain.isNull text then some true else none
    | some _ => some false

/-- A value that may be lacking. -/
def yamlOptional {α : Type} (read : Node → YamlReading α) (node : Node) :
    YamlReading (Option α) := do
  match ← node.follow with
  | .scalar properties style text =>
    if ← isYamlNull properties style text then return none
    else return some (← read (.scalar properties style text))
  | node => return some (← read node)

/-- An integer from 0 on that fits 32 bits. -/
def yamlNatural (node : Node) : YamlReading Nat := do
  match ← node.follow with
  | .scalar properties style text =>
    if style = .plain ∨ (style = .literal ∧ properties.tag = some "tag:yaml.org,2002:int") then
      let digits := match text.toList with
        | '+' :: digits => digits
        | digits => digits
      match Plain.magnitude? digits with
      | some n => if fitsWidth 32 n then return n else failure
      | none => failure
    else failure
  | _ => failure

/-- A list of patterns. -/
def patternsOfYaml : Yaml.Value → Option (List String)
  | .sequence items => items.mapM fun
    | .scalar (.string pattern) => some pattern
    | _ => none
  | _ => none

/-- The filter that a key names, by its word or its place. -/
def filterOfYaml : Yaml.Value → Option String
  | .scalar (.string name) => some name
  | .scalar (.number (.integer n)) =>
    if n < 0 then none else some (if n = 0 then "include" else if n = 1 then "exclude" else "")
  | _ => none

/-- The filters of a section. Each may be given once. -/
def filtersOfYaml (included excluded : Option (List String)) :
    List (Yaml.Value × Yaml.Value) → Option Section
  | [] => some (.filtered (included.getD []) (excluded.getD []))
  | (key, value) :: rest => do
    match ← filterOfYaml key with
    | "include" =>
      if included.isSome then none else filtersOfYaml (← patternsOfYaml value) excluded rest
    | "exclude" =>
      if excluded.isSome then none else filtersOfYaml included (← patternsOfYaml value) rest
    | _ => filtersOfYaml included excluded rest

/-- A section. -/
def sectionOfYaml : Yaml.Value → Option Section
  | .scalar (.bool value) => some (.enabled value)
  | .mapping entries => filtersOfYaml none none entries
  | _ => none

/-- A section, which lies two records deep. -/
def yamlSection (node : Node) : YamlReading Section := do
  liftM (sectionOfYaml (← node.toValue 126))

/-- The options. -/
def yamlOptions : Node → YamlReading Options :=
  yamlRecord
    [⟨"typeNameFormat", fun node o => return { o with
        nameFormat := (← yamlOptional Node.keyText node).map NameFormat.mk }⟩,
      ⟨"paths", fun node o => return { o with paths := ← yamlOptional yamlSection node }⟩,
      ⟨"schemas", fun node o => return { o with schemas := ← yamlOptional yamlSection node }⟩]
    {}

/-- The config file of a document. -/
def yamlFile : Node → YamlReading ConfigFile :=
  yamlRecord
    [⟨"version", fun node c => return { c with version := ← yamlOptional yamlNatural node }⟩,
      ⟨"input", fun node c => return { c with input := ← yamlOptional Node.keyText node }⟩,
      ⟨"output", fun node c => return { c with output := ← yamlOptional Node.keyText node }⟩,
      ⟨"options", fun node c => return { c with options := ← yamlOptions node }⟩]
    {}

/-- The config file of a text. An empty text says nothing. -/
def ofYaml? (text : String) : Option ConfigFile := do
  match ← Node.parse text with
  | none => return {}
  | some root => (yamlFile root).run' root.aliases

end ApiTypes.ConfigFile
