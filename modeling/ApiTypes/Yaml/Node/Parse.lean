import ApiTypes.Yaml.Node
import ApiTypes.Yaml.Token.Scan

/-!
# The tree of a YAML text

A text holds one document: directives and a start mark if there are directives, one node, and
end marks. Whatever is left out where a node may stand is an empty scalar.

All functions are bounded by a number of steps; each step takes a token, or is followed by one
that does.

## Main definitions

* `Yaml.Node.parse` — the tree of a text, `none` in the middle of the result for an empty text,
  and no result for a malformed one
-/

namespace ApiTypes.Yaml

/-- The tokens that are left, the anchors in use with their numbers, and the tag directives. -/
structure Input where
  tokens : List Token
  anchors : List (String × Nat) := []
  tags : List (String × String) := []

/-- A step that reads something or refuses. -/
abbrev Reader := StateT Input Option

namespace Reader

/-- The next token. -/
def peek : Reader (Option Token) := do return (← get).tokens.head?

/-- Moves past the next token. -/
def advance : Reader Unit := modify fun s => { s with tokens := s.tokens.tail }

/-- Whether the next token is the given one. -/
def isNext (token : Token) : Reader Bool := do return (← peek) == some token

/-- Whether the next token is one of the given ones. -/
def isNextIn (tokens : List Token) : Reader Bool := do return (← peek).any tokens.contains

/-- Moves past the token, which must be next. -/
def expect (token : Token) : Reader Unit := do
  if ← isNext token then advance else failure

/-- Moves past the token if it is next, and says whether it was. -/
def skipIf (token : Token) : Reader Bool := do
  if ← isNext token then
    advance
    return true
  else return false

/-- Takes a name into use for an anchor. Its number is the count of the names in use. -/
def newAnchor (name : String) : Reader Nat := do
  let s ← get
  let number := s.anchors.length
  set { s with anchors := (name, number) :: s.anchors.filter (·.1 != name) }
  return number

/-- The number of an anchor that is in use. -/
def anchorNumber (name : String) : Reader Nat := do
  match (← get).anchors.lookup name with
  | some number => return number
  | none => failure

/-- The tag with its handle replaced by what the directive says. -/
def fullTag (handle suffix : String) : Reader String := do
  if handle = "" then return suffix
  else
    match (← get).tags.lookup handle with
    | some expansion => return expansion ++ suffix
    | none => failure

/-- An anchor, if one is next. -/
def anchor? : Reader (Option Nat) := do
  match ← peek with
  | some (.anchor name) =>
    advance
    return some (← newAnchor name)
  | _ => return none

/-- A tag, if one is next, as its handle and suffix. -/
def tag? : Reader (Option (String × String)) := do
  match ← peek with
  | some (.tag handle suffix) =>
    advance
    return some (handle, suffix)
  | _ => return none

/-- The properties in front of a node: an anchor and a tag in either order. -/
def properties : Reader Properties := do
  let first ← anchor?
  let tag ← tag?
  let second ← if first.isNone && tag.isSome then anchor? else pure none
  let full ← tag.mapM fun (handle, suffix) => fullTag handle suffix
  return ⟨full, first.or second⟩

/-- The tokens that follow a key or a value that is left out, in a block mapping. -/
def endsBlockEntry : List Token := [.key, .value, .blockEnd]

/-- A scalar with its properties. The tag `!` says nothing about it. -/
def scalarNode (p : Properties) (style : Style) (text : String) : Node :=
  .scalar { p with tag := p.tag.filter (· ≠ "!") } style text

mutual

/-- A node. `block` admits block collections, and `indentless` a sequence whose dashes stand in
the column of the mapping around it. -/
def node (block indentless : Bool) : Nat → Reader Node
  | 0 => failure
  | fuel + 1 => do
    match ← peek with
    | some (.aliasOf name) =>
      advance
      return .aliasOf (← anchorNumber name)
    | _ =>
      let p ← properties
      match ← peek with
      | some (.scalar style text) =>
        advance
        return scalarNode p style text
      | some .flowSequenceStart =>
        advance
        return .sequence p (← flowItems true fuel)
      | some .flowMappingStart =>
        advance
        return .mapping p (← flowEntries true fuel)
      | some .blockEntry =>
        if indentless then return .sequence p (← indentlessItems fuel)
        else if p = {} then failure
        else return .empty p
      | some .blockSequenceStart =>
        if block then
          advance
          return .sequence p (← blockItems fuel)
        else if p = {} then failure
        else return .empty p
      | some .blockMappingStart =>
        if block then
          advance
          return .mapping p (← blockEntries fuel)
        else if p = {} then failure
        else return .empty p
      | _ => if p = {} then failure else return .empty p

/-- A node, or an empty scalar if one of the tokens is next. -/
def nodeUnless (stops : List Token) (block indentless : Bool) : Nat → Reader Node
  | 0 => failure
  | fuel + 1 => do
    if ← isNextIn stops then return .empty {} else node block indentless fuel

/-- The entries of a block sequence up to its end. -/
def blockItems : Nat → Reader (List Node)
  | 0 => failure
  | fuel + 1 => do
    if ← skipIf .blockEntry then
      let item ← nodeUnless [.blockEntry, .blockEnd] true false fuel
      return item :: (← blockItems fuel)
    else
      expect .blockEnd
      return []

/-- The entries of a sequence that has no end of its own. -/
def indentlessItems : Nat → Reader (List Node)
  | 0 => failure
  | fuel + 1 => do
    if ← skipIf .blockEntry then
      let item ← nodeUnless (.blockEntry :: endsBlockEntry) true false fuel
      return item :: (← indentlessItems fuel)
    else return []

/-- The entries of a block mapping up to its end. -/
def blockEntries : Nat → Reader (List (Node × Node))
  | 0 => failure
  | fuel + 1 => do
    if ← skipIf .key then
      let key ← nodeUnless endsBlockEntry true true fuel
      let value ←
        if ← skipIf .value then nodeUnless endsBlockEntry true true fuel else pure (.empty {})
      return (key, value) :: (← blockEntries fuel)
    else
      expect .blockEnd
      return []

/-- The items of a sequence in brackets up to the closing one. An entry of a mapping may stand
for a mapping of one entry. -/
def flowItems (first : Bool) : Nat → Reader (List Node)
  | 0 => failure
  | fuel + 1 => do
    if ← skipIf .flowSequenceEnd then return []
    else
      if ¬ first then expect .flowEntry
      if ← skipIf .flowSequenceEnd then return []
      else if ← skipIf .key then
        let entry ← singleEntry fuel
        return .mapping {} [entry] :: (← flowItems false fuel)
      else
        let item ← node false false fuel
        return item :: (← flowItems false fuel)

/-- The entry of a mapping that stands in brackets. If its key is left out, the token in its
place is passed over. -/
def singleEntry : Nat → Reader (Node × Node)
  | 0 => failure
  | fuel + 1 => do
    let key ←
      if ← isNextIn [.value, .flowEntry, .flowSequenceEnd] then do
        advance
        pure (.empty {})
      else node false false fuel
    let value ←
      if ← skipIf .value then nodeUnless [.flowEntry, .flowSequenceEnd] false false fuel
      else pure (.empty {})
    return (key, value)

/-- The entries of a mapping in braces up to the closing one. -/
def flowEntries (first : Bool) : Nat → Reader (List (Node × Node))
  | 0 => failure
  | fuel + 1 => do
    if ← skipIf .flowMappingEnd then return []
    else
      if ¬ first then expect .flowEntry
      if ← skipIf .flowMappingEnd then return []
      else if ← skipIf .key then
        let key ← nodeUnless [.value, .flowEntry, .flowMappingEnd] false false fuel
        let value ←
          if ← skipIf .value then nodeUnless [.flowEntry, .flowMappingEnd] false false fuel
          else pure (.empty {})
        return (key, value) :: (← flowEntries false fuel)
      else
        let key ← node false false fuel
        return (key, .empty {}) :: (← flowEntries false fuel)

end

/-- The directives in front of a document: at most one version, which must be 1.1 or 1.2, and
one tag directive for each handle. Says whether there was one. -/
def directives (versioned : Bool) (tags : List (String × String)) :
    Nat → Reader (List (String × String) × Bool)
  | 0 => failure
  | fuel + 1 => do
    match ← peek with
    | some (.versionDirective major minor) =>
      if versioned ∨ major ≠ 1 ∨ (minor ≠ 1 ∧ minor ≠ 2) then failure
      else
        advance
        directives true tags fuel
    | some (.tagDirective handle expansion) =>
      if (tags.lookup handle).isSome then failure
      else
        advance
        directives versioned ((handle, expansion) :: tags) fuel
    | _ => return (tags, versioned || !tags.isEmpty)

/-- The handles that need no directive. -/
def defaultTags : List (String × String) :=
  [("!", "!"), ("!!", "tag:yaml.org,2002:")]

/-- Passes over end marks up to the end of the tokens. -/
def documentEnds : Nat → Reader Unit
  | 0 => failure
  | fuel + 1 => do
    match ← peek with
    | none => return ()
    | some .documentEnd =>
      advance
      documentEnds fuel
    | some _ => failure

/-- The only document of a text, if there is one. -/
def document (fuel : Nat) : Reader (Option Node) := do
  if (← peek).isNone then return none
  else
    let (tags, directed) ← directives false [] fuel
    modify fun s => { s with tags := tags ++ defaultTags }
    let explicit ← skipIf .documentStart
    if directed ∧ ¬ explicit then failure
    else
      let done ← (do
        match ← peek with
        | none | some .documentEnd => return true
        | _ => return false : Reader Bool)
      let root ← if explicit ∧ done then pure (.empty {}) else node true false fuel
      documentEnds fuel
      return some root

end Reader

/-- The tree of a text; an empty text has none. No result stands for a malformed text. -/
def Node.parse (text : String) : Option (Option Node) := do
  let tokens ← scanTokens text.toList
  let fuel := 4 * tokens.length + 4
  let (root, _) ← (Reader.document fuel).run { tokens }
  return root

end ApiTypes.Yaml
