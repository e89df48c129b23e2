import ApiTypes.Yaml.Scalar

/-!
# Tokens of YAML texts

Where a block collection starts and ends is told by indentation, so the tokens for that have no
characters of their own.

## Main definitions

* `Yaml.Token`
-/

namespace ApiTypes.Yaml

/-- A token. A tag is given by the handle of its directive and the rest; a tag in angle brackets
has an empty handle. -/
inductive Token where
  | versionDirective (major minor : Nat)
  | tagDirective (handle expansion : String)
  | documentStart
  | documentEnd
  | blockSequenceStart
  | blockMappingStart
  | blockEnd
  | flowSequenceStart
  | flowSequenceEnd
  | flowMappingStart
  | flowMappingEnd
  | blockEntry
  | flowEntry
  | key
  | value
  | aliasOf (anchor : String)
  | anchor (name : String)
  | tag (handle suffix : String)
  | scalar (style : Style) (text : String)
deriving DecidableEq, Repr

end ApiTypes.Yaml
