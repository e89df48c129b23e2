import ApiTypes.Json
import ApiTypes.Yaml.CoreSchema
import ApiTypes.Yaml.Node.Parse

/-!
# The JSON value of a YAML document

Scalars that are not plain stand for their text, unless a tag of the core schema asks for
something else. Keys always stand for their text. A document whose collections are nested more
than 128 deep is refused, and so is one that follows its aliases more than a hundred times as
often as it has nodes; a node inside itself is refused by either bound. Tags of other schemas
are refused.

## Main definitions

* `Yaml.Scalar.value` — the value of a scalar
* `Yaml.Node.toJson?` — the value of a tree
* `Yaml.parseJson` — the value of a text
-/

namespace ApiTypes.Yaml

/-- The value of a number that may not be finite; those that are not stand for `null`. -/
def Plain.toJson? : Plain → Option Json
  | .null | .notFinite => some .null
  | .bool b => some (.bool b)
  | .integer n => some (.number (.integer n))
  | .finite x => some (.number (.binary x))
  | .hugeInteger | .text => none

/-- The value of a plain scalar without a tag. -/
def plainValue (text : String) : Option Json :=
  match Plain.meaning text with
  | .text => some (.string text)
  | meaning => meaning.toJson?

/-- The value of a scalar. -/
def scalarValue (tag : Option String) (style : Style) (text : String) : Option Json :=
  match tag with
  | none => if style = .plain then plainValue text else some (.string text)
  | some "tag:yaml.org,2002:bool" => .bool <$> Plain.bool? text
  | some "tag:yaml.org,2002:int" => (Plain.integer? text.toList).bind Plain.toJson?
  | some "tag:yaml.org,2002:float" => (Plain.float? text).bind Plain.toJson?
  | some "tag:yaml.org,2002:null" => if Plain.isNull text then some .null else none
  | some _ => some (.string text)

/-- Whether the tag belongs to another schema. -/
def isForeign (tag : Option String) : Bool :=
  tag.any fun t => t.toList.head? == some '!'

/-- What aliases stand for, and how many more of them may be followed. -/
structure Aliases where
  nodes : List (Nat × Node)
  left : Nat

namespace Node

/-- The aliases of a document. -/
def aliases (root : Node) : Aliases :=
  ⟨root.anchored.reverse, 100 * root.size⟩

/-- The node itself, or the one that it is an alias for. -/
def follow (node : Node) : StateT Aliases Option Node := do
  match node with
  | .aliasOf number =>
    let s ← get
    match s.left, s.nodes.lookup number with
    | left + 1, some target =>
      set { s with left }
      return target
    | _, _ => failure
  | node => return node

/-- The text of a key. -/
def keyText (key : Node) : StateT Aliases Option String := do
  match ← key.follow with
  | .scalar _ _ text => return text
  | _ => failure

/-- The value of a node whose collections are nested at most `depth` deep. -/
def toJson (depth : Nat) (node : Node) : StateT Aliases Option Json := do
  match ← node.follow with
  | .scalar p style text =>
    if isForeign p.tag then failure else return ← liftM (scalarValue p.tag style text)
  | .sequence p items =>
    match depth with
    | 0 => failure
    | depth + 1 => if isForeign p.tag then failure else return .array (← items.mapM (toJson depth))
  | .mapping p entries =>
    match depth with
    | 0 => failure
    | depth + 1 =>
      if isForeign p.tag then failure
      else
        let values ← entries.mapM fun (key, value) => do
          let name ← key.keyText
          return (name, ← toJson depth value)
        return .object (Entries.ofList values)
  | .aliasOf _ => failure

/-- The value of the tree. -/
def toJson? (root : Node) : Option Json :=
  (toJson 128 root).run' root.aliases

end Node

/-- The value of a text; an empty text is `null`. No result stands for a text that is malformed
or that no value is held for. -/
def parseJson (text : String) : Option Json := do
  match ← Node.parse text with
  | none => return .null
  | some root => root.toJson?

end ApiTypes.Yaml
