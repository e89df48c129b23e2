import ApiTypes.Yaml.Node.Json

/-!
# Values of YAML trees

The value of a tree keeps its keys as the values that they are, in their order and with
repetitions. The bounds on nesting and on following aliases are those of JSON values.

## Main definitions

* `Yaml.Value` — scalars, sequences and mappings
* `Yaml.Node.toValue` — the value of a node
-/

namespace ApiTypes.Yaml

/-- A value. Scalars are held as JSON values, of which they are the plain ones. -/
inductive Value where
  | scalar (value : Json)
  | sequence (items : List Value)
  | mapping (entries : List (Value × Value))
deriving Repr

/-- The value of a node whose collections are nested at most `depth` deep. -/
def Node.toValue (depth : Nat) (node : Node) : StateT Aliases Option Value := do
  match ← node.follow with
  | .scalar p style text =>
    if isForeign p.tag then failure else return .scalar (← liftM (scalarValue p.tag style text))
  | .sequence p items =>
    match depth with
    | 0 => failure
    | depth + 1 =>
      if isForeign p.tag then failure else return .sequence (← items.mapM (toValue depth))
  | .mapping p entries =>
    match depth with
    | 0 => failure
    | depth + 1 =>
      if isForeign p.tag then failure
      else return .mapping (← entries.mapM fun (key, value) => do
        return (← toValue depth key, ← toValue depth value))
  | .aliasOf _ => failure

end ApiTypes.Yaml
