import ApiTypes.Schema

/-!
# Diagnostics

A schema that cannot be rendered is left out, and reported with the place of the schema in its
declaration, such as `Pet.tags.items[]`.

## Main definitions

* `SchemaPath` — a place in a declaration, `SchemaPath.text` its display
* `Diagnostic` — a place and what is wrong there
* `Reported` — a value together with the diagnostics of its making, in their order
-/

namespace ApiTypes

/-- A step from a schema to one inside it. -/
inductive SchemaPath.Step where
  | property (name : String)
  | items
  | branch (op : Combinator) (index : Nat)
  | additionalProperties
deriving DecidableEq, Repr

/-- The step in words. -/
def SchemaPath.Step.text : Step → String
  | property name => name
  | items => "items[]"
  | branch op index => op.text ++ "." ++ toString index
  | additionalProperties => "additionalProperties"

/-- A place in a declaration: the declaration itself, or one step below a place. -/
inductive SchemaPath where
  | root (name : String)
  | child (parent : SchemaPath) (step : SchemaPath.Step)
deriving DecidableEq, Repr

/-- The place with its steps after points. -/
def SchemaPath.text : SchemaPath → String
  | root name => name
  | child parent step => parent.text ++ "." ++ step.text

/-- Something that was left out: where, and why. -/
structure Diagnostic where
  path : String
  message : String
deriving DecidableEq, Repr

/-- A value and the diagnostics of its making, in their order. -/
structure Reported (α : Type) where
  value : α
  diagnostics : List Diagnostic
deriving Repr

namespace Reported

/-- A value without diagnostics. -/
def of {α : Type} (value : α) : Reported α := ⟨value, []⟩

/-- One thing after another. -/
def andThen {α β : Type} (first : Reported α) (next : α → Reported β) : Reported β :=
  let second := next first.value
  ⟨second.value, first.diagnostics ++ second.diagnostics⟩

instance : Monad Reported where
  pure := of
  bind := andThen

/-- Nothing, for a reason. -/
def skip {α : Type} (path : SchemaPath) (message : String) : Reported (Option α) :=
  ⟨none, [⟨path.text, message⟩]⟩

end Reported

end ApiTypes
