import ApiTypes.DeclarationName
import ApiTypes.Notice

/-!
# Options

Options say which declarations are made and how they are named. A section, the paths or the named
schemas, is switched on or off, or filtered by lists of glob patterns.

## Main definitions

* `Options`, `Section` — options as they are written
* `Options.notices` — what there is notice of when they are put to use
-/

namespace ApiTypes

/-- What is wanted of a section: all of it, nothing, or what the patterns let through. -/
inductive Section where
  | enabled (value : Bool)
  | filtered (included excluded : List String)
deriving DecidableEq, Repr

/-- Options as they are written. -/
structure Options where
  nameFormat : Option NameFormat := none
  paths : Option Section := none
  schemas : Option Section := none
deriving DecidableEq, Repr

/-- Whether there are patterns for named schemas, which do not count. -/
def Options.hasIdlePatterns (options : Options) : Bool :=
  match options.schemas with
  | some (.filtered included excluded) => !(included.isEmpty && excluded.isEmpty)
  | _ => false

/-- What there is notice of when the options are put to use. -/
def Options.notices (options : Options) : List Notice :=
  if options.hasIdlePatterns then [.idlePatterns] else []

end ApiTypes
