import ApiTypes.Options

/-!
# Config files

A config file names the document, the module that is written, and the options.

## Main definitions

* `ConfigFile`
-/

namespace ApiTypes

/-- What a config file says. -/
structure ConfigFile where
  version : Option Nat := none
  input : Option String := none
  output : Option String := none
  options : Options := {}
deriving DecidableEq, Repr

/-- The version that is understood. -/
def ConfigFile.supportedVersion : Nat := 1

end ApiTypes
