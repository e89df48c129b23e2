import ApiTypes.Options
import ApiTypes.Text.Glob

/-!
# Settings

Settings are options with their patterns compiled. A path is kept if it matches a pattern of the
first list, or that list is empty, and matches none of the second.

## Main definitions

* `Settings`, `PathFilter` — compiled options
* `PathFilter.retains` — whether a path template is kept
* `Options.compile` — compiles options, or says which pattern is bad
-/

namespace ApiTypes

/-- Which paths are wanted. -/
structure PathFilter where
  isEnabled : Bool
  included : List Glob
  excluded : List Glob
deriving DecidableEq, Repr

namespace PathFilter

/-- The filter that lets every path through. -/
def all : PathFilter := ⟨true, [], []⟩

/-- Whether the patterns let a path template through. -/
def retains (filter : PathFilter) (template : String) : Bool :=
  (filter.included.isEmpty || filter.included.any (·.isMatch template)) &&
    !filter.excluded.any (·.isMatch template)

end PathFilter

/-- A pattern, and what is wrong with it. -/
structure PatternError where
  pattern : String
  error : Glob.Error
deriving DecidableEq, Repr

namespace PatternError

/-- The error in words. -/
def message (e : PatternError) : String :=
  "invalid glob pattern `" ++ e.pattern ++ "`"

/-- The error in words, with its cause. -/
def fullMessage (e : PatternError) : String :=
  e.message ++ ": Pattern syntax error near position " ++ toString e.error.position ++ ": " ++
    e.error.fault.message

end PatternError

/-- Compiles the patterns of a list; the first bad one is the error. -/
def compilePatterns (patterns : List String) : Except PatternError (List Glob) :=
  patterns.mapM fun pattern => (Glob.compile pattern).mapError (⟨pattern, ·⟩)

/-- The filter of lists of patterns. -/
def PathFilter.compile (included excluded : List String) : Except PatternError PathFilter := do
  return ⟨true, ← compilePatterns included, ← compilePatterns excluded⟩

/-- What is to be declared, and how it is named. -/
structure Settings where
  paths : PathFilter
  schemas : Bool
  nameFormat : NameFormat
deriving DecidableEq, Repr

/-- The filter that a section of paths makes. -/
def Section.pathFilter : Option Section → Except PatternError PathFilter
  | none => .ok .all
  | some (.enabled value) => .ok { PathFilter.all with isEnabled := value }
  | some (.filtered included excluded) => PathFilter.compile included excluded

/-- Whether a section that cannot be filtered is wanted. Its patterns do not count. -/
def Section.isWanted : Option Section → Bool
  | some (.enabled value) => value
  | _ => true

namespace Options

/-- The settings that the options make. -/
def compile (options : Options) : Except PatternError Settings := do
  return ⟨← Section.pathFilter options.paths, Section.isWanted options.schemas,
    options.nameFormat.getD .bare⟩

end Options

end ApiTypes
