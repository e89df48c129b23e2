import ApiTypes.Diagnostic

/-!
# Notices

While a document is turned into a module, notice is given of what happens. A notice has a level,
a message, and named fields.

## Main definitions

* `Notice` — what there is notice of
* `Notice.level`, `Notice.message`, `Notice.fields`
-/

namespace ApiTypes

/-- How much a notice matters. -/
inductive Notice.Level where
  | error
  | warn
  | info
  | debug
  | trace
deriving DecidableEq, Repr

/-- The level in capital letters. -/
def Notice.Level.text : Level → String
  | error => "ERROR"
  | warn => "WARN"
  | info => "INFO"
  | debug => "DEBUG"
  | trace => "TRACE"

/-- What there is notice of. -/
inductive Notice where
  | idlePatterns
  | skippedPath (template : String)
  | replaced (name : String)
  | selected (count : Nat)
  | generating (name : String)
  | leftOut (diagnostic : Diagnostic)
  | loaded (title : Option String)
  | writing (count : Nat) (path : String)
  | complete
deriving DecidableEq, Repr

/-- The value of a field. -/
inductive Notice.FieldValue where
  | text (value : String)
  | count (value : Nat)
deriving DecidableEq, Repr

namespace Notice

/-- The level. -/
def level : Notice → Level
  | idlePatterns | leftOut _ => .warn
  | loaded _ | writing _ _ | complete => .info
  | skippedPath _ | replaced _ | selected _ | generating _ => .debug

/-- The message. -/
def message : Notice → String
  | idlePatterns => "`include` and `exclude` only apply to paths; ignoring them for schemas"
  | skippedPath _ => "skipping filtered path"
  | replaced _ => "replacing declaration with the same name"
  | selected _ => "selected schemas"
  | generating _ => "generating declaration"
  | leftOut diagnostic => diagnostic.path ++ " " ++ diagnostic.message
  | loaded title => "OpenAPI: " ++ title.getD "(untitled)"
  | writing count path => "Writing " ++ toString count ++ " types to `" ++ path ++ "`..."
  | complete => "Generation complete"

/-- The named fields. -/
def fields : Notice → List (String × FieldValue)
  | idlePatterns | loaded _ | writing _ _ | complete => []
  | skippedPath template => [("path", .text template)]
  | replaced name | generating name => [("name", .text name)]
  | selected count => [("count", .count count)]
  | leftOut diagnostic => [("path", .text diagnostic.path)]

end Notice

end ApiTypes
