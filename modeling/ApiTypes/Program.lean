import ApiTypes.Document.Loading
import ApiTypes.Generation.Writing
import ApiTypes.Invocation
import ApiTypes.Notice.Log

/-!
# The program

The program reads a document, writes the module of its declarations, and gives notice of it.

## Main definitions

* `Program.run` — a run of the program with given arguments
* `Program.Outcome` — what a run shows, and the code that it exits with
-/

namespace ApiTypes.Program

/-- What a run shows. -/
structure Outcome where
  exitCode : Nat
  output : String := ""
  log : List String := []
  error : Option String := none
deriving DecidableEq, Repr

/-- The text of a document that was read. -/
def sourceText (bytes : Option (List UInt8)) : Option String :=
  (bytes.bind Utf8.decode?).map String.ofList

/-- What there is to do for a document: the declarations of its module, and the notices of
their making. -/
def prepare (source : String) (settings : Settings) :
    Except LoadError (List String × List Notice) := do
  let document ← Document.load source
  let generation := document.generate settings
  return (generation.texts, .loaded document.title :: generation.notices)

/-- The outcome of a run that fails. -/
def failed (log : List String) (message : String) : Outcome :=
  { exitCode := 1, log, error := some ("Error: " ++ message) }

/-- A run that has something to do. -/
def perform {m : Type → Type} [Monad m] [FileAccess m] (asked : Option String)
    (invocation : Invocation) : m Outcome := do
  let threshold := Notice.Threshold.choose asked invocation.isVerbose
  let logOf (notices : List Notice) := (notices.filter threshold.admits).map Notice.logText
  match sourceText (← FileAccess.read invocation.input) with
  | none => return failed [] ("Failed to read `" ++ invocation.input ++ "`")
  | some source =>
    match prepare source invocation.settings with
    | .error _ => return failed [] "Failed to parse OpenAPI document"
    | .ok (declarations, notices) =>
      let notices := notices ++ [.writing declarations.length invocation.output]
      match ← Generation.writeModule invocation.output declarations with
      | .error e => return failed (logOf notices) e.message
      | .ok () => return { exitCode := 0, log := logOf (notices ++ [.complete]) }

/-- A run with the given arguments. `asked` is the level that the log is asked to keep. -/
def run {m : Type → Type} [Monad m] [FileAccess m] (asked : Option String)
    (arguments : List String) : m Outcome := do
  match ← Invocation.ofArguments arguments with
  | .ok invocation => perform asked invocation
  | .error (.arguments .help) => return { exitCode := 0, output := CommandLine.helpText }
  | .error (.arguments .version) => return { exitCode := 0, output := CommandLine.versionText }
  | .error stop => return { exitCode := 2, error := stop.error? }

end ApiTypes.Program
