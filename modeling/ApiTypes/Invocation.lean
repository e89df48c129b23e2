import ApiTypes.CommandLine
import ApiTypes.ConfigFile.Loading
import ApiTypes.Settings

/-!
# What a command line asks for

The arguments come first, then the config file that they name, then defaults.

## Main definitions

* `Invocation` — the document, the module and the settings
* `Invocation.ofArguments` — what the arguments ask for
* `Invocation.Stop` — why there is nothing to do
-/

namespace ApiTypes

/-- The document that is read, the module that is written, and the settings. -/
structure Invocation where
  isVerbose : Bool
  input : String
  output : String
  settings : Settings
deriving Repr

namespace Invocation

/-- Why there is nothing to do. -/
inductive Stop where
  | arguments (stop : CommandLine.Stop)
  | config (error : ConfigError)
  | pattern (error : PatternError)
deriving Repr

/-- The error in words, if there is one. -/
def Stop.error? : Stop → Option String
  | arguments (.error e) => some ("error: " ++ e.message)
  | arguments .help | arguments .version => none
  | config e => some ("error: " ++ e.message)
  | pattern e => some ("error: " ++ e.fullMessage)

/-- The module that is written by default. -/
def defaultOutput : String := "openapi-typescript-types.ts"

/-- What a command line asks for together with a config file. -/
def combine (line : CommandLine) (file : ConfigFile) : Except Stop Invocation := do
  let some input := line.input.or file.input | throw (.arguments (.error .missingInput))
  let settings ← file.options.compile.mapError .pattern
  return {
    isVerbose := line.isVerbose
    input
    output := (line.output.or file.output).getD defaultOutput
    settings := match line.nameFormat with
      | some template => { settings with nameFormat := ⟨template⟩ }
      | none => settings }

/-- What the arguments ask for. -/
def ofArguments {m : Type → Type} [Monad m] [FileAccess m] (arguments : List String) :
    m (Except Stop Invocation) := do
  match CommandLine.parse arguments with
  | .error stop => return .error (.arguments stop)
  | .ok line =>
    match line.config with
    | none => return combine line {}
    | some path =>
      match ← ConfigFile.load path with
      | .error e => return .error (.config e)
      | .ok file => return combine line file

end Invocation

end ApiTypes
