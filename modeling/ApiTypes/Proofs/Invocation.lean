import ApiTypes.Invocation
import ApiTypes.Proofs.FileTree
import ApiTypes.Proofs.Outcome

/-!
# What arguments and a config file ask for

To find out what is asked for, files are read and none is touched. A config file adds to the
arguments what they do not give. So it makes no difference where the document, the module and the
format of names are given, and what the arguments give counts.

## Main definitions

* `CommandLine.configIn` — the config file that a command line names
* `Invocation.askedFor` — what arguments ask for, with that config file
* `CommandLine.completedBy` — a command line with what a config file adds to it

## Main results

* `Invocation.run_ofArguments` — this is what a run over the tree finds out
* `Invocation.askedFor_eq_of_completedBy` — what is asked for depends on the completed command line
  and the sections of the config file
-/

namespace ApiTypes

variable {tree tree' : FileTree} {arguments arguments' : List String} {invocation : Invocation}

/-! ### What is asked for -/

/-- The config file that a command line names; an empty one if it names none. -/
def CommandLine.configIn (line : CommandLine) (tree : FileTree) :
    Except ConfigError ConfigFile :=
  match line.config with
  | none => .ok {}
  | some path => ConfigFile.ofBytes path (tree.read? path)

/-- A config file is loaded alike from a tree in which its bytes can still be read. -/
theorem CommandLine.configIn_eq_ok_of_reads {line : CommandLine} {file : ConfigFile}
    (loaded : line.configIn tree = .ok file)
    (keeps : ∀ path bytes, line.config = some path → tree.read? path = some bytes →
      tree'.read? path = some bytes) : line.configIn tree' = .ok file := by
  unfold configIn at loaded ⊢
  cases config : line.config with
  | none => rwa [config] at loaded
  | some path =>
    rw [config] at loaded
    dsimp only at loaded ⊢
    cases read : tree.read? path with
    | none =>
      rw [read] at loaded
      cases loaded
    | some bytes => rwa [keeps path bytes config read, ← read]

namespace Invocation

/-- What the arguments ask for, with the config file that they name. -/
def askedFor (tree : FileTree) (arguments : List String) : Except Stop Invocation := do
  let line ← (CommandLine.parse arguments).mapError .arguments
  let file ← (line.configIn tree).mapError .config
  combine line file

theorem run_load (tree : FileTree) (path : String) :
    tree.run (ConfigFile.load path) = (ConfigFile.ofBytes path (tree.read? path), tree) := by
  rw [ConfigFile.load, FileTree.run_bind (FileTree.run_read tree path), FileTree.run_pure]

theorem run_ofArguments (tree : FileTree) (arguments : List String) :
    tree.run (ofArguments arguments) = (askedFor tree arguments, tree) := by
  unfold ofArguments askedFor
  cases CommandLine.parse arguments with
  | error stop => rfl
  | ok line =>
    simp only [Except.mapError, bind, Except.bind, CommandLine.configIn]
    cases line.config with
    | none => rfl
    | some path =>
      refine (FileTree.run_bind (run_load tree path)).trans ?_
      dsimp only
      cases ConfigFile.ofBytes path (tree.read? path) <;> rfl

theorem askedFor_of_parse {stop : CommandLine.Stop}
    (stops : CommandLine.parse arguments = .error stop) :
    askedFor tree arguments = .error (.arguments stop) := by
  rw [askedFor, stops]
  rfl

theorem askedFor_of_line {line : CommandLine} (parsed : CommandLine.parse arguments = .ok line) :
    askedFor tree arguments = (line.configIn tree).mapError .config >>= combine line := by
  rw [askedFor, parsed]
  rfl

theorem askedFor_eq_ok_iff : askedFor tree arguments = .ok invocation ↔
    ∃ line, CommandLine.parse arguments = .ok line ∧ ∃ file, line.configIn tree = .ok file ∧
      combine line file = .ok invocation := by
  simp only [askedFor, Outcome.bind_eq_ok_iff, Outcome.mapError_eq_ok_iff]

theorem exists_message_of_combine {line : CommandLine} {file : ConfigFile} {stop : Stop}
    (stops : combine line file = .error stop) : ∃ message, stop.error? = some message := by
  unfold combine at stops
  cases given : line.input.or file.input with
  | none =>
    simp only [given] at stops
    cases stops
    exact ⟨_, rfl⟩
  | some input =>
    simp only [given] at stops
    cases compiled : file.options.compile with
    | error e =>
      rw [compiled] at stops
      cases stops
      exact ⟨_, rfl⟩
    | ok settings =>
      rw [compiled] at stops
      cases stops

/-- A command line that can be read is turned down only with a message. -/
theorem exists_message {line : CommandLine} {stop : Stop}
    (parsed : CommandLine.parse arguments = .ok line)
    (stops : askedFor tree arguments = .error stop) : ∃ message, stop.error? = some message := by
  rw [askedFor_of_line parsed] at stops
  cases loaded : line.configIn tree with
  | error e =>
    rw [loaded] at stops
    cases stops
    exact ⟨_, rfl⟩
  | ok file =>
    rw [loaded] at stops
    exact exists_message_of_combine stops

end Invocation

/-! ### Where values are given -/

/-- The command line with what a config file adds: the document, the module and the format of names,
each if it is not given. No config file is needed for them any more. -/
def CommandLine.completedBy (line : CommandLine) (file : ConfigFile) : CommandLine where
  isVerbose := line.isVerbose
  input := line.input.or file.input
  config := none
  output := line.output.or file.output
  nameFormat := line.nameFormat.or (file.options.nameFormat.map NameFormat.template)

namespace Invocation

variable {line line' : CommandLine} {file file' : ConfigFile}

/-- The sections of a config file are all that counts of it, once it has been added. -/
theorem combine_completedBy (line : CommandLine) (file : ConfigFile) :
    combine (line.completedBy file)
      { options := { paths := file.options.paths, schemas := file.options.schemas } } =
        combine line file := by
  obtain ⟨version, input, output, ⟨nameFormat, paths, schemas⟩⟩ := file
  unfold combine CommandLine.completedBy
  dsimp only
  rw [Option.or_none, Option.or_none]
  cases line.input.or input with
  | none => rfl
  | some given =>
    unfold Options.compile
    cases Section.pathFilter paths with
    | error e => rfl
    | ok filter =>
      -- the format is that of the arguments, that of the file, or the bare one
      cases line.nameFormat <;> cases nameFormat <;> rfl

/-- What is asked for depends only on the command line as the config file completes it, and on the
sections of the file. Above all, what a file gives can as well be given by arguments. -/
theorem askedFor_eq_of_completedBy (parsed : CommandLine.parse arguments = .ok line)
    (parsed' : CommandLine.parse arguments' = .ok line') (loaded : line.configIn tree = .ok file)
    (loaded' : line'.configIn tree' = .ok file')
    (same : line.completedBy file = line'.completedBy file')
    (paths : file.options.paths = file'.options.paths)
    (schemas : file.options.schemas = file'.options.schemas) :
    askedFor tree arguments = askedFor tree' arguments' := by
  rw [askedFor_of_line parsed, askedFor_of_line parsed', loaded, loaded']
  change combine line file = combine line' file'
  rw [← combine_completedBy line, ← combine_completedBy line', same, paths, schemas]

end Invocation

end ApiTypes
