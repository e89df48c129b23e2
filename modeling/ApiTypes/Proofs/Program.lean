import ApiTypes.Program
import ApiTypes.Proofs.Generation.Writing
import ApiTypes.Proofs.Invocation

/-!
# Runs of the program

A run over a tree of files either tells something about the program, or finds that there is
nothing to do, or turns a document into a module. Only in the last case files are touched: the
output then holds the module of the document, and every other file is as it was.

## Main definitions

* `Program.Job` — arguments ask for the module of a document
* `Program.Ends` — how a run ends, with the notices that are given and the tree that is left

## Main results

* `Program.Ends.run_eq`, `Program.exists_ends` — every run ends in one of these ways
* `Program.run_log` — what is asked of the log decides only which notices it keeps
* `Program.exitCode_eq_zero_iff` — when a run succeeds
* `Program.written_of_run` — what a run that succeeds has written
* `Program.extends_of_run` — a run that fails changes no file
* `Program.run_eq_of_askedFor_eq` — arguments that ask for the same run alike
* `Program.run_again` — a second run changes nothing
-/

namespace ApiTypes

variable {tree tree' : FileTree} {arguments arguments' : List String} {invocation : Invocation}

namespace Program

/-- The arguments ask for the module of a document, and it can be loaded. -/
structure Job (tree : FileTree) (arguments : List String) (invocation : Invocation)
    (document : Document) : Prop where
  asked : Invocation.askedFor tree arguments = .ok invocation
  loaded : ∃ source, sourceText (tree.read? invocation.input) = some source ∧
    Document.load source = .ok document

/-- The declarations that the module of a document is made of. -/
def declarations (invocation : Invocation) (document : Document) : List String :=
  (document.generate invocation.settings).texts

/-- The notices that are given before the module of a document is written. -/
def noticesOf (invocation : Invocation) (document : Document) : List Notice :=
  .loaded document.title :: (document.generate invocation.settings).notices ++
    [.writing (declarations invocation document).length invocation.output]

/-- How a run ends: whether notices are to be verbose, which notices are given, the outcome but for
the log, and the tree that is left. -/
inductive Ends (tree : FileTree) (arguments : List String) :
    Bool → List Notice → Outcome → FileTree → Prop
  | help (asked : CommandLine.parse arguments = .error .help) :
      Ends tree arguments false [] { exitCode := 0, output := CommandLine.helpText } tree
  | version (asked : CommandLine.parse arguments = .error .version) :
      Ends tree arguments false [] { exitCode := 0, output := CommandLine.versionText } tree
  | stopped {stop : Invocation.Stop} {message : String}
      (asked : Invocation.askedFor tree arguments = .error stop)
      (explains : stop.error? = some message) :
      Ends tree arguments false [] { exitCode := 2, error := some message } tree
  | unreadable {invocation : Invocation}
      (asked : Invocation.askedFor tree arguments = .ok invocation)
      (unreadable : sourceText (tree.read? invocation.input) = none) :
      Ends tree arguments invocation.isVerbose []
        (failed [] ("Failed to read `" ++ invocation.input ++ "`")) tree
  | malformed {invocation : Invocation} {source : String} {e : LoadError}
      (asked : Invocation.askedFor tree arguments = .ok invocation)
      (read : sourceText (tree.read? invocation.input) = some source)
      (malformed : Document.load source = .error e) :
      Ends tree arguments invocation.isVerbose [] (failed [] "Failed to parse OpenAPI document")
        tree
  | unwritable {invocation : Invocation} {document : Document} {e : Generation.WriteError}
      {tree' : FileTree} (job : Job tree arguments invocation document)
      (wrote : tree.run (Generation.writeModule invocation.output
        (declarations invocation document)) = (.error e, tree')) :
      Ends tree arguments invocation.isVerbose (noticesOf invocation document)
        (failed [] e.message) tree'
  | written {invocation : Invocation} {document : Document} {tree' : FileTree}
      (job : Job tree arguments invocation document)
      (wrote : tree.run (Generation.writeModule invocation.output
        (declarations invocation document)) = (.ok (), tree')) :
      Ends tree arguments invocation.isVerbose (noticesOf invocation document ++ [.complete])
        { exitCode := 0 } tree'

/-- What a log keeps of the notices that are given. -/
def logOf (asked : Option String) (isVerbose : Bool) (notices : List Notice) : List String :=
  (notices.filter (Notice.Threshold.choose asked isVerbose).admits).map Notice.logText

variable {document : Document} {isVerbose : Bool} {notices : List Notice} {outcome : Outcome}
  {asked : Option String}

theorem run_of_askedFor (asked : Option String)
    (asks : Invocation.askedFor tree arguments = .ok invocation) :
    tree.run (run asked arguments) = tree.run (perform asked invocation) := by
  unfold run
  rw [FileTree.run_bind (Invocation.run_ofArguments tree arguments), asks]

/-- A run that has a document writes its module. -/
theorem run_of_job {result : Except Generation.WriteError Unit} (asked : Option String)
    (job : Job tree arguments invocation document)
    (wrote : tree.run (Generation.writeModule invocation.output
      (declarations invocation document)) = (result, tree')) :
    tree.run (run asked arguments) =
      (match result with
        | .error e =>
          failed (logOf asked invocation.isVerbose (noticesOf invocation document)) e.message
        | .ok () =>
          let notices := noticesOf invocation document ++ [.complete]
          { exitCode := 0, log := logOf asked invocation.isVerbose notices }, tree') := by
  obtain ⟨source, read, loaded⟩ := job.loaded
  have prepared : prepare source invocation.settings = .ok (declarations invocation document,
      .loaded document.title :: (document.generate invocation.settings).notices) := by
    rw [prepare, loaded]
    rfl
  rw [run_of_askedFor asked job.asked]
  unfold perform
  rw [FileTree.run_bind (FileTree.run_read tree invocation.input)]
  simp only [read, prepared]
  rw [FileTree.run_bind wrote]
  cases result <;> rfl

theorem run_of_stop {stop : CommandLine.Stop} (asked : Option String)
    (stops : CommandLine.parse arguments = .error stop) :
    tree.run (run asked arguments) = (match stop with
      | .help => { exitCode := 0, output := CommandLine.helpText }
      | .version => { exitCode := 0, output := CommandLine.versionText }
      | .error e => { exitCode := 2, error := some ("error: " ++ e.message) }, tree) := by
  unfold run
  rw [FileTree.run_bind (Invocation.run_ofArguments tree arguments),
    Invocation.askedFor_of_parse stops]
  cases stop <;> rfl

/-- A run that can end in this way does so, whatever is asked of its log. -/
theorem Ends.run_eq (ends : Ends tree arguments isVerbose notices outcome tree')
    (asked : Option String) : tree.run (run asked arguments) =
      ({ outcome with log := logOf asked isVerbose notices }, tree') := by
  cases ends with
  | help stops => exact run_of_stop asked stops
  | version stops => exact run_of_stop asked stops
  | @stopped stop message stops explains =>
    unfold run
    rw [FileTree.run_bind (Invocation.run_ofArguments tree arguments), stops]
    cases stop with
    | arguments stop => cases stop <;> cases explains; rfl
    | config e => cases explains; rfl
    | pattern e => cases explains; rfl
  | unreadable asks unreadable =>
    rw [run_of_askedFor asked asks]
    unfold perform
    rw [FileTree.run_bind (FileTree.run_read tree _), unreadable]
    rfl
  | @malformed invocation source e asks read malformed =>
    rw [run_of_askedFor asked asks]
    unfold perform
    have prepared : prepare source invocation.settings = .error e := by
      rw [prepare, malformed]
      rfl
    rw [FileTree.run_bind (FileTree.run_read tree _)]
    simp only [read, prepared]
    rfl
  | unwritable job wrote => exact run_of_job asked job wrote
  | written job wrote => exact run_of_job asked job wrote

/-- Every run ends in one of these ways. -/
theorem exists_ends (tree : FileTree) (arguments : List String) :
    ∃ isVerbose notices outcome tree', Ends tree arguments isVerbose notices outcome tree' := by
  cases parsed : CommandLine.parse arguments with
  | error stop =>
    cases stop with
    | help => exact ⟨_, _, _, _, .help parsed⟩
    | version => exact ⟨_, _, _, _, .version parsed⟩
    | error e => exact ⟨_, _, _, _, .stopped (Invocation.askedFor_of_parse parsed) rfl⟩
  | ok line =>
    cases asks : Invocation.askedFor tree arguments with
    | error stop =>
      obtain ⟨message, explains⟩ := Invocation.exists_message parsed asks
      exact ⟨_, _, _, _, .stopped asks explains⟩
    | ok invocation =>
      cases read : sourceText (tree.read? invocation.input) with
      | none => exact ⟨_, _, _, _, .unreadable asks read⟩
      | some source =>
        cases loaded : Document.load source with
        | error e => exact ⟨_, _, _, _, .malformed asks read loaded⟩
        | ok document =>
          have job : Job tree arguments invocation document := ⟨asks, source, read, loaded⟩
          cases wrote : tree.run (Generation.writeModule invocation.output
            (declarations invocation document)) with
          | mk result tree' =>
            cases result with
            | error e => exact ⟨_, _, _, _, .unwritable job wrote⟩
            | ok _ => exact ⟨_, _, _, _, .written job wrote⟩

theorem ends_of_run (ran : tree.run (run asked arguments) = (outcome, tree')) :
    ∃ isVerbose notices shown, Ends tree arguments isVerbose notices shown tree' ∧
      outcome = { shown with log := logOf asked isVerbose notices } := by
  obtain ⟨isVerbose, notices, shown, left, ends⟩ := exists_ends tree arguments
  obtain ⟨rfl, rfl⟩ := Prod.mk.inj (ran.symm.trans (ends.run_eq asked))
  exact ⟨_, _, _, ends, rfl⟩

/-- A run succeeds exactly if help or the version is asked for, or there is a document and its
module can be written. -/
theorem exitCode_eq_zero_iff (ran : tree.run (run asked arguments) = (outcome, tree')) :
    outcome.exitCode = 0 ↔
      CommandLine.parse arguments = .error .help ∨ CommandLine.parse arguments = .error .version ∨
        ∃ invocation document, Job tree arguments invocation document ∧
          (tree.run (Generation.writeModule invocation.output
            (declarations invocation document))).1 = .ok () := by
  constructor
  · intro succeeds
    obtain ⟨_, _, _, ends, rfl⟩ := ends_of_run ran
    cases ends with
    | help stops => exact .inl stops
    | version stops => exact .inr (.inl stops)
    | written job wrote => exact .inr (.inr ⟨_, _, job, by rw [wrote]⟩)
    | stopped | unreadable | malformed | unwritable => cases succeeds
  · rintro (stops | stops | ⟨invocation, document, job, wrote⟩)
    · obtain ⟨rfl, -⟩ := Prod.mk.inj (ran.symm.trans (run_of_stop asked stops))
      rfl
    · obtain ⟨rfl, -⟩ := Prod.mk.inj (ran.symm.trans (run_of_stop asked stops))
      rfl
    · have whole := Ends.written job (Prod.ext wrote rfl)
      obtain ⟨rfl, -⟩ := Prod.mk.inj (ran.symm.trans (whole.run_eq asked))
      rfl

/-- A run that succeeds has told something and left the files alone, or it has loaded the document
that is asked for and written the module of its declarations, and nothing else. -/
theorem written_of_run (ran : tree.run (run asked arguments) = (outcome, tree'))
    (succeeds : outcome.exitCode = 0) : outcome.error = none ∧
      ((outcome.output = CommandLine.helpText ∨ outcome.output = CommandLine.versionText) ∧
          tree' = tree ∨
        outcome.output = "" ∧ ∃ invocation document, Job tree arguments invocation document ∧
          tree.Written tree' invocation.output
            (Generation.moduleText (document.generate invocation.settings).texts)) := by
  obtain ⟨_, _, _, ends, rfl⟩ := ends_of_run ran
  cases ends with
  | help => exact ⟨rfl, .inl ⟨.inl rfl, rfl⟩⟩
  | version => exact ⟨rfl, .inl ⟨.inr rfl, rfl⟩⟩
  | written job wrote =>
    exact ⟨rfl, .inr ⟨rfl, _, _, job, Generation.written_of_run_writeModule wrote⟩⟩
  | stopped | unreadable | malformed | unwritable => cases succeeds

/-- A run that fails says why, and changes no file. -/
theorem extends_of_run (ran : tree.run (run asked arguments) = (outcome, tree'))
    (fails : outcome.exitCode ≠ 0) :
    outcome.error.isSome ∧ outcome.output = "" ∧ tree.Extends tree' := by
  obtain ⟨_, _, _, ends, rfl⟩ := ends_of_run ran
  cases ends with
  | help | version | written => exact absurd rfl fails
  | stopped | unreadable | malformed => exact ⟨rfl, rfl, .refl tree⟩
  | unwritable job wrote => exact ⟨rfl, rfl, Generation.extends_of_run_writeModule wrote⟩

/-- What is asked of the log decides only which notices it keeps. -/
theorem run_log (tree : FileTree) (arguments : List String) :
    ∃ (isVerbose : Bool) (notices : List Notice) (outcome : Outcome) (tree' : FileTree),
      ∀ asked, tree.run (run asked arguments) =
        ({ outcome with log := logOf asked isVerbose notices }, tree') := by
  obtain ⟨_, _, _, _, ends⟩ := exists_ends tree arguments
  exact ⟨_, _, _, _, ends.run_eq⟩

/-- Arguments that ask for the same run alike, however they ask for it. -/
theorem run_eq_of_askedFor_eq (asked : Option String)
    (same : Invocation.askedFor tree arguments = Invocation.askedFor tree arguments') :
    tree.run (run asked arguments) = tree.run (run asked arguments') := by
  unfold run
  rw [FileTree.run_bind (Invocation.run_ofArguments tree arguments),
    FileTree.run_bind (Invocation.run_ofArguments tree arguments'), same]

/-! ### A second run -/

/-- The files that a run reads for an invocation. -/
def Reads (arguments : List String) (invocation : Invocation) (path : String) : Prop :=
  path = invocation.input ∨
    ∃ line, CommandLine.parse arguments = .ok line ∧ line.config = some path

theorem exists_bytes_of_source {source : String} {bytes? : Option (List UInt8)}
    (read : sourceText bytes? = some source) : ∃ bytes, bytes? = some bytes := by
  cases bytes? with
  | none => cases read
  | some bytes => exact ⟨bytes, rfl⟩

/-- A job remains as long as the files that it is read from can be read as before. -/
theorem Job.of_reads (job : Job tree arguments invocation document)
    (keeps : ∀ path bytes, Reads arguments invocation path → tree.read? path = some bytes →
      tree'.read? path = some bytes) : Job tree' arguments invocation document := by
  constructor
  · obtain ⟨line, parsed, asks⟩ := Invocation.askedFor_eq_ok_iff.mp job.asked
    obtain ⟨file, loaded, combined⟩ := asks
    have loaded' := CommandLine.configIn_eq_ok_of_reads loaded fun path bytes config =>
      keeps path bytes (.inr ⟨line, parsed, config⟩)
    exact Invocation.askedFor_eq_ok_iff.mpr ⟨line, parsed, file, loaded', combined⟩
  · obtain ⟨source, read, loaded⟩ := job.loaded
    obtain ⟨bytes, is⟩ := exists_bytes_of_source read
    rw [is] at read
    exact ⟨source, (keeps _ _ (.inl rfl) is) ▸ read, loaded⟩

/-- Once a module has been written, another run with the same arguments ends alike and leaves
everything as it is, unless the output took the place of a file that is read. -/
theorem run_again (job : Job tree arguments invocation document)
    (ran : tree.run (run asked arguments) = (outcome, tree')) (succeeds : outcome.exitCode = 0)
    (apart : ∀ path, Reads arguments invocation path →
      tree'.locate? path ≠ tree'.locate? invocation.output) :
    tree'.run (run asked arguments) = (outcome, tree') := by
  cases wrote : tree.run (Generation.writeModule invocation.output
    (declarations invocation document)) with
  | mk result later =>
    obtain ⟨rfl, rfl⟩ := Prod.mk.inj (ran.symm.trans (run_of_job asked job wrote))
    cases result with
    | error e => cases succeeds
    | ok _ =>
      have written := Generation.written_of_run_writeModule wrote
      have job' := job.of_reads fun path _ reads read =>
        written.read?_eq_some (apart path reads) read
      exact run_of_job asked job' (Generation.run_writeModule_again wrote)

end Program

end ApiTypes
