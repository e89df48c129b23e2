import ApiTypes.Proofs.Reference.Resolution
import Mathlib.Computability.StateTransition

/-!
# Expansion one step at a time

Expansion as a machine that takes one step after another, with nothing that bounds how deep it may
go. A step expands a value, follows a reference, or hands the answer of a call to what waits for
it. The references under way are a stack: following a reference enters it, and once the target is
expanded the last one that was entered is taken off and stored with the answer. So the stack is
changed as the run goes on, and nothing but the order of the steps makes entering and taking off
fit together.

A call does what the expansion of its value or reference does, whatever waits for its answer.
Its answer comes when the frames are again those that the call was made with, and the references
under way are then the same as well. As the references of the document are finitely many, every
call is answered or ends the run with a fault.

## Main definitions

* `Reference.Machine`, `Machine.step` — the state of an expansion, and one step
* `Reference.Within` — a step during which the frames of a call stay in place
* `Reference.Returns`, `Reference.Fails` — the two ways in which a call ends
* `Reference.Ends`, `Reference.Performs` — a call ends with a result, and as a computation does

## Main results

* `performs_expand`, `performs_follow` — calls do what the expansion does
* `exists_mem_eval_start` — the run of a document ends, with the expansion of the document
-/

namespace ApiTypes.Reference

open Relation (ReflTransGen)

/-- What an expansion does next: it is called to expand a value or to follow a reference, it goes
on with an array or an object of which a part is expanded, or it has an answer or a fault. -/
inductive Task where
  | expand (value : Json)
  | follow (reference : String)
  | items (expanded rest : List Json)
  | entries (expanded rest : List (String × Json))
  | answer (value : Json)
  | fail (fault : Fault)

/-- What waits for the answer of a call: an array, an object, or a reference whose target is being
expanded. -/
inductive Frame where
  | item (expanded rest : List Json)
  | entry (expanded : List (String × Json)) (key : String) (rest : List (String × Json))
  | target

/-- The state of an expansion: its task, what waits for the answer, the references under way with
the last one first, and the references that are finished. -/
structure Machine where
  task : Task
  frames : List Frame
  underway : List String
  store : List (String × Json)

namespace Machine

/-- A step that follows a reference. -/
def stepFollow (document : Json) (reference : String) (m : Machine) : Machine :=
  match m.store.lookup reference with
  | some value => { m with task := .answer value }
  | none =>
    if m.underway.contains reference then { m with task := .fail (.cyclic reference) }
    else
      match target document reference with
      | .error fault => { m with task := .fail fault }
      | .ok found =>
        { m with
          task := .expand found
          frames := .target :: m.frames
          underway := reference :: m.underway }

/-- A step that hands an answer to the first frame. An expanded target is stored under the
reference that is taken off, which would be the empty text if there were none. -/
def stepAnswer (value : Json) (m : Machine) : Option Machine :=
  match m.frames with
  | [] => none
  | .item expanded rest :: frames =>
    some { m with task := .items (expanded ++ [value]) rest, frames := frames }
  | .entry expanded key rest :: frames =>
    some { m with task := .entries (expanded ++ [(key, value)]) rest, frames := frames }
  | .target :: frames =>
    some { m with
      frames := frames
      underway := m.underway.tail
      store := (m.underway.headD "", value) :: m.store }

/-- One step, unless the run is at its end. -/
def step (document : Json) (m : Machine) : Option Machine :=
  match m.task with
  | .expand (.object entries) =>
    match Json.reference? entries with
    | some reference => some { m with task := .follow reference }
    | none => some { m with task := .entries [] entries }
  | .expand (.array items) => some { m with task := .items [] items }
  | .expand value => some { m with task := .answer value }
  | .follow reference => some (m.stepFollow document reference)
  | .items expanded [] => some { m with task := .answer (.array expanded) }
  | .items expanded (item :: rest) =>
    some { m with task := .expand item, frames := .item expanded rest :: m.frames }
  | .entries expanded [] => some { m with task := .answer (.object expanded) }
  | .entries expanded ((key, item) :: rest) =>
    some { m with task := .expand item, frames := .entry expanded key rest :: m.frames }
  | .answer value => m.stepAnswer value
  | .fail _ => none

/-- The call that expands a whole document. -/
def start (document : Json) : Machine where
  task := .expand document
  frames := []
  underway := []
  store := []

/-- The outcome of a run that is at its end. -/
def outcome? (m : Machine) : Option (Except Fault Json) :=
  match m.task, m.frames with
  | .answer value, [] => some (.ok value)
  | .fail fault, _ => some (.error fault)
  | _, _ => none

end Machine

variable {document : Json} {m m' : Machine} {frames outer : List Frame}
  {underway : List String} {store store' : List (String × Json)} {task task' : Task}

/-- There is no step exactly when the run is at its end. -/
theorem Machine.step_eq_none_iff :
    m.step document = none ↔ ∃ outcome, m.outcome? = some outcome := by
  obtain ⟨task, frames, underway, store⟩ := m
  cases task with
  | expand value =>
    cases value with
    | object entries => cases is : Json.reference? entries <;> simp [step, is, outcome?]
    | _ => simp [step, outcome?]
  | follow reference => simp [step, outcome?]
  | items expanded rest => cases rest <;> simp [step, outcome?]
  | entries expanded rest => cases rest <;> simp [step, outcome?]
  | answer value =>
    cases frames with
    | nil => simp [step, stepAnswer, outcome?]
    | cons frame frames => cases frame <;> simp [step, stepAnswer, outcome?]
  | fail fault => simp [step, outcome?]

/-! ### The run of a call -/

/-- A step after which the frames are still in place. -/
def Within (document : Json) (frames : List Frame) (m m' : Machine) : Prop :=
  m' ∈ m.step document ∧ frames <:+ m'.frames

/-- The call is answered: its frames, which were in place all the time, are the ones that wait. -/
def Returns (document : Json) (call last : Machine) : Prop :=
  ReflTransGen (Within document call.frames) call last ∧ last.frames = call.frames ∧
    ∃ value, last.task = .answer value

/-- The call ends the run with a fault. -/
def Fails (document : Json) (call : Machine) (fault : Fault) : Prop :=
  ∃ last, ReflTransGen (Within document call.frames) call last ∧ last.task = .fail fault

theorem Within.mono (inner : frames <:+ outer) (run : ReflTransGen (Within document outer) m m') :
    ReflTransGen (Within document frames) m m' :=
  ReflTransGen.mono (fun _ _ step => ⟨step.1, inner.trans step.2⟩) _ _ run

theorem Within.reaches (run : ReflTransGen (Within document frames) m m') :
    StateTransition.Reaches (Machine.step document) m m' :=
  ReflTransGen.mono (fun _ _ step => step.1) _ _ run

/-- The call ends as a computation with this result. It is answered with the value, the same
references under way and the store that the computation leaves, or else it fails. -/
def Ends (document : Json) (call : Machine) : Except Fault (Json × List (String × Json)) → Prop
  | .ok (value, store) =>
    Returns document call ⟨.answer value, call.frames, call.underway, store⟩
  | .error fault => Fails document call fault

namespace Ends

variable {result : Except Fault (Json × List (String × Json))}

theorem answer (value : Json) :
    Ends document ⟨.answer value, frames, underway, store⟩ (.ok (value, store)) :=
  ⟨.refl, rfl, value, rfl⟩

theorem fail (fault : Fault) :
    Ends document ⟨.fail fault, frames, underway, store⟩ (.error fault) :=
  ⟨_, .refl, rfl⟩

/-- What comes after some steps of the call, with its frames and references under way, is what the
call ends with. -/
theorem prepend
    (before : ReflTransGen (Within document frames) ⟨task, frames, underway, store⟩
      ⟨task', frames, underway, store'⟩)
    (ends : Ends document ⟨task', frames, underway, store'⟩ result) :
    Ends document ⟨task, frames, underway, store⟩ result := by
  cases result with
  | ok result => exact ⟨before.trans ends.1, ends.2⟩
  | error fault =>
    obtain ⟨last, run, failed⟩ := ends
    exact ⟨last, before.trans run, failed⟩

/-- A step that changes neither the frames nor the references under way. -/
theorem head (step : Machine.step document ⟨task, frames, underway, store⟩ =
      some ⟨task', frames, underway, store'⟩)
    (ends : Ends document ⟨task', frames, underway, store'⟩ result) :
    Ends document ⟨task, frames, underway, store⟩ result :=
  ends.prepend (.single ⟨step, List.suffix_refl frames⟩)

/-- A call inside of another one, for whose answer a frame waits. What the frame does with the
answer takes the place of the call, with the same frames and the same references under way. -/
theorem call {inner : Machine} {next : Json × List (String × Json) → Except Fault _}
    (enters : Machine.step document ⟨task, frames, underway, store⟩ = some inner)
    (above : frames <:+ inner.frames) (ends : Ends document inner result)
    (resumes : ∀ value stored, ∃ task' store',
      Machine.step document ⟨.answer value, inner.frames, inner.underway, stored⟩ =
          some ⟨task', frames, underway, store'⟩ ∧
        Ends document ⟨task', frames, underway, store'⟩ (next (value, stored))) :
    Ends document ⟨task, frames, underway, store⟩ (result >>= next) := by
  have enter : Within document frames ⟨task, frames, underway, store⟩ inner := ⟨enters, above⟩
  cases result with
  | error fault =>
    obtain ⟨last, run, failed⟩ := ends
    exact ⟨last, .head enter (Within.mono above run), failed⟩
  | ok result =>
    obtain ⟨value, stored⟩ := result
    obtain ⟨task', store', resume, rest⟩ := resumes value stored
    have leave : Within document frames ⟨.answer value, inner.frames, inner.underway, stored⟩
        ⟨task', frames, underway, store'⟩ := ⟨resume, List.suffix_refl frames⟩
    exact rest.prepend (.head enter ((Within.mono above ends.1).tail leave))

end Ends

/-- A call that is made with these references under way ends as the computation does, whatever
waits for its answer. -/
def Performs (document : Json) (underway : List String) (task : Task) (x : Expansion Json) : Prop :=
  ∀ frames store, Ends document ⟨task, frames, underway, store⟩ (x.run store)

namespace Performs

variable {x : Expansion Json}

theorem answer (value : Json) : Performs document underway (.answer value) (pure value) :=
  fun _ _ => .answer value

theorem head (step : ∀ frames store, Machine.step document ⟨task, frames, underway, store⟩ =
      some ⟨task', frames, underway, store⟩)
    (performs : Performs document underway task' x) : Performs document underway task x :=
  fun frames store => (performs frames store).head (step frames store)

/-- A call for whose answer a frame waits, with the same references under way all the time. -/
theorem call {f : Json → Expansion Json} {resumed : Json → Task} (frame : Frame)
    (enters : ∀ frames store, Machine.step document ⟨task, frames, underway, store⟩ =
      some ⟨task', frame :: frames, underway, store⟩)
    (resumes : ∀ value frames store,
      Machine.step document ⟨.answer value, frame :: frames, underway, store⟩ =
        some ⟨resumed value, frames, underway, store⟩)
    (first : Performs document underway task' x)
    (next : ∀ value, Performs document underway (resumed value) (f value)) :
    Performs document underway task (x >>= f) := by
  intro frames store
  rw [StateT.run_bind]
  exact .call (enters frames store) (List.suffix_cons frame frames) (first (frame :: frames) store)
    fun value stored => ⟨_, _, resumes value frames stored, next value frames stored⟩

end Performs

/-! ### Calls do what expansion does -/

mutual

/-- A call to expand a value expands it, if the calls to follow its references follow them. -/
theorem performs_expand {f : String → Expansion Json} : ∀ value : Json,
    (∀ reference ∈ value.mentions,
      Performs document underway (.follow reference) (f reference)) →
    Performs document underway (.expand value) (expandWith f value)
  | .null, _ | .bool _, _ | .number _, _ | .string _, _ => .head (fun _ _ => rfl) (.answer _)
  | .array items, follows => by
    rw [expandWith]
    exact .head (fun _ _ => rfl) (performs_items [] items follows)
  | .object entries, follows => by
    rw [expandWith]
    cases is : Json.reference? entries with
    | none =>
      rw [Json.mentions_object_of_none (Json.reference?_eq_none_iff.mp is)] at follows
      exact .head (fun _ _ => by simp [Machine.step, is]) (performs_entries [] entries follows)
    | some reference =>
      rw [Json.mentions_object_of_some (Json.reference?_eq_some_iff.mp is)] at follows
      have follows := follows reference (List.mem_singleton_self reference)
      exact .head (fun _ _ => by simp [Machine.step, is]) follows

/-- The items that are expanded already stay in front of the others. -/
theorem performs_items {f : String → Expansion Json} (expanded : List Json) :
    ∀ items : List Json,
      (∀ reference ∈ Json.itemMentions items,
        Performs document underway (.follow reference) (f reference)) →
      Performs document underway (.items expanded items)
        (do return .array (expanded ++ (← expandItems f items)))
  | [], _ => by
    simp only [expandItems, pure_bind, List.append_nil]
    exact .head (fun _ _ => rfl) (.answer _)
  | item :: rest, follows => by
    rw [Json.itemMentions] at follows
    have first := performs_expand item fun r m => follows r (List.mem_append_left _ m)
    have others := fun value =>
      performs_items (expanded ++ [value]) rest fun r m => follows r (List.mem_append_right _ m)
    have whole : Performs document underway (.items expanded (item :: rest)) _ :=
      .call (.item expanded rest) (fun _ _ => rfl) (fun _ _ _ => rfl) first others
    simpa [expandItems] using whole

/-- The entries that are expanded already stay in front of the others. -/
theorem performs_entries {f : String → Expansion Json} (expanded : List (String × Json)) :
    ∀ entries : List (String × Json),
      (∀ reference ∈ Json.entryMentions entries,
        Performs document underway (.follow reference) (f reference)) →
      Performs document underway (.entries expanded entries)
        (do return .object (expanded ++ (← expandEntries f entries)))
  | [], _ => by
    simp only [expandEntries, pure_bind, List.append_nil]
    exact .head (fun _ _ => rfl) (.answer _)
  | (key, item) :: rest, follows => by
    rw [Json.entryMentions] at follows
    have first := performs_expand item fun r m => follows r (List.mem_append_left _ m)
    have others := fun value =>
      performs_entries (expanded ++ [(key, value)]) rest fun r m =>
        follows r (List.mem_append_right _ m)
    have whole : Performs document underway (.entries expanded ((key, item) :: rest)) _ :=
      .call (.entry expanded key rest) (fun _ _ => rfl) (fun _ _ _ => rfl) first others
    simpa [expandEntries] using whole

end

/-- A reference that is neither finished nor under way is followed by expanding its target with
the reference itself under way, and is stored then. -/
theorem run_follow (document : Json) (fuel : Nat) (underway : List String) (reference : String)
    (store : List (String × Json)) :
    (follow document (fuel + 1) underway reference).run store =
      match store.lookup reference with
      | some value => .ok (value, store)
      | none =>
        if underway.contains reference then .error (.cyclic reference)
        else do
          let found ← target document reference
          let (value, store') ←
            (expandWith (follow document fuel (reference :: underway)) found).run store
          return (value, (reference, value) :: store') := by
  rw [follow.eq_def]
  simp only [StateT.run_bind, StateT.run_get, pure_bind]
  cases store.lookup reference with
  | some value => rfl
  | none =>
    cases underway.contains reference with
    | true => rfl
    | false =>
      cases target document reference <;> rfl

/-- A call to follow a reference of the document follows it. The fuel of the computation is never
used up, as there is room for all references that may come under way; the machine has none. -/
theorem performs_follow {fuel : Nat} {reference : String} (room : Room document fuel underway)
    (member : reference ∈ document.references) :
    Performs document underway (.follow reference) (follow document fuel underway reference) := by
  -- a target may be larger than what it was met in, but there is one reference less to be entered
  induction fuel generalizing underway reference with
  | zero => exact absurd rfl room.fuel_ne_zero
  | succ fuel ih =>
    intro frames store
    let call : Machine := ⟨.follow reference, frames, underway, store⟩
    have step : call.step document = some (call.stepFollow document reference) := rfl
    rw [Machine.stepFollow] at step
    rw [run_follow]
    cases known : store.lookup reference with
    | some value =>
      rw [known] at step
      exact .head step (.answer value)
    | none =>
      rw [known] at step
      by_cases again : reference ∈ underway
      · have among := List.contains_iff_mem.mpr again
        rw [if_pos among] at step
        rw [if_pos among]
        exact .head step (.fail _)
      · have fresh := mt List.contains_iff_mem.mp again
        rw [if_neg fresh] at step
        rw [if_neg fresh]
        cases looked : target document reference with
        | error fault =>
          rw [looked] at step
          exact .head step (.fail fault)
        | ok found =>
          rw [looked] at step
          have located : Locates document reference found := target_eq_ok_iff.mp looked
          -- the target is expanded with the reference on the stack, which is then taken off again
          have inner := performs_expand found fun other mentioned =>
            ih (room.push again member)
              (located.references_subset (Json.mentions_subset_references found mentioned))
          exact .call step (List.suffix_cons _ frames) (inner _ store) fun value stored =>
            ⟨.answer value, (reference, value) :: stored, rfl, .answer value⟩

/-- When nothing waits for the answer of a call, the run ends with the call. -/
theorem Ends.exists_mem_eval {result : Except Fault (Json × List (String × Json))}
    (ends : Ends document ⟨task, [], underway, store⟩ result) :
    ∃ last ∈ StateTransition.eval (Machine.step document) ⟨task, [], underway, store⟩,
      last.outcome? = some (Prod.fst <$> result) := by
  have atEnd {last : Machine} {outcome : Except Fault Json} (is : last.outcome? = some outcome) :
      last.step document = none := Machine.step_eq_none_iff.mpr ⟨outcome, is⟩
  cases result with
  | ok result =>
    have answered : (Machine.mk (.answer result.1) [] underway result.2).outcome? =
        some (.ok result.1) := rfl
    exact ⟨_, StateTransition.mem_eval.mpr ⟨Within.reaches ends.1, atEnd answered⟩, answered⟩
  | error fault =>
    obtain ⟨last, run, failed⟩ := ends
    have stopped : last.outcome? = some (.error fault) := by rw [Machine.outcome?, failed]
    exact ⟨last, StateTransition.mem_eval.mpr ⟨Within.reaches run, atEnd stopped⟩, stopped⟩

/-- The run of a document is at its end sooner or later, and its outcome is the expansion of the
document. -/
theorem exists_mem_eval_start (document : Json) :
    ∃ last ∈ StateTransition.eval (Machine.step document) (Machine.start document),
      last.outcome? = some document.expanded := by
  have performs := performs_expand document fun reference mentioned =>
    performs_follow .start (Json.mentions_subset_references document mentioned)
  exact (performs [] []).exists_mem_eval

end ApiTypes.Reference
