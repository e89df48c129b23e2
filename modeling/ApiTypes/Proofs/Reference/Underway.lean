import ApiTypes.Proofs.Reference.Machine
import Mathlib.Data.Finset.Card

/-!
# The references under way

While a document is expanded the references under way are distinct texts of its references, so
that there are never more of them than the document has distinct references. They are a stack in
step with the frames: what was under way when a call was made stays at the bottom, and above it
there is one reference for each target that is being expanded inside of the call. When the call is
answered nothing is left above, whatever cycles, dangling references or other spellings it came
across.

## Main definitions

* `Reference.Move` — what a step does to the frames and to the references under way
* `Reference.Sound` — what holds throughout the run of a document
* `Reference.Above` — frames and references under way above those of a call

## Main results

* `move_of_step` — every step is such a move
* `Sound.of_reaches` — a run keeps a machine sound, as each of its steps does
* `Returns.underway_eq` — the answer of a call finds the references under way as they were
* `Sound.ends_expand`, `Sound.ends_follow` — every call in the run of a document ends
* `expansion_terminates` — the run of a document, with all of this
-/

namespace ApiTypes.Reference

open Relation (ReflTransGen)

variable {document : Json} {m m' call last : Machine} {frames base : List Frame}
  {underway bottom : List String}

/-! ### What a step does -/

/-- The references in what a task has still to expand. What is expanded is not looked at again. -/
def Task.references : Task → List String
  | .expand value => value.references
  | .follow reference => [reference]
  | .items _ rest => Json.itemReferences rest
  | .entries _ rest => Json.entryReferences rest
  | .answer _ | .fail _ => []

/-- The references in what is expanded after the answer. -/
def Frame.references : Frame → List String
  | .item _ rest => Json.itemReferences rest
  | .entry _ _ rest => Json.entryReferences rest
  | .target => []

/-- What a step does to the frames and to the references under way. Apart from targets, nothing
comes up to be expanded that was not ahead before. -/
inductive Move (document : Json) : Machine → Machine → Prop
  | stay {task task' : Task} {frames : List Frame} {underway : List String}
      {store : List (String × Json)} (ahead : task'.references ⊆ task.references) :
      Move document ⟨task, frames, underway, store⟩ ⟨task', frames, underway, store⟩
  | wait {task task' : Task} {frame : Frame} {frames : List Frame} {underway : List String}
      {store : List (String × Json)} (other : frame ≠ .target)
      (ahead : task'.references ++ frame.references ⊆ task.references) :
      Move document ⟨task, frames, underway, store⟩ ⟨task', frame :: frames, underway, store⟩
  | resume {task task' : Task} {frame : Frame} {frames : List Frame} {underway : List String}
      {store : List (String × Json)} (other : frame ≠ .target)
      (ahead : task'.references ⊆ frame.references) :
      Move document ⟨task, frame :: frames, underway, store⟩ ⟨task', frames, underway, store⟩
  | enter {reference : String} {found : Json} {frames : List Frame} {underway : List String}
      {store : List (String × Json)} (fresh : reference ∉ underway)
      (located : Locates document reference found) :
      Move document ⟨.follow reference, frames, underway, store⟩
        ⟨.expand found, .target :: frames, reference :: underway, store⟩
  | leave {value : Json} {frames : List Frame} {underway : List String}
      {store store' : List (String × Json)} :
      Move document ⟨.answer value, .target :: frames, underway, store⟩
        ⟨.answer value, frames, underway.tail, store'⟩

theorem move_stepFollow (reference : String) (frames : List Frame) (underway : List String)
    (store : List (String × Json)) :
    Move document ⟨.follow reference, frames, underway, store⟩
      (Machine.stepFollow document reference ⟨.follow reference, frames, underway, store⟩) := by
  unfold Machine.stepFollow
  split
  · exact .stay (List.nil_subset _)
  · split
    · exact .stay (List.nil_subset _)
    · next fresh =>
      split
      · exact .stay (List.nil_subset _)
      · next found looked =>
        exact .enter (mt List.contains_iff_mem.mpr fresh) (target_eq_ok_iff.mp looked)

theorem move_of_stepAnswer {value : Json} {store : List (String × Json)}
    (step : m' ∈ Machine.stepAnswer value ⟨.answer value, frames, underway, store⟩) :
    Move document ⟨.answer value, frames, underway, store⟩ m' := by
  cases frames with
  | nil => cases step
  | cons frame frames =>
    cases frame with
    | item expanded rest =>
      obtain rfl := Option.some.inj step
      exact .resume (by simp) (List.Subset.refl _)
    | entry expanded key rest =>
      obtain rfl := Option.some.inj step
      exact .resume (by simp) (List.Subset.refl _)
    | target =>
      obtain rfl := Option.some.inj step
      exact .leave

theorem move_of_step (step : m' ∈ m.step document) : Move document m m' := by
  obtain ⟨task, frames, underway, store⟩ := m
  cases task with
  | expand value =>
    cases value with
    | object entries =>
      cases is : Json.reference? entries with
      | none =>
        simp only [Machine.step, is, Option.mem_def, Option.some.injEq] at step
        subst step
        exact .stay (by simp [Task.references, Json.references])
      | some reference =>
        simp only [Machine.step, is, Option.mem_def, Option.some.injEq] at step
        subst step
        exact .stay (by simp [Task.references, Json.references, is])
    | array items =>
      obtain rfl := Option.some.inj step
      exact .stay (by simp [Task.references, Json.references])
    | _ =>
      obtain rfl := Option.some.inj step
      exact .stay (List.nil_subset _)
  | follow reference =>
    obtain rfl := Option.some.inj step
    exact move_stepFollow reference frames underway store
  | items expanded rest =>
    cases rest with
    | nil =>
      obtain rfl := Option.some.inj step
      exact .stay (List.nil_subset _)
    | cons item rest =>
      obtain rfl := Option.some.inj step
      exact .wait (by simp) (List.Subset.refl _)
  | entries expanded rest =>
    cases rest with
    | nil =>
      obtain rfl := Option.some.inj step
      exact .stay (List.nil_subset _)
    | cons entry rest =>
      obtain rfl := Option.some.inj step
      exact .wait (by simp) (List.Subset.refl _)
  | answer value => exact move_of_stepAnswer step
  | fail fault => cases step

/-! ### What holds throughout a run -/

/-- The references under way are distinct, and these and the ones ahead are references of the
document. -/
structure Sound (document : Json) (m : Machine) : Prop where
  distinct : m.underway.Nodup
  within : m.underway ⊆ document.references
  task : m.task.references ⊆ document.references
  frames : ∀ frame ∈ m.frames, frame.references ⊆ document.references

namespace Sound

theorem start (document : Json) : Sound document (.start document) where
  distinct := List.nodup_nil
  within := List.nil_subset _
  task := List.Subset.refl _
  frames := List.forall_mem_nil _

theorem step (sound : Sound document m) (step : m' ∈ m.step document) : Sound document m' := by
  cases move_of_step step with
  | stay ahead => exact { sound with task := List.Subset.trans ahead sound.task }
  | wait _ ahead =>
    obtain ⟨now, later⟩ := List.append_subset.mp (List.Subset.trans ahead sound.task)
    exact { sound with task := now, frames := List.forall_mem_cons.mpr ⟨later, sound.frames⟩ }
  | resume _ ahead =>
    obtain ⟨now, later⟩ := List.forall_mem_cons.mp sound.frames
    exact { sound with task := List.Subset.trans ahead now, frames := later }
  | enter fresh located =>
    -- it was ahead, so it is one of the document
    have member := sound.task (List.mem_singleton_self _)
    exact
      { distinct := List.nodup_cons.mpr ⟨fresh, sound.distinct⟩
        within := List.cons_subset.mpr ⟨member, sound.within⟩
        task := located.references_subset
        frames := List.forall_mem_cons.mpr ⟨List.nil_subset _, sound.frames⟩ }
  | leave =>
    exact
      { distinct := sound.distinct.sublist (List.tail_sublist _)
        within := List.Subset.trans (List.tail_subset _) sound.within
        task := List.nil_subset _
        frames := (List.forall_mem_cons.mp sound.frames).2 }

theorem of_reaches (sound : Sound document m)
    (run : StateTransition.Reaches (Machine.step document) m m') : Sound document m' := by
  induction run with
  | refl => exact sound
  | tail _ step ih => exact ih.step step

theorem length_le (sound : Sound document m) :
    m.underway.length ≤ document.references.toFinset.card := by
  rw [← List.toFinset_card_of_nodup sound.distinct]
  refine Finset.card_le_card fun reference among => ?_
  exact List.mem_toFinset.mpr (sound.within (List.mem_toFinset.mp among))

/-- There is room for as many references as the document has. -/
theorem room (sound : Sound document m) : Room document (depthBound document) m.underway where
  distinct := sound.distinct
  within := sound.within
  enough := by
    rw [depthBound]
    omega

/-- A call to expand a value ends as the expansion of the value does. -/
theorem ends_expand {value : Json} (sound : Sound document call)
    (task : call.task = .expand value) :
    Ends document call
      ((expandWith (follow document (depthBound document) call.underway) value).run
        call.store) := by
  have ahead : value.references ⊆ document.references := by
    have ahead := sound.task
    rwa [task] at ahead
  -- every reference in the value has a place left on the stack
  have performs := performs_expand value fun other mentioned =>
    performs_follow sound.room (ahead (Json.mentions_subset_references value mentioned))
  have ends := performs call.frames call.store
  rwa [← task] at ends

/-- A call to follow a reference ends as following the reference does. -/
theorem ends_follow {reference : String} (sound : Sound document call)
    (task : call.task = .follow reference) :
    Ends document call
      ((follow document (depthBound document) call.underway reference).run call.store) := by
  have member : reference ∈ document.references := by
    have ahead := sound.task
    rw [task] at ahead
    exact ahead (List.mem_singleton_self reference)
  have ends := performs_follow sound.room member call.frames call.store
  rwa [← task] at ends

end Sound

/-! ### The stack of a call -/

/-- The frames and the references under way are those at the bottom and others above, among them
one reference for each target that is being expanded. -/
inductive Above (base : List Frame) (bottom : List String) : List Frame → List String → Prop
  | refl : Above base bottom base bottom
  | wait {frame : Frame} {frames : List Frame} {underway : List String} (other : frame ≠ .target)
      (above : Above base bottom frames underway) : Above base bottom (frame :: frames) underway
  | enter {reference : String} {frames : List Frame} {underway : List String}
      (above : Above base bottom frames underway) :
      Above base bottom (.target :: frames) (reference :: underway)

namespace Above

theorem isSuffix (above : Above base bottom frames underway) : base <:+ frames := by
  induction above with
  | refl => exact List.suffix_refl base
  | wait _ _ ih | enter _ ih => exact ih.trans (List.suffix_cons _ _)

/-- The frames at the bottom are in place after the step, so it does not take them away. -/
theorem step (above : Above base bottom m.frames m.underway) (step : Within document base m m') :
    Above base bottom m'.frames m'.underway := by
  obtain ⟨step, inside⟩ := step
  cases move_of_step step with
  | stay => exact above
  | wait other => exact .wait other above
  | resume other =>
    cases above with
    -- the frame that is resumed would be one of those that stay
    | refl => exact absurd inside.length_le (by simp)
    | wait _ above => exact above
    | enter => exact absurd rfl other
  | enter => exact .enter above
  | leave =>
    cases above with
    | refl => exact absurd inside.length_le (by simp)
    | wait other => exact absurd rfl other
    | enter above => exact above

theorem of_run (above : Above base bottom m.frames m.underway)
    (run : ReflTransGen (Within document base) m m') :
    Above base bottom m'.frames m'.underway := by
  induction run with
  | refl => exact above
  | tail _ step ih => exact ih.step step

/-- With no frames above there are no references above either. -/
theorem underway_eq (above : Above base bottom base underway) : underway = bottom := by
  cases above with
  | refl => rfl
  | wait _ above | enter above => exact absurd above.isSuffix.length_le (by simp)

end Above

/-- When a call is answered, the references under way are what they were when it was made. -/
theorem Returns.underway_eq (returns : Returns document call last) :
    last.underway = call.underway := by
  obtain ⟨run, frames, -⟩ := returns
  have above : Above call.frames call.underway last.frames last.underway := Above.refl.of_run run
  rw [frames] at above
  exact above.underway_eq

/-- The expansion of a document ends, whatever its references are: its run comes to a state without
a next step, whose outcome is the expansion. In all states of the run the references under way are
distinct ones of the document, no more than it has distinct references. Every call that is made
during the run ends, and just as the expansion of its value or the following of its reference with
the same references under way; and when a call is answered they are what they were when it was
made. -/
theorem expansion_terminates (document : Json) :
    (∃ last ∈ StateTransition.eval (Machine.step document) (.start document),
        last.outcome? = some document.expanded) ∧
      ∀ m, StateTransition.Reaches (Machine.step document) (.start document) m →
        m.underway.Nodup ∧ m.underway ⊆ document.references ∧
          m.underway.length ≤ document.references.toFinset.card ∧
          (∀ value, m.task = .expand value → Ends document m
            ((expandWith (follow document (depthBound document) m.underway) value).run m.store)) ∧
          (∀ reference, m.task = .follow reference → Ends document m
            ((follow document (depthBound document) m.underway reference).run m.store)) ∧
          ∀ last, Returns document m last → last.underway = m.underway := by
  refine ⟨exists_mem_eval_start document, fun m run => ?_⟩
  have sound := (Sound.start document).of_reaches run
  exact ⟨sound.distinct, sound.within, sound.length_le, fun _ => sound.ends_expand,
    fun _ => sound.ends_follow, fun _ returns => returns.underway_eq⟩

end ApiTypes.Reference
