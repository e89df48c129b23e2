import ApiTypes.Proofs.Reference.Resolution

/-!
# The store of finished references does not show

Expansion could do without its store and expand the target of a reference each time that it is
met. It would take longer, but its answers and its faults would be the same: a reference in the
store has an expansion, and by the time that it is met again nothing under way can stop it from
being expanded once more. With what is known of the faults, this says exactly when and how the
expansion of a document fails.

## Main definitions

* `Reference.followAnew`, `Reference.expandAnew` — expansion without a store
* `Reference.Agree` — two computations have the same outcome, whatever finished references are
  stored

## Main results

* `agree_expandWith` — values are expanded alike if their references are followed alike
* `agree_follow` — a reference that is met is followed alike with and without a store
* `expanded_faults` — the faults of a document
-/

namespace ApiTypes

namespace Reference

/-- The expanded target of a reference, where `underway` lists the references that are being
expanded. At most `fuel` more can be under way at a time, which `depthBound` makes enough.
Nothing is stored. -/
def followAnew (document : Json) : Nat → List String → String → Expansion Json
  | 0, _, reference => throw (.cyclic reference)
  | fuel + 1, underway, reference =>
    if underway.contains reference then throw (.cyclic reference)
    else do
      let value ← target document reference
      expandWith (followAnew document fuel (reference :: underway)) value

/-- Expands a value whose references lead into the document, without a store. -/
def expandAnew (document value : Json) : Except Fault Json :=
  (expandWith (followAnew document (depthBound document) []) value).run' []

/-- From a store of finished references, the first computation has the outcome that the second
one has from any store. -/
def Agree (document : Json) {α : Type} (x y : Expansion α) : Prop :=
  ∀ store other, Finished document store → x.run' store = y.run' other

variable {document : Json}

section Agree

variable {α β : Type} {x y : Expansion α} {post : α → Prop} {fault : Fault → Prop}

theorem Agree.pure (a : α) : Agree document (pure a) (pure a) :=
  fun _ _ _ => rfl

theorem Agree.bind {f g : α → Expansion β} (first : Agree document x y)
    (keeps : Ensures document x post fault)
    (next : ∀ a, post a → Agree document (f a) (g a)) :
    Agree document (x >>= f) (y >>= g) := by
  intro store other finished
  have same := first store other finished
  have kept := keeps store finished
  rw [StateT.run'_eq, StateT.run'_eq] at same
  rw [StateT.run'_eq, StateT.run'_eq, StateT.run_bind, StateT.run_bind]
  cases ran : x.run store with
  | error e =>
    cases ran' : y.run other with
    | error e' =>
      rw [ran, ran'] at same
      obtain rfl := Except.error.inj same
      rfl
    | ok result' =>
      rw [ran, ran'] at same
      exact absurd same (by simp)
  | ok result =>
    cases ran' : y.run other with
    | error e' =>
      rw [ran, ran'] at same
      exact absurd same (by simp)
    | ok result' =>
      rw [ran, ran'] at same
      rw [ran] at kept
      obtain ⟨a, store'⟩ := result
      obtain ⟨b, other'⟩ := result'
      obtain rfl : a = b := Except.ok.inj same
      -- only the first store has to be finished, and after the first step it still is
      exact next a kept.1 store' other' kept.2

end Agree

mutual

/-- Values are expanded alike if the references that they mention are followed alike. -/
theorem agree_expandWith {f g : String → Expansion Json} {fault : Fault → Prop} :
    ∀ value : Json,
      (∀ reference ∈ value.mentions, Agree document (f reference) (g reference) ∧
        Ensures document (f reference) (Follows document reference) fault) →
      Agree document (expandWith f value) (expandWith g value)
  | .null, _ | .bool _, _ | .number _, _ | .string _, _ => .pure _
  | .array items, alike => by
    rw [expandWith, expandWith]
    have keeps := ensures_expandItems items fun r m => (alike r m).2
    exact (agree_expandItems items alike).bind keeps fun _ _ => .pure _
  | .object entries, alike => by
    rw [expandWith, expandWith]
    cases is : Json.reference? entries with
    | none =>
      rw [Json.mentions_object_of_none (Json.reference?_eq_none_iff.mp is)] at alike
      have keeps := ensures_expandEntries entries fun r m => (alike r m).2
      exact (agree_expandEntries entries alike).bind keeps fun _ _ => .pure _
    | some reference =>
      rw [Json.mentions_object_of_some (Json.reference?_eq_some_iff.mp is)] at alike
      exact (alike reference (List.mem_singleton_self _)).1

theorem agree_expandItems {f g : String → Expansion Json} {fault : Fault → Prop} :
    ∀ items : List Json,
      (∀ reference ∈ Json.itemMentions items, Agree document (f reference) (g reference) ∧
        Ensures document (f reference) (Follows document reference) fault) →
      Agree document (expandItems f items) (expandItems g items)
  | [], _ => .pure _
  | item :: rest, alike => by
    rw [Json.itemMentions] at alike
    have first := fun r m => alike r (List.mem_append_left _ m)
    have others := fun r m => alike r (List.mem_append_right _ m)
    rw [expandItems, expandItems]
    refine (agree_expandWith item first).bind (ensures_expandWith item fun r m => (first r m).2) ?_
    intro _ _
    have keeps := ensures_expandItems rest fun r m => (others r m).2
    exact (agree_expandItems rest others).bind keeps fun _ _ => .pure _

theorem agree_expandEntries {f g : String → Expansion Json} {fault : Fault → Prop} :
    ∀ entries : List (String × Json),
      (∀ reference ∈ Json.entryMentions entries, Agree document (f reference) (g reference) ∧
        Ensures document (f reference) (Follows document reference) fault) →
      Agree document (expandEntries f entries) (expandEntries g entries)
  | [], _ => .pure _
  | (key, item) :: rest, alike => by
    rw [Json.entryMentions] at alike
    have first := fun r m => alike r (List.mem_append_left _ m)
    have others := fun r m => alike r (List.mem_append_right _ m)
    rw [expandEntries, expandEntries]
    refine (agree_expandWith item first).bind (ensures_expandWith item fun r m => (first r m).2) ?_
    intro _ _
    have keeps := ensures_expandEntries rest fun r m => (others r m).2
    exact (agree_expandEntries rest others).bind keeps fun _ _ => .pure _

end

section Follow

variable {value : Json} {fuel : Nat} {underway : List String} {reference : String}
  {store other : List (String × Json)}

/-- A reference in the store is not expanded again. -/
theorem run'_follow_of_stored (known : store.lookup reference = some value) :
    (follow document fuel underway reference).run' store = .ok value := by
  rw [follow.eq_def, StateT.run'_eq]
  simp only [StateT.run_bind, StateT.run_get, pure_bind, known]
  rfl

/-- A reference that is met is followed alike with and without a store, if it is not in the store
and the same holds of what its target mentions. -/
theorem run'_follow_of_fresh (meets : Meets document value (fuel + 1) underway reference)
    (below : ∀ next, Meets document value fuel (reference :: underway) next →
      Agree document (follow document fuel (reference :: underway) next)
        (followAnew document fuel (reference :: underway) next))
    (finished : Finished document store) (unknown : store.lookup reference = none) :
    (follow document (fuel + 1) underway reference).run' store =
      (followAnew document (fuel + 1) underway reference).run' other := by
  rw [follow.eq_def, followAnew, StateT.run'_eq]
  simp only [StateT.run_bind, StateT.run_get, pure_bind, unknown]
  by_cases again : reference ∈ underway
  · simp only [List.contains_iff_mem.mpr again, if_true]
    rfl
  · simp only [List.contains_iff_mem, again, if_false]
    have lookup : Ensures document (liftM (target document reference) : Expansion Json)
        (Locates document reference) (fun _ => True) :=
      .lift (fun _ located => target_eq_ok_iff.mp located) fun _ _ => trivial
    have sameTarget : Agree document (liftM (target document reference) : Expansion Json)
        (liftM (target document reference)) := by
      intro store other _
      cases target document reference <;> rfl
    refine sameTarget.bind lookup (fun found located => ?_) store other finished
    have alike := fun next mentioned =>
      And.intro (below next (meets.next again located mentioned))
        (ensures_follow_warranted (meets.next again located mentioned))
    have expanded := agree_expandWith found alike
    have keeps := ensures_expandWith found fun r m => (alike r m).2
    -- storing the expansion does not change it
    have stored : Agree document
        (expandWith (follow document fuel (reference :: underway)) found >>= fun value => do
          modify ((reference, value) :: ·)
          return value)
        (expandWith (followAnew document fuel (reference :: underway)) found >>= pure) :=
      expanded.bind keeps fun _ _ _ _ _ => rfl
    rw [bind_pure] at stored
    exact stored

/-- A reference that has an expansion is followed to it. A fault would be warranted for a value that
is this reference and nothing else, and that value has an expansion too. -/
theorem run'_follow_of_follows {result : Json}
    (meets : Meets document value fuel underway reference)
    (follows : Follows document reference result) :
    (follow document fuel underway reference).run' [] = .ok result := by
  let entries : List (String × Json) := [("$ref", .string reference)]
  have is : Entries.find? "$ref" entries = some (.string reference) := by
    simp [entries, Entries.find?]
  have mentioned : reference ∈ (Json.object entries).mentions := by
    rw [Json.mentions_object_of_some is]
    exact List.mem_singleton_self _
  have alone : Meets document (.object entries) fuel underway reference :=
    { meets with reachable := .of_mem mentioned }
  have outcome := (ensures_follow_warranted alone).run'
  split at outcome
  · next other ran => rw [ran, follows.unique outcome]
  · obtain ⟨found, located, expands⟩ := follows
    have whole : Expands document (.object entries) result := .reference is located expands
    exact absurd whole outcome.not_expands

/-- A reference that is met is followed alike with and without a store. -/
theorem agree_follow (meets : Meets document value fuel underway reference) :
    Agree document (follow document fuel underway reference)
      (followAnew document fuel underway reference) := by
  induction fuel generalizing underway reference with
  | zero => exact absurd rfl meets.fuel_ne_zero
  | succ fuel ih =>
    intro store other finished
    cases known : store.lookup reference with
    | none => exact run'_follow_of_fresh meets (fun _ => ih) finished known
    | some stored =>
      obtain ⟨before, after, rfl, -⟩ := List.lookup_eq_some_iff.mp known
      have follows : Follows document reference stored := finished (reference, stored) (by simp)
      have empty : Finished document [] := by simp [Finished]
      -- with an empty store there is nothing to reuse, so that the expansion is found anew
      calc (follow document (fuel + 1) underway reference).run' _
        _ = .ok stored := run'_follow_of_stored known
        _ = (follow document (fuel + 1) underway reference).run' [] :=
          (run'_follow_of_follows meets follows).symm
        _ = (followAnew document (fuel + 1) underway reference).run' other :=
          run'_follow_of_fresh meets (fun _ => ih) empty rfl

end Follow

/-- A part of the document is expanded alike with and without a store. -/
theorem expand_eq_expandAnew {value : Json} (within : value.references ⊆ document.references) :
    expand document value = expandAnew document value := by
  have alike := agree_expandWith value fun reference mentioned =>
    And.intro (agree_follow (.start within mentioned))
      (ensures_follow_warranted (.start within mentioned))
  exact alike [] [] (by simp [Finished])

/-- A document is expanded alike with and without a store. If it fails, its fault names a reference
that is met: one that does not point into the document, one that finds nothing there, or one that
lies on a cycle. It fails exactly if a reference of these kinds is met, or one that leads to a
cycle, however the pointers on the cycle are spelled. -/
theorem expanded_faults (document : Json) :
    document.expanded = expandAnew document document ∧
      (∀ fault, document.expanded = .error fault → Warranted document document fault) ∧
      ((∃ fault, document.expanded = .error fault) ↔
        ∃ reference, Reachable document document reference ∧ Obstructed document reference) := by
  have within : document.references ⊆ document.references := List.Subset.refl _
  refine ⟨expand_eq_expandAnew within, fun fault failed => ?_, ?_⟩
  · have outcome := (ensures_expand within).run'
    rw [Json.expanded, expand] at failed
    rw [failed] at outcome
    exact outcome
  · rw [exists_obstructed_iff]
    simp only [← expand_eq_ok_iff within]
    rw [Json.expanded]
    cases expand document document with
    | ok result => simp
    | error fault => simp

/-- A cycle that comes back to its pointer under another spelling. -/
example : Json.expanded (.object [("x", .object [("$ref", .string "#/a")]),
    ("a", .object [("next", .object [("$ref", .string "#/%61")])])]) =
      .error (.cyclic "#/%61") := by
  cbv

end Reference

end ApiTypes
