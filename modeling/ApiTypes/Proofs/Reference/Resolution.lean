import ApiTypes.Proofs.Reference.Faults
import Mathlib.Data.List.Basic

/-!
# Reference expansion computes the relation

The expansion of a document keeps finished references and a list of those under way. Neither
shows in its answer: it succeeds exactly on the documents that have an expansion, and gives that
one. The store only ever holds derivable expansions, whatever was under way when they were
entered; a reference under way that is met again lies on a cycle, so it has none; and there is
always room for another reference under way, because they are distinct texts of the document.

## Main definitions

* `Reference.Finished` — every reference in the store has the expansion that is stored with it
* `Reference.Ensures` — what a computation gives from a store of finished references, and with
  which faults it fails
* `Reference.Meets` — a reference is met, and those under way lead to it

## Main results

* `ensures_expandWith` — a value is expanded as its references are followed
* `ensures_follow` — one step of following a reference
* `ensures_expand` — what expansion gives, and which faults it has
* `expanded_eq_ok_iff_expands` — soundness and completeness
-/

namespace ApiTypes.Reference

/-- Every reference in the store has the expansion that is stored with it. -/
def Finished (document : Json) (store : List (String × Json)) : Prop :=
  ∀ entry ∈ store, Follows document entry.1 entry.2

/-- From a store of finished references, the computation gives a value with the property and
such a store, or it fails with an admitted fault. -/
def Ensures (document : Json) {α : Type} (x : Expansion α) (post : α → Prop)
    (fault : Fault → Prop) : Prop :=
  ∀ store, Finished document store →
    match x.run store with
    | .ok (value, store') => post value ∧ Finished document store'
    | .error e => fault e

section Ensures

variable {document : Json} {α β : Type} {x : Expansion α} {post : α → Prop}
  {fault : Fault → Prop}

theorem Ensures.pure {a : α} (h : post a) : Ensures document (pure a) post fault :=
  fun _ finished => ⟨h, finished⟩

theorem Ensures.throw {e : Fault} (h : fault e) :
    Ensures document (throw e : Expansion α) post fault :=
  fun _ _ => h

theorem Ensures.bind {f : α → Expansion β} {post' : β → Prop}
    (first : Ensures document x post fault)
    (next : ∀ a, post a → Ensures document (f a) post' fault) :
    Ensures document (x >>= f) post' fault := by
  intro store finished
  have h := first store finished
  rw [StateT.run_bind]
  cases ran : x.run store with
  | error e =>
    rw [ran] at h
    exact h
  | ok result =>
    rw [ran] at h
    exact next result.1 h.1 result.2 h.2

theorem Ensures.mono {post' : α → Prop} (first : Ensures document x post fault)
    (weaker : ∀ a, post a → post' a) : Ensures document x post' fault := by
  intro store finished
  have h := first store finished
  cases ran : x.run store with
  | error e =>
    rw [ran] at h
    exact h
  | ok result =>
    rw [ran] at h
    exact ⟨weaker _ h.1, h.2⟩

theorem Ensures.lift {y : Except Fault α} (ok : ∀ a, y = .ok a → post a)
    (error : ∀ e, y = .error e → fault e) :
    Ensures document (liftM y : Expansion α) post fault := by
  cases y with
  | ok a => exact .pure (ok a rfl)
  | error e => exact .throw (error e rfl)

theorem Ensures.remember {reference : String} {value : Json}
    (follows : Follows document reference value) :
    Ensures document (modify ((reference, value) :: ·)) (fun _ => True) fault := by
  intro store finished
  refine ⟨trivial, fun entry member => ?_⟩
  rcases List.mem_cons.mp member with rfl | old
  · exact follows
  · exact finished entry old

/-- A computation that starts with an empty store. -/
theorem Ensures.run' (h : Ensures document x post fault) :
    match x.run' [] with
    | .ok value => post value
    | .error e => fault e := by
  have h := h [] (by simp [Finished])
  rw [StateT.run'_eq]
  cases ran : x.run [] with
  | error e =>
    rw [ran] at h
    exact h
  | ok result =>
    rw [ran] at h
    exact h.1

end Ensures

variable {document : Json} {fault : Fault → Prop} {f : String → Expansion Json}

mutual

/-- A value is expanded as far as the references that it mentions are followed. -/
theorem ensures_expandWith : ∀ value : Json,
    (∀ reference ∈ value.mentions,
      Ensures document (f reference) (Follows document reference) fault) →
    Ensures document (expandWith f value) (Expands document value) fault
  | .null, _ => .pure .null
  | .bool b, _ => .pure (.bool b)
  | .number n, _ => .pure (.number n)
  | .string s, _ => .pure (.string s)
  | .array items, follows => by
    rw [expandWith]
    exact (ensures_expandItems items follows).bind fun _ each => .pure (.array each)
  | .object entries, follows => by
    rw [expandWith]
    cases is : Json.reference? entries with
    | none =>
      have plain := Json.reference?_eq_none_iff.mp is
      rw [Json.mentions_object_of_none plain] at follows
      exact (ensures_expandEntries entries follows).bind fun _ each => .pure (.object plain each)
    | some reference =>
      have is := Json.reference?_eq_some_iff.mp is
      rw [Json.mentions_object_of_some is] at follows
      refine (follows reference (List.mem_singleton_self _)).mono ?_
      rintro value ⟨found, located, expands⟩
      exact .reference is located expands

theorem ensures_expandItems : ∀ items : List Json,
    (∀ reference ∈ Json.itemMentions items,
      Ensures document (f reference) (Follows document reference) fault) →
    Ensures document (expandItems f items) (ExpandsItems document items) fault
  | [], _ => .pure .nil
  | item :: rest, follows => by
    rw [Json.itemMentions] at follows
    rw [expandItems]
    refine (ensures_expandWith item fun r m => follows r (List.mem_append_left _ m)).bind ?_
    intro value head
    refine (ensures_expandItems rest fun r m => follows r (List.mem_append_right _ m)).bind ?_
    intro values tail
    exact .pure (.cons head tail)

theorem ensures_expandEntries : ∀ entries : List (String × Json),
    (∀ reference ∈ Json.entryMentions entries,
      Ensures document (f reference) (Follows document reference) fault) →
    Ensures document (expandEntries f entries) (ExpandsEntries document entries) fault
  | [], _ => .pure .nil
  | (key, item) :: rest, follows => by
    rw [Json.entryMentions] at follows
    rw [expandEntries]
    refine (ensures_expandWith item fun r m => follows r (List.mem_append_left _ m)).bind ?_
    intro value head
    refine (ensures_expandEntries rest fun r m => follows r (List.mem_append_right _ m)).bind ?_
    intro values tail
    exact .pure (.cons head tail)

end

/-- Following a reference: what is required of the faults, and of the references in its target,
which are followed with this one under way. -/
theorem ensures_follow {fuel : Nat} {underway : List String} {reference : String}
    (cyclic : reference ∈ underway → fault (.cyclic reference))
    (lost : ∀ e, target document reference = .error e → fault e)
    (exhausted : reference ∉ underway → fuel = 0 → fault (.cyclic reference))
    (below : ∀ found fuel', Locates document reference found → reference ∉ underway →
      fuel = fuel' + 1 → ∀ other ∈ found.mentions,
        Ensures document (follow document fuel' (reference :: underway) other)
          (Follows document other) fault) :
    Ensures document (follow document fuel underway reference) (Follows document reference)
      fault := by
  intro store finished
  rw [follow.eq_def]
  simp only [StateT.run_bind, StateT.run_get, pure_bind]
  cases known : store.lookup reference with
  | some value =>
    -- finished earlier, whatever was under way then
    obtain ⟨before, after, rfl, -⟩ := List.lookup_eq_some_iff.mp known
    exact ⟨finished (reference, value) (by simp), finished⟩
  | none =>
    by_cases again : reference ∈ underway
    · simp only [List.contains_iff_mem.mpr again, if_true]
      exact cyclic again
    · simp only [List.contains_iff_mem, again, if_false]
      have lookup : Ensures document (liftM (target document reference) : Expansion Json)
          (Locates document reference) fault :=
        .lift (fun _ located => target_eq_ok_iff.mp located) lost
      -- its target is expanded with the reference itself under way, and then stored
      refine lookup.bind ?_ store finished
      intro found located
      cases fuel with
      | zero => exact .throw (exhausted again rfl)
      | succ fuel' =>
        refine (ensures_expandWith found (below found fuel' located again rfl)).bind ?_
        intro value expands
        have follows : Follows document reference value := ⟨found, located, expands⟩
        exact (Ensures.remember follows).bind fun _ _ => .pure follows

/-- The references under way are distinct texts of the document, and with the fuel there is room
for all of those. -/
structure Room (document : Json) (fuel : Nat) (underway : List String) : Prop where
  distinct : underway.Nodup
  within : underway ⊆ document.references
  enough : document.references.length < underway.length + fuel

theorem Room.start : Room document (depthBound document) [] where
  distinct := List.nodup_nil
  within := List.nil_subset _
  enough := by simp [depthBound]

theorem Room.fuel_ne_zero {fuel : Nat} {underway : List String}
    (room : Room document fuel underway) : fuel ≠ 0 := by
  have := room.distinct.length_le_of_subset room.within
  have := room.enough
  omega

theorem Room.push {fuel : Nat} {underway : List String} {reference : String}
    (room : Room document (fuel + 1) underway) (fresh : reference ∉ underway)
    (member : reference ∈ document.references) : Room document fuel (reference :: underway) where
  distinct := List.nodup_cons.mpr ⟨fresh, room.distinct⟩
  within := List.cons_subset.mpr ⟨member, room.within⟩
  enough := by
    have := room.enough
    rw [List.length_cons]
    omega

/-- A reference is met while others are under way, all of which lead to it. -/
structure Meets (document value : Json) (fuel : Nat) (underway : List String)
    (reference : String) : Prop extends Room document fuel underway where
  member : reference ∈ document.references
  reachable : Reachable document value reference
  chain : ∀ earlier ∈ underway, Relation.TransGen (LeadsTo document) earlier reference

section Meets

variable {value found : Json} {fuel : Nat} {underway : List String} {reference other : String}

theorem Meets.start (within : value.references ⊆ document.references)
    (mentioned : reference ∈ value.mentions) :
    Meets document value (depthBound document) [] reference where
  toRoom := .start
  member := within (Json.mentions_subset_references value mentioned)
  reachable := .of_mem mentioned
  chain := by simp

/-- What the target of a reference mentions is met with that reference under way as well. -/
theorem Meets.next (meets : Meets document value (fuel + 1) underway reference)
    (fresh : reference ∉ underway) (located : Locates document reference found)
    (mentioned : other ∈ found.mentions) :
    Meets document value fuel (reference :: underway) other := by
  have leads : LeadsTo document reference other := ⟨found, located, mentioned⟩
  refine ⟨meets.push fresh meets.member, ?_, meets.reachable.tail leads, ?_⟩
  · exact located.references_subset (Json.mentions_subset_references found mentioned)
  · intro earlier among
    rcases List.mem_cons.mp among with rfl | before
    · exact .single leads
    · exact (meets.chain earlier before).tail leads

/-- A reference that is met gives its expansion, or else a fault that is warranted: if it is under
way already, the chain that led here closes a cycle. -/
theorem ensures_follow_warranted (meets : Meets document value fuel underway reference) :
    Ensures document (follow document fuel underway reference) (Follows document reference)
      (Warranted document value) := by
  induction fuel generalizing underway reference with
  | zero => exact absurd rfl meets.fuel_ne_zero
  | succ fuel ih =>
    refine ensures_follow ?_ ?_ (fun _ impossible => by simp at impossible) ?_
    · intro again
      exact ⟨meets.reachable, meets.chain reference again⟩
    · intro fault lost
      rcases target_eq_error lost with ⟨rfl, external⟩ | ⟨rfl, sharp, nowhere⟩
      · exact ⟨meets.reachable, external⟩
      · exact ⟨meets.reachable, sharp, nowhere⟩
    -- what its target mentions is followed with one more reference under way
    · intro found fuel' located fresh same other mentioned
      obtain rfl := Nat.succ.inj same
      exact ih (meets.next fresh located mentioned)

end Meets

/-- A part of the document is expanded to its expansion, or else fails with a warranted fault. -/
theorem ensures_expand {value : Json} (within : value.references ⊆ document.references) :
    Ensures document (expandWith (follow document (depthBound document) []) value)
      (Expands document value) (Warranted document value) :=
  ensures_expandWith value fun _ mentioned => ensures_follow_warranted (.start within mentioned)

/-- A part of the document is expanded successfully exactly to its expansion. -/
theorem expand_eq_ok_iff {value result : Json} (within : value.references ⊆ document.references) :
    expand document value = .ok result ↔ Expands document value result := by
  have h := (ensures_expand within).run'
  rw [expand]
  constructor
  · intro ran
    rw [ran] at h
    exact h
  · intro expands
    -- no fault is warranted; what is computed is an expansion as well, and there is only one
    split at h
    · next value' ran => rw [ran, expands.unique h]
    · exact absurd expands h.not_expands

/-- The expansion of a document succeeds exactly with what the relation says, and it succeeds
exactly if every reference that is met leads to a value of the document and lies on no cycle. -/
theorem expanded_eq_ok_iff_expands (document : Json) :
    (∀ result, document.expanded = .ok result ↔ Expands document document result) ∧
      ((∃ result, document.expanded = .ok result) ↔
        ∀ reference, Reachable document document reference →
          (∃ found, Locates document reference found) ∧
            ¬ Relation.TransGen (LeadsTo document) reference reference) := by
  have sameAnswer (result : Json) :
      document.expanded = .ok result ↔ Expands document document result :=
    expand_eq_ok_iff (List.Subset.refl _)
  refine ⟨sameAnswer, ?_⟩
  simp only [sameAnswer]
  exact exists_expands_iff

end ApiTypes.Reference
