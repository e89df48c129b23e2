import ApiTypes.Proofs.Reference.Expands

/-!
# What the faults of expansion say

A fault names a reference that is met when a value is expanded, and says why it has no expansion:
it does not point into the document, it finds nothing there, or it lies on a cycle. A cycle need
not come back to the same text: two texts that spell one pointer have one target, so a chain
between them closes a cycle as well.

## Main definitions

* `Reference.Spells` — the reference is a pointer into the document with these steps
* `Reference.SamePlace` — two references spell the same pointer
* `Reference.Warranted` — what the fault says of its reference is so
* `Reference.Obstructed` — the reference has no expansion, for one of the three reasons

## Main results

* `LeadsTo.exists_cycle` — a chain between two spellings of one pointer leads into a cycle
* `Warranted.not_expands` — a value with a warranted fault has no expansion
* `exists_obstructed_iff` — a value has no expansion exactly if an obstructed reference is
  reachable from it
-/

namespace ApiTypes.Reference

/-- The reference is `#` and a percent-encoded pointer with these steps. -/
def Spells (reference : String) (steps : List String) : Prop :=
  ∃ fragment, reference.toList = '#' :: fragment ∧
    Json.Pointer.parse? (Percent.decode fragment) = some steps

/-- The two references spell the same pointer, if they spell one. -/
def SamePlace (reference other : String) : Prop :=
  ∀ steps, Spells reference steps ↔ Spells other steps

/-- What the fault says of its reference is so, and the reference is met when the value is
expanded. -/
def Warranted (document value : Json) : Fault → Prop
  | .external reference =>
    Reachable document value reference ∧ reference.toList.head? ≠ some '#'
  | .dangling reference =>
    Reachable document value reference ∧ reference.toList.head? = some '#' ∧
      ¬ ∃ found, Locates document reference found
  | .cyclic reference =>
    Reachable document value reference ∧
      Relation.TransGen (LeadsTo document) reference reference

/-- The reference does not point into the document, finds nothing there, or leads to a cycle. The
cycle may end with another spelling of the pointer that it starts with. -/
def Obstructed (document : Json) (reference : String) : Prop :=
  reference.toList.head? ≠ some '#' ∨
    (reference.toList.head? = some '#' ∧ ¬ ∃ found, Locates document reference found) ∨
      ∃ first last, Relation.ReflTransGen (LeadsTo document) reference first ∧
        Relation.TransGen (LeadsTo document) first last ∧ SamePlace first last

variable {document value found : Json} {reference other first last : String}

/-! ### References and their places -/

theorem locates_iff_spells : Locates document reference found ↔
    ∃ steps, Spells reference steps ∧ Json.at? steps document = some found := by
  constructor
  · rintro ⟨fragment, steps, is, parsed, at'⟩
    exact ⟨steps, ⟨fragment, is, parsed⟩, at'⟩
  · rintro ⟨steps, ⟨fragment, is, parsed⟩, at'⟩
    exact ⟨fragment, steps, is, parsed, at'⟩

theorem SamePlace.refl (reference : String) : SamePlace reference reference :=
  fun _ => Iff.rfl

theorem SamePlace.locates (same : SamePlace reference other)
    (located : Locates document reference found) : Locates document other found := by
  obtain ⟨steps, spelled, at'⟩ := locates_iff_spells.mp located
  exact locates_iff_spells.mpr ⟨steps, (same steps).mp spelled, at'⟩

theorem SamePlace.leadsTo (same : SamePlace reference last)
    (leads : LeadsTo document reference other) : LeadsTo document last other := by
  obtain ⟨found, located, mentioned⟩ := leads
  exact ⟨found, same.locates located, mentioned⟩

theorem Locates.head? (located : Locates document reference found) :
    reference.toList.head? = some '#' := by
  obtain ⟨fragment, _, is, -, -⟩ := located
  rw [is]
  rfl

/-- A reference without a target is external or dangling. -/
theorem target_eq_error {fault : Fault} (lost : target document reference = .error fault) :
    (fault = .external reference ∧ reference.toList.head? ≠ some '#') ∨
      (fault = .dangling reference ∧ reference.toList.head? = some '#' ∧
        ¬ ∃ found, Locates document reference found) := by
  have nowhere : ¬ ∃ found, Locates document reference found := by
    rintro ⟨found, located⟩
    rw [target_eq_ok_iff.mpr located] at lost
    simp at lost
  unfold target at lost
  split at lost
  · next fragment is =>
    split at lost
    · simp at lost
    · obtain rfl := Except.error.inj lost
      exact .inr ⟨rfl, by rw [is]; rfl, nowhere⟩
  · next no =>
    obtain rfl := Except.error.inj lost
    refine .inl ⟨rfl, fun sharp => ?_⟩
    obtain ⟨fragment, is⟩ := List.head?_eq_some_iff.mp sharp
    exact no fragment is

/-! ### Cycles under several spellings -/

/-- A chain that ends with another spelling of the pointer that it starts with leads into a
cycle: its last reference has the target of the first one, and so leads on to the second. -/
theorem LeadsTo.exists_cycle (chain : Relation.TransGen (LeadsTo document) first last)
    (same : SamePlace first last) :
    ∃ next, LeadsTo document first next ∧ Relation.TransGen (LeadsTo document) next next := by
  obtain ⟨next, leads, rest⟩ := Relation.TransGen.head'_iff.mp chain
  have back : LeadsTo document last next := same.leadsTo leads
  exact ⟨next, leads, .tail' rest back⟩

theorem Reachable.trans (reachable : Reachable document value reference)
    (chain : Relation.ReflTransGen (LeadsTo document) reference other) :
    Reachable document value other := by
  obtain ⟨start, mentioned, before⟩ := reachable
  exact ⟨start, mentioned, before.trans chain⟩

/-! ### Faults and obstructions stand against expansions -/

theorem Warranted.obstructed {fault : Fault} (warranted : Warranted document value fault) :
    ∃ reference, Reachable document value reference ∧ Obstructed document reference := by
  cases fault with
  | external reference => exact ⟨reference, warranted.1, .inl warranted.2⟩
  | dangling reference => exact ⟨reference, warranted.1, .inr (.inl warranted.2)⟩
  | cyclic reference =>
    exact ⟨reference, warranted.1,
      .inr (.inr ⟨reference, reference, .refl, warranted.2, .refl reference⟩)⟩

theorem Obstructed.not_expands {result : Json} (obstructed : Obstructed document reference)
    (reachable : Reachable document value reference) : ¬ Expands document value result := by
  intro expands
  have sound := exists_expands_iff.mp ⟨result, expands⟩
  obtain ⟨found, located⟩ := (sound reference reachable).1
  rcases obstructed with external | ⟨-, nowhere⟩ | ⟨first, last, before, chain, same⟩
  · exact external located.head?
  · exact nowhere ⟨found, located⟩
  -- the cycle that the spellings hide is reachable too
  · obtain ⟨next, leads, cycle⟩ := LeadsTo.exists_cycle chain same
    exact (sound next (reachable.trans (before.tail leads))).2 cycle

theorem Warranted.not_expands {fault : Fault} {result : Json}
    (warranted : Warranted document value fault) : ¬ Expands document value result := by
  obtain ⟨reference, reachable, obstructed⟩ := warranted.obstructed
  exact obstructed.not_expands reachable

/-- A value has no expansion exactly if an obstructed reference is reachable from it. -/
theorem exists_obstructed_iff :
    (∃ reference, Reachable document value reference ∧ Obstructed document reference) ↔
      ¬ ∃ result, Expands document value result := by
  constructor
  · rintro ⟨reference, reachable, obstructed⟩ ⟨result, expands⟩
    exact obstructed.not_expands reachable expands
  · intro without
    rw [exists_expands_iff] at without
    push Not at without
    obtain ⟨reference, reachable, defect⟩ := without
    refine ⟨reference, reachable, ?_⟩
    by_cases sharp : reference.toList.head? = some '#'
    · by_cases somewhere : ∃ found, Locates document reference found
      -- a cycle of references is one that ends with the same spelling
      · have cycle := defect somewhere
        exact .inr (.inr ⟨reference, reference, .refl, cycle, .refl reference⟩)
      · exact .inr (.inl ⟨sharp, somewhere⟩)
    · exact .inl sharp

end ApiTypes.Reference
