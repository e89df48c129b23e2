import ApiTypes.Proofs.Text.Glob.Components

/-!
# Stopping early

A scan tries the ways to match one after the other, and gives up on all of them when the text runs
out before a character that is asked for. Nothing is missed in this way: a part of the text that
comes later is shorter still. For the tokens behind a double star this holds only of the parts that
come behind a slash, and these are the only ones at which a double star goes on.

## Main definitions

* `Glob.Matches` — the tokens match the text, in any way
* `Glob.Resumes` — where a double star goes on
* `Glob.Faithful` — a scan finds what matches, and running out speaks for the rest of the text

## Main results

* `Glob.faithful_tokensOf` — the scan of a pattern is faithful
* `Glob.scan_tokensOf_eq_matched_iff` — so it finds a match if there is one
-/

namespace ApiTypes.Glob

/-- The tokens match the whole text, in any way. -/
def Matches : List Token → List Char → Prop
  | [], text => text = []
  | .anyRun :: tokens, text =>
    ∃ skipped tail, text = skipped ++ tail ∧ '/' ∉ skipped ∧ Matches tokens tail
  | .anyComponents :: tokens, text =>
    Matches tokens text ∨ Matches tokens [] ∨
      ∃ skipped tail, text = skipped ++ '/' :: tail ∧ Matches tokens tail
  | token :: tokens, text => ∃ c tail, text = c :: tail ∧ token.accepts c ∧ Matches tokens tail

/-- The text ends with the other one. -/
abbrev EndsWith (text later : List Char) : Prop := later <:+ text

/-- A double star goes on right away, at the end of the text, or behind one of its slashes. -/
def Resumes (text later : List Char) : Prop :=
  later = text ∨ later = [] ∨ '/' :: later <:+ text

/-- A scan finds what matches. If it runs out, no part of the text that comes later matches
either. -/
structure Faithful (Later : List Char → List Char → Prop) (tokens : List Token) : Prop where
  eq_matched_iff : ∀ text, scan tokens text = .matched ↔ Matches tokens text
  of_exhausted : ∀ text later, scan tokens text = .exhausted → Later text later →
    ¬ Matches tokens later

theorem Resumes.isSuffix {text later : List Char} (resumes : Resumes text later) :
    later <:+ text := by
  rcases resumes with rfl | rfl | behind
  · exact List.suffix_refl later
  · exact List.nil_suffix
  · exact (List.suffix_cons '/' later).trans behind

/-! ### Going on after one character -/

section Matches

variable {tokens : List Token} {text : List Char} {c : Char}

theorem matches_single_iff {token : Token} (isSingle : token ≠ .anyRun ∧ token ≠ .anyComponents) :
    Matches (token :: tokens) text ↔
      ∃ c tail, text = c :: tail ∧ token.accepts c ∧ Matches tokens tail := by
  cases token <;> simp_all [Matches]

theorem matches_anyRun_nil_iff : Matches (.anyRun :: tokens) [] ↔ Matches tokens [] := by
  constructor
  · rintro ⟨skipped, tail, whole, -, matchesTail⟩
    obtain ⟨rfl, rfl⟩ := List.append_eq_nil_iff.mp whole.symm
    exact matchesTail
  · intro matchesEnd
    exact ⟨[], [], rfl, List.not_mem_nil, matchesEnd⟩

theorem matches_anyRun_cons_iff : Matches (.anyRun :: tokens) (c :: text) ↔
    Matches tokens (c :: text) ∨ c ≠ '/' ∧ Matches (.anyRun :: tokens) text := by
  constructor
  · rintro ⟨_ | ⟨d, skipped⟩, tail, whole, free, matchesTail⟩
    · obtain rfl : c :: text = tail := whole
      exact .inl matchesTail
    · obtain ⟨rfl, rfl⟩ := List.cons.inj whole
      exact .inr ⟨(List.ne_of_not_mem_cons free).symm, skipped, tail, rfl,
        List.not_mem_of_not_mem_cons free, matchesTail⟩
  · rintro (here | ⟨noSlash, skipped, tail, rfl, free, matchesTail⟩)
    · exact ⟨[], c :: text, rfl, List.not_mem_nil, here⟩
    · exact ⟨c :: skipped, tail, rfl, List.not_mem_cons_of_ne_of_not_mem noSlash.symm free,
        matchesTail⟩

/-- The tokens match at the end of the text, or behind one of its slashes. -/
def MatchesLater (tokens : List Token) (text : List Char) : Prop :=
  Matches tokens [] ∨ ∃ skipped tail, text = skipped ++ '/' :: tail ∧ Matches tokens tail

theorem matchesLater_nil_iff : MatchesLater tokens [] ↔ Matches tokens [] := by
  simp [MatchesLater]

theorem matchesLater_cons_iff : MatchesLater tokens (c :: text) ↔
    c = '/' ∧ Matches tokens text ∨ MatchesLater tokens text := by
  constructor
  · rintro (atEnd | ⟨_ | ⟨d, skipped⟩, tail, whole, matchesTail⟩)
    · exact .inr (.inl atEnd)
    · obtain ⟨rfl, rfl⟩ := List.cons.inj whole
      exact .inl ⟨rfl, matchesTail⟩
    · obtain ⟨rfl, rfl⟩ := List.cons.inj whole
      exact .inr (.inr ⟨skipped, tail, rfl, matchesTail⟩)
  · rintro (⟨rfl, here⟩ | atEnd | ⟨skipped, tail, rfl, matchesTail⟩)
    · exact .inr ⟨[], text, rfl, here⟩
    · exact .inl atEnd
    · exact .inr ⟨c :: skipped, tail, rfl, matchesTail⟩

/-- Where a double star goes on, it could have gone on from the start. -/
theorem Resumes.matches_anyComponents {later : List Char} (resumes : Resumes text later)
    (matchesLater : Matches (.anyComponents :: tokens) later) :
    Matches (.anyComponents :: tokens) text := by
  rcases matchesLater with here | atEnd | ⟨skipped, tail, rfl, matchesTail⟩
  · rcases resumes with rfl | rfl | ⟨before, rfl⟩
    · exact .inl here
    · exact .inr (.inl here)
    · exact .inr (.inr ⟨before, later, rfl, here⟩)
  · exact .inr (.inl atEnd)
  · obtain ⟨before, rfl⟩ := resumes.isSuffix
    exact .inr (.inr ⟨before ++ skipped, tail, (List.append_assoc ..).symm, matchesTail⟩)

end Matches

/-! ### One way after the other -/

section Tries

variable {rest : List Char → Verdict} {c : Char} {text : List Char}

theorem afterRun_cons_of_failed (failed : rest (c :: text) = .failed) :
    afterRun rest (c :: text) = if c = '/' then .failed else afterRun rest text := by
  rw [afterRun, failed]

theorem afterRun_cons_of_ne_failed (decided : rest (c :: text) ≠ .failed) :
    afterRun rest (c :: text) = rest (c :: text) := by
  rw [afterRun]
  cases tried : rest (c :: text) with
  | failed => exact absurd tried decided
  | matched | exhausted => rfl

theorem afterSlash_cons_of_failed (failed : rest text = .failed) :
    afterSlash rest (c :: text) = afterSlash rest text := by
  rw [afterSlash, failed, ite_self]

theorem afterSlash_cons_of_ne_failed (decided : rest text ≠ .failed) :
    afterSlash rest (c :: text) = if c = '/' then rest text else afterSlash rest text := by
  rw [afterSlash]
  cases tried : rest text with
  | failed => exact absurd tried decided
  | matched | exhausted => rfl

variable {tokens : List Token}

theorem scan_anyComponents_of_failed (failed : scan tokens text = .failed) :
    scan (.anyComponents :: tokens) text = afterSlash (scan tokens) text := by
  rw [scan, failed]

theorem scan_anyComponents_of_ne_failed (decided : scan tokens text ≠ .failed) :
    scan (.anyComponents :: tokens) text = scan tokens text := by
  rw [scan]
  cases tried : scan tokens text with
  | failed => exact absurd tried decided
  | matched | exhausted => rfl

end Tries

/-! ### The scan, token by token -/

namespace Faithful

variable {Later : List Char → List Char → Prop} {tokens : List Token} {text : List Char}

theorem nil : Faithful EndsWith [] where
  eq_matched_iff text := by cases text <;> simp [scan, Matches]
  of_exhausted text later ran _ := by cases text <;> simp [scan] at ran

theorem not_matches_of_failed (faithful : Faithful Later tokens)
    (failed : scan tokens text = .failed) : ¬ Matches tokens text := by
  rw [← faithful.eq_matched_iff, failed]
  exact Verdict.noConfusion

/-- Unless the scan fails, what matches later matches here. -/
theorem matches_of_later (faithful : Faithful Later tokens) (decided : scan tokens text ≠ .failed)
    {later : List Char} (isLater : Later text later) (matchesLater : Matches tokens later) :
    Matches tokens text := by
  cases ran : scan tokens text with
  | matched => exact (faithful.eq_matched_iff text).mp ran
  | failed => exact absurd ran decided
  | exhausted => exact absurd matchesLater (faithful.of_exhausted text later ran isLater)

section AnyLater

variable (faithful : Faithful EndsWith tokens)

include faithful

theorem resumes : Faithful Resumes tokens where
  eq_matched_iff := faithful.eq_matched_iff
  of_exhausted text later ran resumes := faithful.of_exhausted text later ran resumes.isSuffix

theorem afterRun_eq_matched_iff : afterRun (scan tokens) text = .matched ↔
    Matches (.anyRun :: tokens) text := by
  induction text with
  | nil => rw [afterRun, faithful.eq_matched_iff, matches_anyRun_nil_iff]
  | cons c text ih =>
    by_cases failed : scan tokens (c :: text) = .failed
    · have none := faithful.not_matches_of_failed failed
      rw [afterRun_cons_of_failed failed, matches_anyRun_cons_iff]
      split_ifs with isSlash
      · refine iff_of_false (by decide) ?_
        rintro (here | ⟨noSlash, -⟩)
        · exact none here
        · exact noSlash isSlash
      · simp [none, isSlash, ih]
    · rw [afterRun_cons_of_ne_failed failed, faithful.eq_matched_iff, matches_anyRun_cons_iff]
      constructor
      · exact .inl
      · rintro (here | ⟨-, skipped, tail, rfl, -, matchesTail⟩)
        · exact here
        · have isLater : tail <:+ c :: (skipped ++ tail) :=
            (List.suffix_append skipped tail).trans (List.suffix_cons c _)
          exact faithful.matches_of_later failed isLater matchesTail

theorem not_matches_of_afterRun (ran : afterRun (scan tokens) text = .exhausted)
    {later : List Char} (isLater : later <:+ text) : ¬ Matches tokens later := by
  induction text with
  | nil => exact faithful.of_exhausted [] later ran isLater
  | cons c text ih =>
    by_cases failed : scan tokens (c :: text) = .failed
    · rw [afterRun_cons_of_failed failed] at ran
      split_ifs at ran
      rcases List.suffix_cons_iff.mp isLater with rfl | isLater
      · exact faithful.not_matches_of_failed failed
      · exact ih ran isLater
    · rw [afterRun_cons_of_ne_failed failed] at ran
      exact faithful.of_exhausted (c :: text) later ran isLater

/-- A run in front. -/
theorem anyRun : Faithful EndsWith (.anyRun :: tokens) where
  eq_matched_iff text := by
    rw [scan, faithful.afterRun_eq_matched_iff]
  of_exhausted text later ran isLater := by
    rintro ⟨skipped, tail, rfl, -, matchesTail⟩
    rw [scan] at ran
    exact faithful.not_matches_of_afterRun ran ((List.suffix_append skipped tail).trans isLater)
      matchesTail

end AnyLater

/-- A token in front that stands for one character. -/
theorem single (faithful : Faithful Later tokens) {token : Token}
    (isSingle : token ≠ .anyRun ∧ token ≠ .anyComponents)
    (goesOn : ∀ c text d later, token.accepts c → token.accepts d → d :: later <:+ c :: text →
      Later text later) :
    Faithful EndsWith (token :: tokens) := by
  have step (c : Char) (text : List Char) : scan (token :: tokens) (c :: text) =
      if token.accepts c then scan tokens text else .failed := by
    cases token <;> simp_all [scan]
  refine ⟨fun text => ?_, fun text later ran isLater => ?_⟩
  · rw [matches_single_iff isSingle]
    cases text with
    | nil => cases token <;> simp_all [scan]
    | cons c text =>
      rw [step]
      split_ifs with accepted
      · rw [faithful.eq_matched_iff]
        simp [accepted]
      · simp [accepted]
  · rw [matches_single_iff isSingle]
    rintro ⟨d, tail, rfl, accepted, matchesTail⟩
    cases text with
    | nil => simp at isLater
    | cons c text =>
      rw [step] at ran
      split_ifs at ran with accepted'
      exact faithful.of_exhausted text tail ran (goesOn c text d tail accepted' accepted isLater)
        matchesTail

section Resuming

variable (faithful : Faithful Resumes tokens)

include faithful

theorem matches_of_matchesLater (decided : scan tokens text ≠ .failed)
    (matchesLater : MatchesLater tokens text) : Matches tokens text := by
  rcases matchesLater with atEnd | ⟨skipped, tail, rfl, matchesTail⟩
  · exact faithful.matches_of_later decided (.inr (.inl rfl)) atEnd
  · exact faithful.matches_of_later decided (.inr (.inr (List.suffix_append _ _))) matchesTail

theorem afterSlash_eq_matched_iff :
    afterSlash (scan tokens) text = .matched ↔ MatchesLater tokens text := by
  induction text with
  | nil => rw [afterSlash, faithful.eq_matched_iff, matchesLater_nil_iff]
  | cons c text ih =>
    rw [matchesLater_cons_iff]
    by_cases failed : scan tokens text = .failed
    · have none := faithful.not_matches_of_failed failed
      rw [afterSlash_cons_of_failed failed, ih]
      simp [none]
    · rw [afterSlash_cons_of_ne_failed failed]
      split_ifs with isSlash
      · rw [faithful.eq_matched_iff]
        constructor
        · exact fun here => .inl ⟨isSlash, here⟩
        · rintro (⟨-, here⟩ | matchesLater)
          · exact here
          · exact faithful.matches_of_matchesLater failed matchesLater
      · simp [isSlash, ih]

theorem scan_anyComponents_eq_matched_iff :
    scan (.anyComponents :: tokens) text = .matched ↔ Matches (.anyComponents :: tokens) text := by
  have matches_iff : Matches (.anyComponents :: tokens) text ↔
      Matches tokens text ∨ MatchesLater tokens text := Iff.rfl
  rw [matches_iff]
  by_cases failed : scan tokens text = .failed
  · have none := faithful.not_matches_of_failed failed
    rw [scan_anyComponents_of_failed failed, faithful.afterSlash_eq_matched_iff]
    simp [none]
  · rw [scan_anyComponents_of_ne_failed failed, faithful.eq_matched_iff]
    constructor
    · exact .inl
    · rintro (here | matchesLater)
      · exact here
      · exact faithful.matches_of_matchesLater failed matchesLater

/-- A double star in front. -/
theorem anyComponents : Faithful Resumes (.anyComponents :: tokens) where
  eq_matched_iff _ := faithful.scan_anyComponents_eq_matched_iff
  of_exhausted text later ran resumes matchesLater := by
    -- a match later on would be one from the start
    have matched := faithful.scan_anyComponents_eq_matched_iff.mpr
      (resumes.matches_anyComponents matchesLater)
    rw [ran] at matched
    cases matched

end Resuming

end Faithful

/-! ### The scan of a pattern -/

theorem Item.token_isSingle {item : Item} (single : item ≠ .anyRun) :
    item.token ≠ .anyRun ∧ item.token ≠ .anyComponents := by
  cases item <;> simp_all [token]

/-- Items in front. -/
theorem Faithful.items {tokens : List Token}
    (faithful : Faithful EndsWith tokens) (items : List Item) :
    Faithful EndsWith (items.map Item.token ++ tokens) := by
  induction items with
  | nil => exact faithful
  | cons item items ih =>
    by_cases isRun : item = .anyRun
    · rw [isRun]
      exact ih.anyRun
    · refine ih.single (Item.token_isSingle isRun) fun c text d later _ _ isLater => ?_
      rcases List.suffix_cons_iff.mp isLater with same | isLater
      · obtain rfl : later = text := (List.cons.inj same).2
        exact List.suffix_refl later
      · exact (List.suffix_cons d later).trans isLater

theorem Faithful.slash {tokens : List Token} (faithful : Faithful Resumes tokens) :
    Faithful EndsWith (.char '/' :: tokens) := by
  refine faithful.single (by decide) fun c text d later _ isSlash isLater => ?_
  obtain rfl : d = '/' := beq_iff_eq.mp isSlash
  rcases List.suffix_cons_iff.mp isLater with same | isLater
  · exact .inl (List.cons.inj same).2
  · exact .inr (.inr isLater)

/-- The scan of a pattern is faithful, as far as a double star in front of it may go on. -/
theorem faithful_tokensOf (components : List Component) :
    Faithful Resumes (tokensOf components) := by
  induction components with
  | nil => exact Faithful.nil.resumes
  | cons component components ih =>
    cases component with
    | ordinary items =>
      by_cases more : components = []
      · rw [more, tokensOf, ← List.append_nil (items.map Item.token)]
        exact (Faithful.nil.items items).resumes
      · rw [tokensOf_ordinary_cons items more]
        exact (ih.slash.items items).resumes
    | recursive => exact ih.anyComponents

/-- The scan of a pattern finds a match if there is one. -/
theorem scan_tokensOf_eq_matched_iff (components : List Component) (text : List Char) :
    scan (tokensOf components) text = .matched ↔ Matches (tokensOf components) text :=
  (faithful_tokensOf components).eq_matched_iff text

end ApiTypes.Glob
