import ApiTypes.Proofs.Text.Glob.Scanning
import ApiTypes.Proofs.Text.Split

/-!
# Components of patterns and of texts

A text is cut at its slashes. A pattern matches it if the components of both can be aligned: an
ordinary component takes one component of the text and goes through its characters, and a double
star takes any number of them.

## Main definitions

* `Glob.Covers` — items stand for a text, one after the other
* `Glob.Aligns` — the components of a pattern take those of a text
* `Glob.Fits` — a text fits a pattern, component by component

## Main results

* `Glob.matches_tokensOf_iff` — the tokens of components match what the components align with
* `Glob.isMatch_iff_fits` — a pattern that compiles matches the texts that fit it
* `Glob.Aligns.length_eq` — without a double star there are as many components on both sides
-/

namespace ApiTypes.Glob

/-- The character is in the class. A `-` between two characters makes a range of code points. -/
def InClass (c : Char) : List Char → Prop
  | first :: '-' :: last :: rest => (first ≤ c ∧ c ≤ last) ∨ InClass c rest
  | single :: rest => c = single ∨ InClass c rest
  | [] => False

/-- The item stands for the character. -/
def Item.StandsFor : Item → Char → Prop
  | char d, c => c = d
  | anyChar, _ => True
  | anyRun, _ => False
  | within inside, c => InClass c inside
  | except inside, c => ¬ InClass c inside

/-- The items stand for the text, one after the other. -/
inductive Covers : List Item → List Char → Prop where
  | nil : Covers [] []
  | one {item : Item} {c : Char} {items : List Item} {text : List Char} (first : item.StandsFor c)
      (others : Covers items text) : Covers (item :: items) (c :: text)
  | run {items : List Item} (skipped : List Char) {text : List Char} (others : Covers items text) :
      Covers (.anyRun :: items) (skipped ++ text)

/-- The components of a pattern take those of a text in order. A double star that ends the pattern,
with or without a slash behind it, takes all that is left. -/
inductive Aligns : List Component → List (List Char) → Prop where
  | nil : Aligns [] []
  | ordinary {items : List Item} {text : List Char} {components : List Component}
      {texts : List (List Char)} (first : Covers items text) (others : Aligns components texts) :
      Aligns (.ordinary items :: components) (text :: texts)
  | skip {components : List Component} (skipped : List (List Char)) {texts : List (List Char)}
      (more : components ≠ []) (others : Aligns components texts) :
      Aligns (.recursive :: components) (skipped ++ texts)
  | final {texts : List (List Char)} (more : texts ≠ []) : Aligns [.recursive] texts
  | finalSlash {texts : List (List Char)} (more : texts ≠ []) :
      Aligns [.recursive, .ordinary []] texts

/-! ### Items -/

section Items

variable {item : Item} {items : List Item} {tokens : List Token} {text : List Char}

/-- The members of a class hold what is in the class. -/
theorem any_holds_members_iff (c : Char) (inside : List Char) :
    (members inside).any (·.holds c) = true ↔ InClass c inside := by
  fun_induction members inside with
  | case1 first last rest ih =>
    have holds : (Member.range first last).holds c = true ↔ first ≤ c ∧ c ≤ last := by
      simp only [Member.holds, Bool.and_eq_true, decide_eq_true_eq]
      rfl
    rw [List.any_cons, Bool.or_eq_true, holds, ih, InClass]
  | case2 single rest noRange ih =>
    have holds : (Member.single single).holds c = true ↔ c = single := by
      simp only [Member.holds, beq_iff_eq]
    rw [List.any_cons, Bool.or_eq_true, holds, ih, InClass]
    exact noRange
  | case3 => simp [InClass]

/-- The token of an item accepts what the item stands for, if that is no slash. -/
theorem accepts_token_iff (wellFormed : item.IsWellFormed) (c : Char) :
    item.token.accepts c = true ↔ c ≠ '/' ∧ item.StandsFor c := by
  cases item with
  | char d =>
    -- the only item for which the slash has to be ruled out by what it is made of
    have noSlash : d ≠ '/' := by
      rintro rfl
      simp [Item.IsWellFormed] at wellFormed
    simp only [Item.token, Token.accepts, Item.StandsFor, beq_iff_eq, iff_and_self]
    rintro rfl
    exact noSlash
  | anyChar => simp [Item.token, Token.accepts, Item.StandsFor]
  | anyRun => simp [Item.token, Token.accepts, Item.StandsFor]
  | within inside =>
    simp [Item.token, Token.accepts, Item.StandsFor, ← any_holds_members_iff]
  | except inside =>
    simp [Item.token, Token.accepts, Item.StandsFor, ← any_holds_members_iff]

theorem matches_item_iff (wellFormed : item.IsWellFormed) (single : item ≠ .anyRun) :
    Matches (item.token :: tokens) text ↔
      ∃ c tail, text = c :: tail ∧ (c ≠ '/' ∧ item.StandsFor c) ∧ Matches tokens tail := by
  simp only [matches_single_iff (Item.token_isSingle single), accepts_token_iff wellFormed]

theorem covers_cons_iff (single : item ≠ .anyRun) :
    Covers (item :: items) text ↔
      ∃ c tail, text = c :: tail ∧ item.StandsFor c ∧ Covers items tail := by
  constructor
  · rintro (_ | ⟨first, others⟩ | ⟨skipped, others⟩)
    · exact ⟨_, _, rfl, first, others⟩
    · exact absurd rfl single
  · rintro ⟨c, tail, rfl, first, others⟩
    exact .one first others

theorem covers_anyRun_cons_iff :
    Covers (.anyRun :: items) text ↔
      ∃ skipped tail, text = skipped ++ tail ∧ Covers items tail := by
  constructor
  · rintro (_ | ⟨⟨⟩, _⟩ | ⟨skipped, others⟩)
    exact ⟨skipped, _, rfl, others⟩
  · rintro ⟨skipped, tail, rfl, others⟩
    exact .run skipped others

/-- Tokens of items take a text without slashes from the front. -/
theorem matches_items_iff (wellFormed : ∀ item ∈ items, item.IsWellFormed) :
    Matches (items.map Item.token ++ tokens) text ↔
      ∃ taken tail, text = taken ++ tail ∧ '/' ∉ taken ∧ Covers items taken ∧
        Matches tokens tail := by
  induction items generalizing text with
  | nil =>
    constructor
    · intro matchesText
      exact ⟨[], text, rfl, List.not_mem_nil, .nil, matchesText⟩
    · rintro ⟨_, tail, rfl, -, ⟨⟩, matchesTail⟩
      exact matchesTail
  | cons item items ih =>
    rw [List.forall_mem_cons] at wellFormed
    have ih (text : List Char) := @ih text wellFormed.2
    by_cases isRun : item = .anyRun
    · -- what the run skips and what the other items take make up one part
      subst isRun
      constructor
      · rintro ⟨skipped, _, rfl, free, matchesTail⟩
        obtain ⟨taken, tail, rfl, free', covers, matchesTail⟩ := (ih _).mp matchesTail
        refine ⟨skipped ++ taken, tail, (List.append_assoc ..).symm, ?_, .run skipped covers,
          matchesTail⟩
        simp [free, free']
      · rintro ⟨taken, tail, rfl, free, covers, matchesTail⟩
        obtain ⟨skipped, taken, rfl, others⟩ := covers_anyRun_cons_iff.mp covers
        rw [List.mem_append, not_or] at free
        exact ⟨skipped, taken ++ tail, List.append_assoc .., free.1,
          (ih _).mpr ⟨taken, tail, rfl, free.2, others, matchesTail⟩⟩
    · rw [List.map_cons, List.cons_append, matches_item_iff wellFormed.1 isRun]
      constructor
      · rintro ⟨c, _, rfl, ⟨noSlash, standsFor⟩, matchesTail⟩
        obtain ⟨taken, tail, rfl, free, covers, matchesTail⟩ := (ih _).mp matchesTail
        exact ⟨c :: taken, tail, rfl, List.not_mem_cons_of_ne_of_not_mem noSlash.symm free,
          .one standsFor covers, matchesTail⟩
      · rintro ⟨_, tail, rfl, free, covers, matchesTail⟩
        obtain ⟨c, taken, rfl, standsFor, others⟩ := (covers_cons_iff isRun).mp covers
        refine ⟨c, taken ++ tail, rfl, ⟨(List.ne_of_not_mem_cons free).symm, standsFor⟩, ?_⟩
        exact (ih _).mpr ⟨taken, tail, rfl, List.not_mem_of_not_mem_cons free, others, matchesTail⟩

end Items

/-! ### Double stars -/

section Components

variable {components : List Component} {texts : List (List Char)} {text : List Char}

/-- Every component but a double star before others takes something. -/
theorem Aligns.ne_nil (aligns : Aligns components texts) (nonempty : components ≠ []) :
    texts ≠ [] := by
  induction aligns with
  | nil => exact absurd rfl nonempty
  | ordinary => exact List.cons_ne_nil _ _
  | skip skipped more _ ih =>
    intro none
    exact ih more (List.append_eq_nil_iff.mp none).2
  | final more | finalSlash more => exact more

theorem aligns_ordinary_cons_iff {items : List Item} :
    Aligns (.ordinary items :: components) texts ↔
      ∃ first others, texts = first :: others ∧ Covers items first ∧ Aligns components others := by
  constructor
  · rintro (_ | ⟨first, others⟩)
    exact ⟨_, _, rfl, first, others⟩
  · rintro ⟨first, others, rfl, covers, aligns⟩
    exact .ordinary covers aligns

theorem aligns_recursive_cons_iff :
    Aligns (.recursive :: components) texts ↔
      (components ≠ [] ∧ ∃ skipped others, texts = skipped ++ others ∧ Aligns components others) ∨
        (texts ≠ [] ∧ (components = [] ∨ components = [.ordinary []])) := by
  constructor
  · rintro (_ | _ | ⟨skipped, more, others⟩ | more | more)
    · exact .inl ⟨more, skipped, _, rfl, others⟩
    · exact .inr ⟨more, .inl rfl⟩
    · exact .inr ⟨more, .inr rfl⟩
  · rintro (⟨more, skipped, others, rfl, aligns⟩ | ⟨more, rfl | rfl⟩)
    · exact .skip skipped more aligns
    · exact .final more
    · exact .finalSlash more

/-- What aligns with an empty text aligns behind a double star with any text. -/
theorem Aligns.recursive_of_empty (aligns : Aligns components [[]]) (more : texts ≠ []) :
    Aligns (.recursive :: components) texts := by
  induction components with
  | nil => cases aligns
  | cons component components ih =>
    cases component with
    | ordinary items =>
      obtain ⟨_, _, ⟨⟩, covers, none⟩ := aligns_ordinary_cons_iff.mp aligns
      obtain rfl : components = [] := by
        by_contra nonempty
        exact none.ne_nil nonempty rfl
      cases items with
      | nil =>
        -- the slash behind the double star ends the pattern
        exact .finalSlash more
      | cons item items =>
        -- a run stands for nothing here, so it can stand for all of the last component
        have isRun : item = .anyRun := by
          by_contra single
          obtain ⟨_, _, ⟨⟩, -⟩ := (covers_cons_iff single).mp covers
        subst isRun
        obtain ⟨skipped, tail, whole, covers⟩ := covers_anyRun_cons_iff.mp covers
        obtain ⟨-, rfl⟩ := List.append_eq_nil_iff.mp whole.symm
        obtain ⟨others, last, rfl⟩ := List.eq_nil_or_concat texts |>.resolve_left more
        have all : Covers (.anyRun :: items) (last ++ []) := .run last covers
        rw [List.append_nil] at all
        rw [List.concat_eq_append]
        exact .skip others (List.cons_ne_nil _ _) (.ordinary all .nil)
    | recursive =>
      apply Aligns.skip [] (List.cons_ne_nil _ _)
      rcases aligns_recursive_cons_iff.mp aligns with ⟨more', skipped, rest, whole, aligns⟩ | last
      · -- nothing is skipped, or else there is nothing left
        rcases List.append_eq_singleton_iff.mp whole.symm with ⟨-, rfl⟩ | ⟨-, rfl⟩
        · exact ih aligns
        · exact absurd rfl (aligns.ne_nil more')
      · exact aligns_recursive_cons_iff.mpr (.inr ⟨more, last.2⟩)

/-- The tokens of a last component match a text without slashes. -/
theorem matches_last_iff_aligns {items : List Item}
    (wellFormed : (Component.ordinary items).IsWellFormed) :
    Matches (tokensOf [.ordinary items]) text ↔ Aligns [.ordinary items] (text.splitOn '/') := by
  rw [tokensOf, ← List.append_nil (items.map Item.token), matches_items_iff wellFormed.1,
    aligns_ordinary_cons_iff]
  constructor
  · rintro ⟨taken, _, rfl, free, covers, rfl⟩
    rw [List.append_nil]
    exact ⟨taken, [], List.splitOn_eq_singleton free, covers, .nil⟩
  · rintro ⟨taken, _, pieces, covers, ⟨⟩⟩
    obtain ⟨rfl, free⟩ := Text.splitOn_eq_singleton_iff.mp pieces
    exact ⟨text, [], (List.append_nil text).symm, free, covers, rfl⟩

/-- The tokens of a component before others match a text up to its first slash. -/
theorem matches_slash_iff {items : List Item} {tokens : List Token}
    (wellFormed : (Component.ordinary items).IsWellFormed) :
    Matches (items.map Item.token ++ .char '/' :: tokens) text ↔
      ∃ taken tail, text = taken ++ '/' :: tail ∧ '/' ∉ taken ∧ Covers items taken ∧
        Matches tokens tail := by
  have slash (text : List Char) : Matches (.char '/' :: tokens) text ↔
      ∃ tail, text = '/' :: tail ∧ Matches tokens tail := by
    simp [matches_single_iff, Token.accepts]
  simp only [matches_items_iff wellFormed.1, slash]
  constructor
  · rintro ⟨taken, _, rfl, free, covers, tail, rfl, matchesTail⟩
    exact ⟨taken, tail, rfl, free, covers, matchesTail⟩
  · rintro ⟨taken, tail, rfl, free, covers, matchesTail⟩
    exact ⟨taken, _, rfl, free, covers, tail, rfl, matchesTail⟩

section Step

/-! A component in front of others, for which the tokens are known to match what they align with. -/

variable (more : components ≠ []) (others : ∀ text : List Char,
  Matches (tokensOf components) text ↔ Aligns components (text.splitOn '/'))

include more others

theorem matches_ordinary_cons_iff_aligns {items : List Item}
    (wellFormed : (Component.ordinary items).IsWellFormed) :
    Matches (tokensOf (.ordinary items :: components)) text ↔
      Aligns (.ordinary items :: components) (text.splitOn '/') := by
  rw [aligns_ordinary_cons_iff, tokensOf_ordinary_cons items more, matches_slash_iff wellFormed]
  constructor
  · rintro ⟨taken, tail, rfl, free, covers, matchesTail⟩
    have aligns := (others tail).mp matchesTail
    refine ⟨taken, tail.splitOn '/', ?_, covers, aligns⟩
    exact (Text.splitOn_eq_cons_iff (aligns.ne_nil more)).mpr ⟨tail, rfl, free, rfl⟩
  · rintro ⟨taken, _, pieces, covers, aligns⟩
    obtain ⟨tail, rfl, free, rfl⟩ := (Text.splitOn_eq_cons_iff (aligns.ne_nil more)).mp pieces
    exact ⟨taken, tail, rfl, free, covers, (others tail).mpr aligns⟩

theorem matches_recursive_cons_iff_aligns :
    Matches (tokensOf (.recursive :: components)) text ↔
      Aligns (.recursive :: components) (text.splitOn '/') := by
  constructor
  · rintro (here | atEnd | ⟨skipped, tail, rfl, matchesTail⟩)
    · exact .skip [] more ((others text).mp here)
    · -- what matches at the end could as well match the last component
      have ofEmpty : Aligns components [[]] := (others []).mp atEnd
      exact ofEmpty.recursive_of_empty (List.splitOn_ne_nil '/' text)
    · rw [List.splitOn_append_cons_self]
      exact .skip _ more ((others tail).mp matchesTail)
  · intro aligns
    rcases aligns_recursive_cons_iff.mp aligns with ⟨-, skipped, rest, pieces, aligns⟩ | ⟨-, last⟩
    · by_cases none : skipped = []
      · subst none
        exact .inl ((others text).mpr (pieces ▸ aligns))
      · obtain ⟨start, tail, rfl, -, rfl⟩ :=
          Text.exists_of_splitOn_eq_append pieces none (aligns.ne_nil more)
        exact .inr (.inr ⟨start, tail, rfl, (others tail).mpr aligns⟩)
    · obtain rfl := last.resolve_left more
      exact .inr (.inl rfl)

end Step

/-- The tokens of components match the texts whose components they align with. -/
theorem matches_tokensOf_iff (nonempty : components ≠ [])
    (wellFormed : ∀ component ∈ components, component.IsWellFormed) (text : List Char) :
    Matches (tokensOf components) text ↔ Aligns components (text.splitOn '/') := by
  induction components generalizing text with
  | nil => exact absurd rfl nonempty
  | cons component components ih =>
    rw [List.forall_mem_cons] at wellFormed
    cases component with
    | ordinary items =>
      by_cases more : components = []
      · subst more
        exact matches_last_iff_aligns wellFormed.1
      · exact matches_ordinary_cons_iff_aligns more (ih more wellFormed.2) wellFormed.1
    | recursive =>
      by_cases more : components = []
      · subst more
        -- the tokens that are left match the end of the text
        have atEnd : Matches (tokensOf [.recursive]) text := .inr (.inl rfl)
        exact iff_of_true atEnd (.final (List.splitOn_ne_nil '/' text))
      · exact matches_recursive_cons_iff_aligns more (ih more wellFormed.2)

/-- Without a double star, each component takes one of the text. -/
theorem Aligns.length_eq (aligns : Aligns components texts) (ordinary : .recursive ∉ components) :
    components.length = texts.length := by
  induction aligns with
  | nil => rfl
  | ordinary _ _ ih =>
    rw [List.length_cons, List.length_cons, ih (List.not_mem_of_not_mem_cons ordinary)]
  | skip | final | finalSlash => exact absurd List.mem_cons_self ordinary

end Components

/-! ### Whole patterns -/

/-- The text fits the pattern, component by component. -/
def Fits (pattern text : List Char) : Prop :=
  ∃ components, Spells components pattern ∧ Aligns components (text.splitOn '/')

theorem isMatch_iff_fits {pattern : String} {glob : Glob} (compiled : compile pattern = .ok glob)
    (text : String) : glob.isMatch text = true ↔ Fits pattern.toList text.toList := by
  obtain ⟨components, spells, tokens⟩ := exists_spells_of_compile compiled
  rw [isMatch, decide_eq_true_iff, tokens, scan_tokensOf_eq_matched_iff,
    matches_tokensOf_iff spells.nonempty spells.wellFormed]
  constructor
  · intro aligns
    exact ⟨components, spells, aligns⟩
  · rintro ⟨components', spells', aligns⟩
    rwa [spells.unique spells']

end ApiTypes.Glob
