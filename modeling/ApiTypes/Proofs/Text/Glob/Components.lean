import ApiTypes.Text.Glob
import ApiTypes.Proofs.Outcome
import Mathlib.Data.List.Chain

/-!
# The components of a pattern

A pattern is a list of components with slashes between them. A component is a double star, or a
list of items that stand for characters. Every pattern that compiles can be read in this way, and
in no other one.

## Main definitions

* `Glob.Item`, `Glob.Component` — what a pattern is made of
* `Glob.Spells` — the components spell the pattern
* `Glob.tokensOf` — the tokens of a list of components

## Main results

* `Glob.Spells.unique` — a pattern has one reading
* `Glob.exists_spells_of_compile` — a pattern that compiles has one, and compiles to its tokens
-/

namespace ApiTypes.Glob

open Outcome

/-- The characters between the brackets of a class: it is closed by the first bracket after its
first character. -/
def FitsClass (inside : List Char) : Prop := inside ≠ [] ∧ ']' ∉ inside.tail

/-- What stands for a part of a component. The class of `except` is the one that is excluded. -/
inductive Item where
  | char (c : Char)
  | anyChar
  | anyRun
  | within (inside : List Char)
  | except (inside : List Char)
deriving DecidableEq, Repr

namespace Item

/-- The item as it is written. -/
def written : Item → List Char
  | char c => [c]
  | anyChar => ['?']
  | anyRun => ['*']
  | within inside => '[' :: inside ++ [']']
  | except inside => '[' :: '!' :: inside ++ [']']

/-- What the item may be made of. A class that starts with `!` would be an excluded one. -/
def IsWellFormed : Item → Prop
  | char c => c ∉ ['?', '*', '[', '/']
  | anyChar | anyRun => True
  | within inside => FitsClass inside ∧ inside.head? ≠ some '!'
  | except inside => FitsClass inside

/-- The token of the item. -/
def token : Item → Token
  | char c => .char c
  | anyChar => .anyChar
  | anyRun => .anyRun
  | within inside => .within (members inside)
  | except inside => .except (members inside)

end Item

/-- A part of a pattern between slashes. -/
inductive Component where
  | ordinary (items : List Item)
  | recursive
deriving DecidableEq, Repr

namespace Component

/-- The component as it is written. -/
def written : Component → List Char
  | ordinary items => items.flatMap Item.written
  | recursive => ['*', '*']

/-- What the component may be made of. Two stars that meet are no items. -/
def IsWellFormed : Component → Prop
  | ordinary items =>
    (∀ item ∈ items, item.IsWellFormed) ∧
      items.IsChain fun item next => ¬ (item = .anyRun ∧ next = .anyRun)
  | recursive => True

end Component

/-- The components spell the pattern, with slashes between them. -/
structure Spells (components : List Component) (pattern : List Char) : Prop where
  nonempty : components ≠ []
  wellFormed : ∀ component ∈ components, component.IsWellFormed
  written : ['/'].intercalate (components.map Component.written) = pattern

/-- The tokens of components. A double star takes the slash behind it along. -/
def tokensOf : List Component → List Token
  | [] => []
  | [.ordinary items] => items.map Item.token
  | .ordinary items :: components => items.map Item.token ++ .char '/' :: tokensOf components
  | .recursive :: components => .anyComponents :: tokensOf components

theorem tokensOf_ordinary_cons (items : List Item) {components : List Component}
    (more : components ≠ []) :
    tokensOf (.ordinary items :: components) =
      items.map Item.token ++ .char '/' :: tokensOf components := by
  cases components with
  | nil => exact absurd rfl more
  | cons component components => rfl

/-! ### One reading -/

/-- What stands in front of the first of two equal marks is the same. -/
theorem append_cons_inj_of_notMem_left {mark : Char} {xs ys rest rest' : List Char}
    (freeX : mark ∉ xs) (freeY : mark ∉ ys) (same : xs ++ mark :: rest = ys ++ mark :: rest') :
    xs = ys ∧ rest = rest' := by
  induction xs generalizing ys with
  | nil =>
    cases ys with
    | nil => exact ⟨rfl, (List.cons.inj same).2⟩
    | cons y ys => exact absurd (List.cons.inj same).1 (List.ne_of_not_mem_cons freeY)
  | cons x xs ih =>
    cases ys with
    | nil => exact absurd (List.cons.inj same).1.symm (List.ne_of_not_mem_cons freeX)
    | cons y ys =>
      obtain ⟨rfl, tails⟩ := List.cons.inj same
      obtain ⟨rfl, rfl⟩ :=
        ih (List.not_mem_of_not_mem_cons freeX) (List.not_mem_of_not_mem_cons freeY) tails
      exact ⟨rfl, rfl⟩

theorem FitsClass.append_inj {inside inside' rest rest' : List Char} (fits : FitsClass inside)
    (fits' : FitsClass inside') (same : inside ++ ']' :: rest = inside' ++ ']' :: rest') :
    inside = inside' ∧ rest = rest' := by
  obtain ⟨first, others, rfl⟩ := List.exists_cons_of_ne_nil fits.1
  obtain ⟨first', others', rfl⟩ := List.exists_cons_of_ne_nil fits'.1
  obtain ⟨rfl, tails⟩ := List.cons.inj same
  obtain ⟨rfl, rfl⟩ := append_cons_inj_of_notMem_left fits.2 fits'.2 tails
  exact ⟨rfl, rfl⟩

/-- A class that is not excluded does not start with the mark. -/
theorem FitsClass.append_ne_mark_cons {inside rest rest' : List Char} (fits : FitsClass inside)
    (noMark : inside.head? ≠ some '!') : inside ++ rest ≠ '!' :: rest' := by
  obtain ⟨first, others, rfl⟩ := List.exists_cons_of_ne_nil fits.1
  intro same
  exact noMark (congrArg some (List.cons.inj same).1)

namespace Item

variable {item item' : Item} {rest rest' : List Char}

theorem written_ne_nil (item : Item) : item.written ≠ [] := by
  cases item <;> exact List.cons_ne_nil _ _

theorem written_append_ne_slash_cons (wellFormed : item.IsWellFormed) :
    item.written ++ rest ≠ '/' :: rest' := by
  cases item <;> simp_all [written, IsWellFormed]

/-- A character that stands for itself starts no other item. -/
theorem eq_char_of_written_append {c : Char} (wellFormed : (char c).IsWellFormed)
    (same : item.written ++ rest = c :: rest') : item = char c ∧ rest = rest' := by
  cases item <;> simp_all [written, IsWellFormed] <;> simp [← same.1] at wellFormed

/-- The item that a text starts with. -/
theorem written_append_inj (wellFormed : item.IsWellFormed) (wellFormed' : item'.IsWellFormed)
    (same : item.written ++ rest = item'.written ++ rest') : item = item' ∧ rest = rest' := by
  cases item with
  | char c =>
    obtain ⟨rfl, rfl⟩ := eq_char_of_written_append wellFormed same.symm
    exact ⟨rfl, rfl⟩
  | anyChar | anyRun =>
    cases item' with
    | char c => exact eq_char_of_written_append wellFormed' same
    | _ => simp_all [written]
  | within inside =>
    cases item' with
    | char c => exact eq_char_of_written_append wellFormed' same
    | anyChar | anyRun => simp [written] at same
    | within inside' =>
      have same' : inside ++ ']' :: rest = inside' ++ ']' :: rest' := by
        simpa [written] using same
      obtain ⟨rfl, rfl⟩ := wellFormed.1.append_inj wellFormed'.1 same'
      exact ⟨rfl, rfl⟩
    | except inside' =>
      have same' : inside ++ ']' :: rest = '!' :: (inside' ++ ']' :: rest') := by
        simpa [written] using same
      exact absurd same' (wellFormed.1.append_ne_mark_cons wellFormed.2)
  | except inside =>
    cases item' with
    | char c => exact eq_char_of_written_append wellFormed' same
    | anyChar | anyRun => simp [written] at same
    | within inside' =>
      have same' : inside' ++ ']' :: rest' = '!' :: (inside ++ ']' :: rest) := by
        simpa [written] using same.symm
      exact absurd same' (wellFormed'.1.append_ne_mark_cons wellFormed'.2)
    | except inside' =>
      have same' : inside ++ ']' :: rest = inside' ++ ']' :: rest' := by
        simpa [written] using same
      obtain ⟨rfl, rfl⟩ := wellFormed.append_inj wellFormed' same'
      exact ⟨rfl, rfl⟩

/-- A component is over: the pattern ends or goes on with a slash. -/
def IsOver (rest : List Char) : Prop := ∀ c ∈ rest.head?, c = '/'

theorem IsOver.ne_written_append (ends : IsOver rest) (wellFormed : item.IsWellFormed) :
    rest ≠ item.written ++ rest' := by
  rintro rfl
  obtain ⟨c, others, written⟩ := List.exists_cons_of_ne_nil item.written_ne_nil
  have isSlash : c = '/' := ends c (by rw [written]; rfl)
  have starts : item.written ++ rest' = '/' :: (others ++ rest') := by
    rw [written, isSlash, List.cons_append]
  exact written_append_ne_slash_cons wellFormed starts

/-- The items that a text starts with, up to the next slash or the end. -/
theorem flatMap_written_append_inj {items items' : List Item}
    (wellFormed : ∀ item ∈ items, item.IsWellFormed)
    (wellFormed' : ∀ item ∈ items', item.IsWellFormed) (ends : IsOver rest) (ends' : IsOver rest')
    (same : items.flatMap written ++ rest = items'.flatMap written ++ rest') :
    items = items' ∧ rest = rest' := by
  induction items generalizing items' with
  | nil =>
    cases items' with
    | nil => exact ⟨rfl, same⟩
    | cons item' items' =>
      rw [List.flatMap_cons, List.append_assoc] at same
      exact absurd same (ends.ne_written_append (wellFormed' item' List.mem_cons_self))
  | cons item items ih =>
    rw [List.forall_mem_cons] at wellFormed
    rw [List.flatMap_cons, List.append_assoc] at same
    cases items' with
    | nil => exact absurd same.symm (ends'.ne_written_append wellFormed.1)
    | cons item' items' =>
      rw [List.forall_mem_cons] at wellFormed'
      rw [List.flatMap_cons, List.append_assoc] at same
      obtain ⟨rfl, tails⟩ := written_append_inj wellFormed.1 wellFormed'.1 same
      obtain ⟨rfl, rfl⟩ := ih wellFormed.2 wellFormed'.2 tails
      exact ⟨rfl, rfl⟩

end Item

namespace Component

variable {component component' : Component}

/-- The items of a component. A double star is written like two of them. -/
def items : Component → List Item
  | ordinary items => items
  | recursive => [.anyRun, .anyRun]

theorem flatMap_written_items (component : Component) :
    component.items.flatMap Item.written = component.written := by
  cases component <;> rfl

theorem IsWellFormed.items (wellFormed : component.IsWellFormed) :
    ∀ item ∈ component.items, item.IsWellFormed := by
  cases component with
  | ordinary items => exact wellFormed.1
  | recursive => simp [Component.items, Item.IsWellFormed]

/-- No component but the double star has its items. -/
theorem items_inj (wellFormed : component.IsWellFormed) (wellFormed' : component'.IsWellFormed)
    (same : component.items = component'.items) : component = component' := by
  have apart {items : List Item} (chain : (ordinary items).IsWellFormed) :
      items ≠ [.anyRun, .anyRun] := by
    rintro rfl
    exact (List.isChain_cons_cons.mp chain.2).1 ⟨rfl, rfl⟩
  cases component with
  | ordinary items =>
    cases component' with
    | ordinary items' => exact congrArg ordinary same
    | recursive => exact absurd same (apart wellFormed)
  | recursive =>
    cases component' with
    | ordinary items' => exact absurd same.symm (apart wellFormed')
    | recursive => rfl

theorem written_append_inj {rest rest' : List Char} (wellFormed : component.IsWellFormed)
    (wellFormed' : component'.IsWellFormed) (ends : Item.IsOver rest) (ends' : Item.IsOver rest')
    (same : component.written ++ rest = component'.written ++ rest') :
    component = component' ∧ rest = rest' := by
  rw [← flatMap_written_items, ← flatMap_written_items] at same
  obtain ⟨sameItems, rfl⟩ :=
    Item.flatMap_written_append_inj wellFormed.items wellFormed'.items ends ends' same
  exact ⟨items_inj wellFormed wellFormed' sameItems, rfl⟩

end Component

/-! ### Reading a pattern from the back -/

namespace Spells

variable {components : List Component} {pattern : List Char}

theorem intercalate_cons (component : Component) (more : components ≠ []) :
    ['/'].intercalate ((component :: components).map Component.written) =
      component.written ++ '/' :: ['/'].intercalate (components.map Component.written) := by
  have others : components.map Component.written ≠ [] := by simpa using more
  rw [List.map_cons, List.intercalate_cons_of_ne_nil others, List.append_assoc,
    List.singleton_append]

/-- A component in front, with a slash behind it. -/
theorem cons (spells : Spells components pattern) {component : Component}
    (wellFormed : component.IsWellFormed) :
    Spells (component :: components) (component.written ++ '/' :: pattern) := by
  refine ⟨List.cons_ne_nil _ _, List.forall_mem_cons.mpr ⟨wellFormed, spells.wellFormed⟩, ?_⟩
  rw [intercalate_cons component spells.nonempty, spells.written]

theorem single {component : Component} (wellFormed : component.IsWellFormed) :
    Spells [component] component.written :=
  ⟨List.cons_ne_nil _ _, List.forall_mem_singleton.mpr wellFormed, List.intercalate_singleton⟩

/-- Behind the first component, the pattern ends or goes on with a slash. -/
theorem of_cons {component : Component} (spells : Spells (component :: components) pattern) :
    component.IsWellFormed ∧ ∃ rest, pattern = component.written ++ rest ∧ Item.IsOver rest ∧
      (components = [] ∧ rest = [] ∨ ∃ rest', rest = '/' :: rest' ∧ Spells components rest') := by
  obtain ⟨-, wellFormed, rfl⟩ := spells
  rw [List.forall_mem_cons] at wellFormed
  refine ⟨wellFormed.1, ?_⟩
  by_cases more : components = []
  · subst more
    exact ⟨[], by simp, by simp [Item.IsOver], .inl ⟨rfl, rfl⟩⟩
  · exact ⟨_, intercalate_cons component more, by simp [Item.IsOver],
      .inr ⟨_, rfl, more, wellFormed.2, rfl⟩⟩

/-- A pattern has one reading. -/
theorem unique {components' : List Component} (spells : Spells components pattern)
    (spells' : Spells components' pattern) : components = components' := by
  induction components generalizing components' pattern with
  | nil => exact absurd rfl spells.nonempty
  | cons component components ih =>
    obtain ⟨component', components', rfl⟩ := List.exists_cons_of_ne_nil spells'.nonempty
    obtain ⟨wellFormed, rest, rfl, ends, behind⟩ := spells.of_cons
    obtain ⟨wellFormed', rest', same, ends', behind'⟩ := spells'.of_cons
    obtain ⟨rfl, rfl⟩ := Component.written_append_inj wellFormed wellFormed' ends ends' same
    rcases behind with ⟨rfl, rfl⟩ | ⟨rest, rfl, more⟩ <;>
      rcases behind' with ⟨rfl, same⟩ | ⟨rest', same, more'⟩
    · rfl
    · cases same
    · cases same
    · obtain rfl : rest = rest' := (List.cons.inj same).2
      rw [ih more more']

/-- An item in front goes to the first component, if that is no double star. -/
theorem cons_item (spells : Spells components pattern)
    (within : components.head? ≠ some .recursive) {item : Item} (wellFormed : item.IsWellFormed)
    (apart : item = .anyRun → pattern.head? ≠ some '*') :
    ∃ components', Spells components' (item.written ++ pattern) ∧
      components'.head? ≠ some .recursive ∧
        tokensOf components' = item.token :: tokensOf components := by
  obtain ⟨nonempty, allWellFormed, rfl⟩ := spells
  obtain ⟨first, others, rfl⟩ := List.exists_cons_of_ne_nil nonempty
  obtain ⟨firstWellFormed, othersWellFormed⟩ := List.forall_mem_cons.mp allWellFormed
  cases first with
  | recursive => exact absurd rfl within
  | ordinary items =>
    have longer : (Component.ordinary (item :: items)).IsWellFormed := by
      refine ⟨List.forall_mem_cons.mpr ⟨wellFormed, firstWellFormed.1⟩, ?_⟩
      refine List.isChain_cons.mpr ⟨fun next isNext => ?_, firstWellFormed.2⟩
      rintro ⟨rfl, rfl⟩
      -- the pattern would go on with a star
      obtain ⟨rest, rfl⟩ : ∃ rest, items = .anyRun :: rest := by
        cases items with
        | nil => cases isNext
        | cons item items => exact ⟨items, by rw [Option.some.inj isNext]⟩
      refine apart rfl ?_
      cases others <;> rfl
    refine ⟨.ordinary (item :: items) :: others, ⟨List.cons_ne_nil _ _,
      List.forall_mem_cons.mpr ⟨longer, othersWellFormed⟩, ?_⟩, by simp, ?_⟩
    · cases others <;> simp [Component.written, List.intercalate_cons_cons]
    · cases others <;> rfl

end Spells

/-! ### Compiling -/

/-- How a pattern that compiles is read outside classes. Behind a character that is no slash it
goes on with an ordinary component. -/
def IsReadBehind (before : Option Char) (pattern : List Char) (result : List Token) : Prop :=
  ∃ components, Spells components pattern ∧ tokensOf components = result ∧
    (before = none ∨ before = some '/' ∨ components.head? ≠ some .recursive)

/-- How a pattern that compiles is read. In a class it goes on with what closes the class. -/
def IsRead : Option OpenClass → Option Char → List Char → List Token → Prop
  | none, before, pattern, result => IsReadBehind before pattern result
  | some opened, _, pattern, result =>
    ']' ∉ opened.inside.reverse.tail →
      ∃ inside rest others, pattern = inside ++ ']' :: rest ∧
        FitsClass (opened.inside.reverse ++ inside) ∧ IsReadBehind (some ']') rest others ∧
          result = { opened with inside := inside.reverse ++ opened.inside }.token :: others

namespace IsReadBehind

variable {before : Option Char} {last : Char} {rest : List Char} {result : List Token}

/-- An item in front. -/
theorem cons_item (isRead : IsReadBehind (some last) rest result) (noSlash : last ≠ '/')
    {item : Item} (wellFormed : item.IsWellFormed)
    (apart : item = .anyRun → rest.head? ≠ some '*') :
    IsReadBehind before (item.written ++ rest) (item.token :: result) := by
  obtain ⟨components, spells, rfl, behind⟩ := isRead
  have within : components.head? ≠ some .recursive := by
    rcases behind with none | slash | within
    · cases none
    · exact absurd (Option.some.inj slash) noSlash
    · exact within
  obtain ⟨components', spells', within', tokens⟩ := spells.cons_item within wellFormed apart
  exact ⟨components', spells', tokens, .inr (.inr within')⟩

/-- A slash in front ends an empty component. -/
theorem cons_slash (isRead : IsReadBehind (some '/') rest result) :
    IsReadBehind before ('/' :: rest) (.char '/' :: result) := by
  obtain ⟨components, spells, rfl, -⟩ := isRead
  have empty : (Component.ordinary []).IsWellFormed := ⟨by simp, .nil⟩
  exact ⟨_, spells.cons empty, tokensOf_ordinary_cons [] spells.nonempty, .inr (.inr nofun)⟩

end IsReadBehind

/-- A class that goes on still has no bracket after its first character. -/
theorem notMem_tail_reverse_cons {c : Char} {inside : List Char}
    (stays : ¬ (c = ']' ∧ inside ≠ [])) (closed : ']' ∉ inside.reverse.tail) :
    ']' ∉ (c :: inside).reverse.tail := by
  by_cases first : inside = []
  · rw [first]
    exact List.not_mem_nil
  · have other : c ≠ ']' := fun same => stays ⟨same, first⟩
    have some' : inside.reverse ≠ [] := List.reverse_ne_nil_iff.mpr first
    rw [List.reverse_cons, List.tail_append_of_ne_nil some', List.mem_append, not_or]
    exact ⟨closed, by simpa using other.symm⟩

/-- Compiling reads a pattern. The induction is on what compiling goes through, so that each case
puts one item, slash or double star in front of the reading of the rest. -/
theorem isRead_of_compileFrom (opened? : Option OpenClass) (position : Nat)
    (before : Option Char) (pattern : List Char) :
    ∀ result, compileFrom opened? position before pattern = .ok result →
      IsRead opened? before pattern result := by
  fun_induction compileFrom opened? position before pattern with
  | case1 | case5 | case8 | case9 => rintro _ ⟨⟩
  | case2 opened position before c rest closes ih =>
    -- the class is closed
    intro result compiled closed
    obtain ⟨rfl, nonempty⟩ := closes
    obtain ⟨others, compiledRest, rfl⟩ := map_eq_ok_iff.mp compiled
    refine ⟨[], rest, others, rfl, ?_, ih others compiledRest, rfl⟩
    rw [List.append_nil]
    exact ⟨List.reverse_ne_nil_iff.mpr nonempty, closed⟩
  | case3 opened position before c rest stays ih =>
    -- the class goes on
    intro result compiled closed
    obtain ⟨inside, rest', others, rfl, fits, isRead, rfl⟩ :=
      ih result compiled (notMem_tail_reverse_cons stays closed)
    refine ⟨c :: inside, rest', others, rfl, ?_, isRead, ?_⟩
    · simpa using fits
    · simp
  | case4 =>
    -- the end of the pattern is an empty component
    rintro _ ⟨⟩
    exact ⟨[.ordinary []], .single ⟨by simp, .nil⟩, rfl, .inr (.inr (by simp))⟩
  | case6 position before start =>
    -- a double star that ends the pattern
    rintro _ ⟨⟩
    exact ⟨[.recursive], .single trivial, rfl, by tauto⟩
  | case7 position before start rest _ ih =>
    -- a double star takes the slash behind it along
    intro result compiled
    obtain ⟨others, compiledRest, rfl⟩ := map_eq_ok_iff.mp compiled
    obtain ⟨components, spells, rfl, -⟩ := ih others compiledRest
    refine ⟨.recursive :: components, spells.cons trivial, ?_, by tauto⟩
    rfl
  | case10 position before rest noStar ih =>
    -- a run does not meet another one, which would have been read as a double star
    intro result compiled
    obtain ⟨others, compiledRest, rfl⟩ := map_eq_ok_iff.mp compiled
    have wellFormed : Item.anyRun.IsWellFormed := trivial
    refine (ih others compiledRest).cons_item (by decide) wellFormed fun _ isStar => ?_
    obtain ⟨rest, rfl⟩ := List.head?_eq_some_iff.mp isStar
    exact noStar rest rfl
  | case11 position before rest ih =>
    intro result compiled
    obtain ⟨others, compiledRest, rfl⟩ := map_eq_ok_iff.mp compiled
    have wellFormed : Item.anyChar.IsWellFormed := trivial
    exact (ih others compiledRest).cons_item (by decide) wellFormed nofun
  | case12 position before rest ih =>
    -- a class opens
    intro result compiled
    obtain ⟨inside, rest, others, rfl, fits, isRead, rfl⟩ := ih result compiled (by simp)
    have wellFormed : (Item.except inside).IsWellFormed := fits
    have read : IsReadBehind before _ _ := isRead.cons_item (by decide) wellFormed nofun
    simpa [IsRead, Item.written, Item.token, OpenClass.token] using read
  | case13 position before rest notNegated ih =>
    -- a class opens that does not start with the mark
    intro result compiled
    obtain ⟨inside, rest, others, rfl, fits, isRead, rfl⟩ := ih result compiled (by simp)
    have noMark : inside.head? ≠ some '!' := by
      intro isMark
      obtain ⟨inside, rfl⟩ := List.head?_eq_some_iff.mp isMark
      exact notNegated _ rfl
    have wellFormed : (Item.within inside).IsWellFormed := ⟨fits, noMark⟩
    have read : IsReadBehind before _ _ := isRead.cons_item (by decide) wellFormed nofun
    simpa [IsRead, Item.written, Item.token, OpenClass.token] using read
  | case14 position before c rest _ noStar noMark _ noClass ih =>
    intro result compiled
    obtain ⟨others, compiledRest, rfl⟩ := map_eq_ok_iff.mp compiled
    by_cases isSlash : c = '/'
    · subst isSlash
      exact (ih others compiledRest).cons_slash
    · have wellFormed : (Item.char c).IsWellFormed := by
        simp only [Item.IsWellFormed, List.mem_cons, List.not_mem_nil, not_or, or_false]
        exact ⟨noMark, noStar, noClass, isSlash⟩
      exact (ih others compiledRest).cons_item isSlash wellFormed nofun

/-- A pattern that compiles has a reading, and compiles to the tokens of its components. -/
theorem exists_spells_of_compile {pattern : String} {glob : Glob}
    (compiled : compile pattern = .ok glob) :
    ∃ components, Spells components pattern.toList ∧ glob.tokens = tokensOf components := by
  obtain ⟨result, read, rfl⟩ := map_eq_ok_iff.mp compiled
  obtain ⟨components, spells, rfl, -⟩ := isRead_of_compileFrom none 0 none _ result read
  exact ⟨components, spells, rfl⟩

end ApiTypes.Glob
