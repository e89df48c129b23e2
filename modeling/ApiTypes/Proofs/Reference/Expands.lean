import ApiTypes.Reference
import Mathlib.Data.Fintype.Card
import Mathlib.Data.Set.Finite.List
import Mathlib.Logic.Relation

/-!
# What a value expands to

Expansion as a relation between a value and its expansion, with neither a list of references
under way nor a store of finished ones. A derivation is finite, so a reference on a cycle has
none; over a finite document, that and an unreadable reference are the only obstacles.

## Main definitions

* `Reference.Locates` — the reference leads to a value of the document
* `Reference.Expands` — a value and its expansion
* `Json.mentions` — the references that are met when a value is expanded
* `Reference.LeadsTo` — the target of a reference mentions another
* `Reference.Reachable` — a reference is met sooner or later

## Main results

* `Json.reference?_eq_some_iff` — an object is a reference exactly if a text stands under `$ref`
* `Expands.unique` — a value has at most one expansion
* `Follows.not_transGen` — a reference that has an expansion lies on no cycle
* `exists_expands_iff` — a value has an expansion exactly if every reachable reference leads to
  a value and lies on no cycle
-/

namespace ApiTypes

namespace Json

mutual

/-- The references that are met when the value is expanded: those that stand outside of other
references. -/
def mentions : Json → List String
  | object entries =>
    match Entries.find? "$ref" entries with
    | some (.string reference) => [reference]
    | _ => entryMentions entries
  | array items => itemMentions items
  | _ => []

/-- The references that are met in the items of an array. -/
def itemMentions : List Json → List String
  | [] => []
  | item :: rest => mentions item ++ itemMentions rest

/-- The references that are met in the entries of an object. -/
def entryMentions : List (String × Json) → List String
  | [] => []
  | (_, value) :: rest => mentions value ++ entryMentions rest

end

/-! ### What makes an object a reference -/

section Objects

variable {entries : List (String × Json)} {reference : String}

theorem reference?_eq_some_iff : reference? entries = some reference ↔
    Entries.find? "$ref" entries = some (.string reference) := by
  unfold reference?
  split
  · next given => simp [given]
  · next no =>
    simp only [reduceCtorEq, false_iff]
    exact no reference

theorem reference?_eq_none_iff : reference? entries = none ↔
    ∀ reference, Entries.find? "$ref" entries ≠ some (.string reference) := by
  simp only [Option.eq_none_iff_forall_ne_some, ne_eq, reference?_eq_some_iff]

theorem mentions_object_of_some (is : Entries.find? "$ref" entries = some (.string reference)) :
    (object entries).mentions = [reference] := by
  rw [mentions, is]

theorem mentions_object_of_none
    (plain : ∀ reference, Entries.find? "$ref" entries ≠ some (.string reference)) :
    (object entries).mentions = entryMentions entries := by
  rw [mentions]
  split
  · next reference is => exact absurd is (plain reference)
  · rfl

end Objects

mutual

theorem mentions_subset_references : ∀ value : Json, value.mentions ⊆ value.references
  | object entries => by
    rw [references]
    cases is : reference? entries with
    | some reference => simp [mentions_object_of_some (reference?_eq_some_iff.mp is)]
    | none =>
      rw [mentions_object_of_none (reference?_eq_none_iff.mp is)]
      exact entryMentions_subset_entryReferences entries
  | array items => by
    rw [mentions, references]
    exact itemMentions_subset_itemReferences items
  | null | bool _ | number _ | string _ => List.nil_subset _

theorem itemMentions_subset_itemReferences :
    ∀ items : List Json, itemMentions items ⊆ itemReferences items
  | [] => List.nil_subset _
  | item :: rest => by
    rw [itemMentions, itemReferences]
    refine List.append_subset.mpr ⟨?_, ?_⟩
    · exact List.subset_append_of_subset_left _ (mentions_subset_references item)
    · exact List.subset_append_of_subset_right _ (itemMentions_subset_itemReferences rest)

theorem entryMentions_subset_entryReferences :
    ∀ entries : List (String × Json), entryMentions entries ⊆ entryReferences entries
  | [] => List.nil_subset _
  | (_, value) :: rest => by
    rw [entryMentions, entryReferences]
    refine List.append_subset.mpr ⟨?_, ?_⟩
    · exact List.subset_append_of_subset_left _ (mentions_subset_references value)
    · exact List.subset_append_of_subset_right _ (entryMentions_subset_entryReferences rest)

end

/-! ### The references of a part are references of the whole -/

theorem references_subset_of_mem_items {item : Json} {items : List Json} (member : item ∈ items) :
    item.references ⊆ itemReferences items := by
  induction items with
  | nil => simp at member
  | cons first rest ih =>
    rw [itemReferences]
    rcases List.mem_cons.mp member with rfl | inRest
    · exact List.subset_append_left _ _
    · exact List.subset_append_of_subset_right _ (ih inRest)

theorem references_subset_of_find? {key : String} {value : Json} {entries : List (String × Json)}
    (found : Entries.find? key entries = some value) :
    value.references ⊆ entryReferences entries := by
  induction entries with
  | nil => simp [Entries.find?] at found
  | cons entry rest ih =>
    obtain ⟨name, first⟩ := entry
    rw [entryReferences]
    rw [Entries.find?, List.lookup_cons] at found
    split at found
    · obtain rfl := Option.some.inj found
      exact List.subset_append_left _ _
    · exact List.subset_append_of_subset_right _ (ih found)

theorem references_subset_of_step? {step : String} {value part : Json}
    (taken : value.step? step = some part) : part.references ⊆ value.references := by
  cases value with
  | object entries =>
    rw [references]
    exact List.subset_append_of_subset_right _ (references_subset_of_find? taken)
  | array items =>
    obtain ⟨index, -, atIndex⟩ := Option.bind_eq_some_iff.mp taken
    rw [references]
    exact references_subset_of_mem_items (List.mem_of_getElem? atIndex)
  | null | bool _ | number _ | string _ => simp [step?] at taken

theorem references_subset_of_at? {steps : List String} {value part : Json}
    (found : at? steps value = some part) : part.references ⊆ value.references := by
  induction steps generalizing value with
  | nil =>
    obtain rfl := Option.some.inj found
    exact List.Subset.refl _
  | cons step steps ih =>
    obtain ⟨next, taken, rest⟩ := Option.bind_eq_some_iff.mp found
    exact List.Subset.trans (ih rest) (references_subset_of_step? taken)

end Json

namespace Reference

/-- The reference leads to a value of the document: it is `#` and a percent-encoded pointer at
whose end the value stands. -/
def Locates (document : Json) (reference : String) (found : Json) : Prop :=
  ∃ fragment steps, reference.toList = '#' :: fragment ∧
    Json.Pointer.parse? (Percent.decode fragment) = some steps ∧
      Json.at? steps document = some found

mutual

/-- The value expands to the other one, where references lead into the document. -/
inductive Expands (document : Json) : Json → Json → Prop
  | null : Expands document .null .null
  | bool (b : Bool) : Expands document (.bool b) (.bool b)
  | number (n : Json.Number) : Expands document (.number n) (.number n)
  | string (s : String) : Expands document (.string s) (.string s)
  | array {items values : List Json} (each : ExpandsItems document items values) :
      Expands document (.array items) (.array values)
  | object {entries values : List (String × Json)}
      (plain : ∀ reference, Entries.find? "$ref" entries ≠ some (.string reference))
      (each : ExpandsEntries document entries values) :
      Expands document (.object entries) (.object values)
  | reference {entries : List (String × Json)} {reference : String} {found value : Json}
      (is : Entries.find? "$ref" entries = some (.string reference))
      (located : Locates document reference found) (expands : Expands document found value) :
      Expands document (.object entries) value

/-- Each item expands to the one in its place. -/
inductive ExpandsItems (document : Json) : List Json → List Json → Prop
  | nil : ExpandsItems document [] []
  | cons {item value : Json} {items values : List Json} (head : Expands document item value)
      (tail : ExpandsItems document items values) :
      ExpandsItems document (item :: items) (value :: values)

/-- Each entry keeps its key, and its value expands to the one in its place. -/
inductive ExpandsEntries (document : Json) :
    List (String × Json) → List (String × Json) → Prop
  | nil : ExpandsEntries document [] []
  | cons {key : String} {item value : Json} {entries values : List (String × Json)}
      (head : Expands document item value) (tail : ExpandsEntries document entries values) :
      ExpandsEntries document ((key, item) :: entries) ((key, value) :: values)

end

/-- The target of the reference expands to the value. -/
def Follows (document : Json) (reference : String) (value : Json) : Prop :=
  ∃ found, Locates document reference found ∧ Expands document found value

/-- The target of the first reference mentions the second one. -/
def LeadsTo (document : Json) (reference other : String) : Prop :=
  ∃ found, Locates document reference found ∧ other ∈ found.mentions

/-- The reference is mentioned in the value, or by a reference that is reachable from it. -/
def Reachable (document value : Json) (reference : String) : Prop :=
  ∃ first ∈ value.mentions, Relation.ReflTransGen (LeadsTo document) first reference

variable {document value value' found : Json} {reference other : String}

theorem target_eq_ok_iff : target document reference = .ok found ↔
    Locates document reference found := by
  unfold target Locates
  split
  · next fragment is =>
    simp only [is, List.cons.injEq, true_and]
    cases parsed : Json.Pointer.parse? (Percent.decode fragment) with
    | none => simp [parsed]
    | some steps =>
      cases at' : Json.at? steps document <;> simp [parsed, at']
  · next no =>
    simp only [reduceCtorEq, false_iff]
    rintro ⟨fragment, -, is, -⟩
    exact no fragment is

theorem Locates.unique {found' : Json} (h : Locates document reference found)
    (h' : Locates document reference found') : found = found' := by
  have same := (target_eq_ok_iff.mpr h).symm.trans (target_eq_ok_iff.mpr h')
  exact Except.ok.inj same

theorem Locates.references_subset (h : Locates document reference found) :
    found.references ⊆ document.references := by
  obtain ⟨_, _, -, -, at'⟩ := h
  exact Json.references_subset_of_at? at'

/-! ### Expansions are unique -/

mutual

theorem Expands.unique {value result result' : Json} :
    Expands document value result → Expands document value result' → result = result'
  | .null, .null => rfl
  | .bool _, .bool _ => rfl
  | .number _, .number _ => rfl
  | .string _, .string _ => rfl
  | .array each, .array each' => by rw [each.unique each']
  | .object _ each, .object _ each' => by rw [each.unique each']
  | .object plain _, .reference is _ _ => absurd is (plain _)
  | .reference is _ _, .object plain _ => absurd is (plain _)
  | .reference is located expands, .reference is' located' expands' => by
    obtain rfl := Json.string.inj (Option.some.inj (is.symm.trans is'))
    obtain rfl := located.unique located'
    exact expands.unique expands'

theorem ExpandsItems.unique {items values values' : List Json} :
    ExpandsItems document items values → ExpandsItems document items values' → values = values'
  | .nil, .nil => rfl
  | .cons head tail, .cons head' tail' => by rw [head.unique head', tail.unique tail']

theorem ExpandsEntries.unique {entries values values' : List (String × Json)} :
    ExpandsEntries document entries values → ExpandsEntries document entries values' →
      values = values'
  | .nil, .nil => rfl
  | .cons head tail, .cons head' tail' => by rw [head.unique head', tail.unique tail']

end

theorem Follows.unique (h : Follows document reference value)
    (h' : Follows document reference value') : value = value' := by
  obtain ⟨found, located, expands⟩ := h
  obtain ⟨found', located', expands'⟩ := h'
  obtain rfl := located.unique located'
  exact expands.unique expands'

/-! ### What holds of the references of a value with an expansion -/

/-- A reference that has an expansion inherits the property from those that its target
mentions. -/
def Inherited (document : Json) (P : String → Prop) : Prop :=
  ∀ reference found value, Locates document reference found → Expands document found value →
    (∀ other ∈ found.mentions, P other) → P reference

mutual

/-- Induction over the references that a derivation follows. -/
theorem Expands.forall_mentions {P : String → Prop} (inherited : Inherited document P)
    {value result : Json} :
    Expands document value result → ∀ reference ∈ value.mentions, P reference
  | .null | .bool _ | .number _ | .string _ => by simp [Json.mentions]
  | .array each => each.forall_mentions inherited
  | .object plain each => by
    rw [Json.mentions_object_of_none plain]
    exact each.forall_mentions inherited
  | .reference is located expands => by
    rw [Json.mentions_object_of_some is]
    intro reference member
    obtain rfl := List.mem_singleton.mp member
    exact inherited _ _ _ located expands (expands.forall_mentions inherited)

theorem ExpandsItems.forall_mentions {P : String → Prop} (inherited : Inherited document P)
    {items values : List Json} :
    ExpandsItems document items values → ∀ reference ∈ Json.itemMentions items, P reference
  | .nil => by simp [Json.itemMentions]
  | .cons head tail => by
    intro reference member
    rw [Json.itemMentions, List.mem_append] at member
    exact member.elim (head.forall_mentions inherited reference)
      (tail.forall_mentions inherited reference)

theorem ExpandsEntries.forall_mentions {P : String → Prop} (inherited : Inherited document P)
    {entries values : List (String × Json)} :
    ExpandsEntries document entries values →
      ∀ reference ∈ Json.entryMentions entries, P reference
  | .nil => by simp [Json.entryMentions]
  | .cons head tail => by
    intro reference member
    rw [Json.entryMentions, List.mem_append] at member
    exact member.elim (head.forall_mentions inherited reference)
      (tail.forall_mentions inherited reference)

end

theorem Expands.follows {result : Json} (h : Expands document value result) :
    ∀ reference ∈ value.mentions, ∃ v, Follows document reference v :=
  h.forall_mentions fun _ _ _ located expands _ => ⟨_, _, located, expands⟩

theorem Locates.acc (located : Locates document reference found)
    (below : ∀ other ∈ found.mentions, Acc (Function.swap (LeadsTo document)) other) :
    Acc (Function.swap (LeadsTo document)) reference := by
  refine Acc.intro _ fun other ⟨found', located', mentioned⟩ => ?_
  obtain rfl := located.unique located'
  exact below other mentioned

/-- No endless chain starts at a reference that has an expansion. -/
theorem Follows.acc (h : Follows document reference value) :
    Acc (Function.swap (LeadsTo document)) reference := by
  obtain ⟨found, located, expands⟩ := h
  exact located.acc (expands.forall_mentions fun _ _ _ located' _ below => located'.acc below)

/-- A reference that has an expansion lies on no cycle. -/
theorem Follows.not_transGen (h : Follows document reference value) :
    ¬ Relation.TransGen (LeadsTo document) reference reference := by
  have accessible := h.acc.transGen
  -- `h` is about the one reference that the induction has to vary
  clear h
  induction accessible with
  | intro reference _ ih =>
    intro cycle
    exact ih reference (Relation.transGen_swap.mpr cycle) cycle

/-! ### Which values have an expansion -/

mutual

theorem exists_expands : ∀ value : Json,
    (∀ reference ∈ value.mentions, ∃ v, Follows document reference v) →
      ∃ result, Expands document value result
  | .null, _ => ⟨_, .null⟩
  | .bool b, _ => ⟨_, .bool b⟩
  | .number n, _ => ⟨_, .number n⟩
  | .string s, _ => ⟨_, .string s⟩
  | .array items, follows => by
    obtain ⟨values, each⟩ := exists_expandsItems items follows
    exact ⟨_, .array each⟩
  | .object entries, follows => by
    cases is : Json.reference? entries with
    | none =>
      have plain := Json.reference?_eq_none_iff.mp is
      rw [Json.mentions_object_of_none plain] at follows
      obtain ⟨values, each⟩ := exists_expandsEntries entries follows
      exact ⟨_, .object plain each⟩
    | some reference =>
      have is := Json.reference?_eq_some_iff.mp is
      rw [Json.mentions_object_of_some is] at follows
      obtain ⟨result, found, located, expands⟩ := follows reference (List.mem_singleton_self _)
      exact ⟨result, .reference is located expands⟩

theorem exists_expandsItems : ∀ items : List Json,
    (∀ reference ∈ Json.itemMentions items, ∃ v, Follows document reference v) →
      ∃ values, ExpandsItems document items values
  | [], _ => ⟨[], .nil⟩
  | item :: rest, follows => by
    rw [Json.itemMentions] at follows
    obtain ⟨value, head⟩ := exists_expands item fun r m => follows r (List.mem_append_left _ m)
    obtain ⟨values, tail⟩ :=
      exists_expandsItems rest fun r m => follows r (List.mem_append_right _ m)
    exact ⟨value :: values, .cons head tail⟩

theorem exists_expandsEntries : ∀ entries : List (String × Json),
    (∀ reference ∈ Json.entryMentions entries, ∃ v, Follows document reference v) →
      ∃ values, ExpandsEntries document entries values
  | [], _ => ⟨[], .nil⟩
  | (key, item) :: rest, follows => by
    rw [Json.entryMentions] at follows
    obtain ⟨value, head⟩ := exists_expands item fun r m => follows r (List.mem_append_left _ m)
    obtain ⟨values, tail⟩ :=
      exists_expandsEntries rest fun r m => follows r (List.mem_append_right _ m)
    exact ⟨(key, value) :: values, .cons head tail⟩

end

theorem Reachable.of_mem (member : reference ∈ value.mentions) :
    Reachable document value reference :=
  ⟨reference, member, .refl⟩

theorem Reachable.tail (h : Reachable document value reference)
    (leads : LeadsTo document reference other) : Reachable document value other := by
  obtain ⟨first, member, chain⟩ := h
  exact ⟨first, member, chain.tail leads⟩

theorem Reachable.mem_references (h : Reachable document value reference) :
    reference ∈ value.references ++ document.references := by
  obtain ⟨first, member, chain⟩ := h
  -- it stands in the value itself, or else in the document, in the target of the last step
  rcases chain.cases_tail with rfl | ⟨last, -, found, located, mentioned⟩
  · exact List.mem_append_left _ (Json.mentions_subset_references value member)
  · exact List.mem_append_right _
      (located.references_subset (Json.mentions_subset_references found mentioned))

theorem finite_reachable (document value : Json) :
    Finite {reference // Reachable document value reference} :=
  ((List.finite_toSet _).subset fun _ => Reachable.mem_references).to_subtype

theorem Expands.follows_of_reachable {result : Json} (h : Expands document value result)
    (reachable : Reachable document value reference) : ∃ v, Follows document reference v := by
  obtain ⟨first, member, chain⟩ := reachable
  induction chain with
  | refl => exact h.follows first member
  | tail _ leads ih =>
    -- the target before has an expansion, so what it mentions has one too
    obtain ⟨found, located, mentioned⟩ := leads
    obtain ⟨v, found', located', expands⟩ := ih
    obtain rfl := located.unique located'
    exact expands.follows _ mentioned

/-- A reference that is reachable has an expansion if all reachable ones lead to a value and lie
on no cycle. There are finitely many of them, so none starts an endless chain. -/
theorem exists_follows_of_acyclic
    (sound : ∀ reference, Reachable document value reference →
      (∃ found, Locates document reference found) ∧
        ¬ Relation.TransGen (LeadsTo document) reference reference)
    (reachable : Reachable document value reference) : ∃ v, Follows document reference v := by
  let Below (a b : {reference // Reachable document value reference}) : Prop :=
    Relation.TransGen (LeadsTo document) b.1 a.1
  have := finite_reachable document value
  have : IsTrans _ Below := ⟨fun _ _ _ first second => second.trans first⟩
  have : Std.Irrefl Below := ⟨fun a => (sound a.1 a.2).2⟩
  -- a chain among finitely many references ends, unless it comes back to one of them
  have wellFounded : WellFounded Below := Finite.wellFounded_of_trans_of_irrefl _
  refine wellFounded.induction (C := fun a => ∃ v, Follows document a.1 v)
    ⟨reference, reachable⟩ ?_
  rintro ⟨reference, reachable⟩ ih
  obtain ⟨found, located⟩ := (sound reference reachable).1
  obtain ⟨result, expands⟩ := exists_expands found fun other mentioned => by
    have leads : LeadsTo document reference other := ⟨found, located, mentioned⟩
    exact ih ⟨other, reachable.tail leads⟩ (.single leads)
  exact ⟨result, found, located, expands⟩

/-- A value has an expansion exactly if every reachable reference leads to a value and lies on no
cycle. -/
theorem exists_expands_iff : (∃ result, Expands document value result) ↔
    ∀ reference, Reachable document value reference →
      (∃ found, Locates document reference found) ∧
        ¬ Relation.TransGen (LeadsTo document) reference reference := by
  constructor
  · rintro ⟨result, expands⟩ reference reachable
    obtain ⟨v, follows⟩ := expands.follows_of_reachable reachable
    have ⟨found, located, _⟩ := follows
    exact ⟨⟨found, located⟩, follows.not_transGen⟩
  · intro sound
    exact exists_expands value fun reference member =>
      exists_follows_of_acyclic sound (.of_mem member)

end Reference

end ApiTypes
