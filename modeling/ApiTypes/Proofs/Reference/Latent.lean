import ApiTypes.Proofs.Reference.Addressed

/-!
# References that expansion brings about

Whether an object is a reference is asked before its entries are expanded, and not again. An
object whose `$ref` is no text, but a reference to one, is therefore kept; with its entries
expanded it is a reference. Nothing else makes a reference: without such an object on the way the
expansion of a document has none, at any depth, and to expand it once more changes nothing.

## Main definitions

* `Reference.Visits` — expansion of a value comes to an object that is no reference
* `Reference.Latent` — the object is no reference, but its expansion is one

## Main results

* `Expands.references_eq_nil_iff` — an expansion has no references exactly if no latent one is met
* `expands_self` — a value without references expands to itself
* `references_expanded_eq_nil_iff` — both, for the expansion of a document
-/

namespace ApiTypes.Reference

open Json (reference? reference?_eq_none_iff reference?_eq_some_iff)

/-- Expansion of the value comes to the object with these entries, which is no reference. -/
inductive Visits (document : Json) : Json → List (String × Json) → Prop
  | self {entries : List (String × Json)}
      (plain : ∀ reference, Entries.find? "$ref" entries ≠ some (.string reference)) :
      Visits document (.object entries) entries
  | item {items : List Json} {item : Json} {entries : List (String × Json)}
      (member : item ∈ items) (inside : Visits document item entries) :
      Visits document (.array items) entries
  | entry {outer entries : List (String × Json)} {entry : String × Json}
      (plain : ∀ reference, Entries.find? "$ref" outer ≠ some (.string reference))
      (member : entry ∈ outer) (inside : Visits document entry.2 entries) :
      Visits document (.object outer) entries
  | target {outer entries : List (String × Json)} {reference : String} {found : Json}
      (is : Entries.find? "$ref" outer = some (.string reference))
      (located : Locates document reference found) (inside : Visits document found entries) :
      Visits document (.object outer) entries

/-- The object is no reference, but what stands under its `$ref` expands to a text. -/
def Latent (document : Json) (entries : List (String × Json)) : Prop :=
  (∀ reference, Entries.find? "$ref" entries ≠ some (.string reference)) ∧
    ∃ value text, Entries.find? "$ref" entries = some value ∧
      Expands document value (.string text)

variable {document value result found : Json} {entries values : List (String × Json)}
  {reference : String}

/-! ### The objects that are visited -/

theorem visits_array_iff {items : List Json} :
    Visits document (.array items) entries ↔ ∃ item ∈ items, Visits document item entries := by
  constructor
  · rintro (_ | ⟨member, inside⟩)
    exact ⟨_, member, inside⟩
  · rintro ⟨_, member, inside⟩
    exact .item member inside

theorem visits_object_iff_of_none {outer : List (String × Json)}
    (plain : ∀ reference, Entries.find? "$ref" outer ≠ some (.string reference)) :
    Visits document (.object outer) entries ↔
      entries = outer ∨ ∃ entry ∈ outer, Visits document entry.2 entries := by
  constructor
  · intro visited
    cases visited with
    | self _ => exact .inl rfl
    | entry _ member inside => exact .inr ⟨_, member, inside⟩
    | target is _ _ => exact absurd is (plain _)
  · rintro (rfl | ⟨_, member, inside⟩)
    · exact .self plain
    · exact .entry plain member inside

theorem visits_object_iff_of_some {outer : List (String × Json)}
    (is : Entries.find? "$ref" outer = some (.string reference))
    (located : Locates document reference found) :
    Visits document (.object outer) entries ↔ Visits document found entries := by
  constructor
  · intro visited
    cases visited with
    | self plain => exact absurd is (plain _)
    | entry plain _ _ => exact absurd is (plain _)
    | target is' located' inside =>
      obtain rfl := Json.string.inj (Option.some.inj (is.symm.trans is'))
      obtain rfl := located.unique located'
      exact inside
  · exact .target is located

/-! ### The entries of an expansion -/

/-- Under a key of the expansion stands the expansion of what stood there. -/
theorem ExpandsEntries.find?_eq_some_iff {key : String}
    (each : ExpandsEntries document entries values) :
    Entries.find? key values = some result ↔
      ∃ value, Entries.find? key entries = some value ∧ Expands document value result := by
  unfold Entries.find?
  induction entries generalizing values with
  | nil =>
    cases each
    simp
  | cons entry rest ih =>
    cases each with
    | @cons name _ item _ values head tail =>
      rw [List.lookup_cons, List.lookup_cons]
      -- the first of several entries with the key is found, before and after
      by_cases same : key = name
      · simp only [same, BEq.rfl, Option.some.injEq, exists_eq_left']
        constructor
        · rintro rfl
          exact head
        · exact head.unique
      · have other : (key == name) = false := beq_false_of_ne same
        simp only [other]
        exact ih tail

/-- The expansion of an object is a reference exactly if the object is a latent one. -/
theorem ExpandsEntries.latent_iff (each : ExpandsEntries document entries values)
    (plain : ∀ reference, Entries.find? "$ref" entries ≠ some (.string reference)) :
    Latent document entries ↔ reference? values ≠ none := by
  rw [Option.ne_none_iff_exists']
  simp only [reference?_eq_some_iff, each.find?_eq_some_iff]
  constructor
  · rintro ⟨-, value, text, given, expands⟩
    exact ⟨text, value, given, expands⟩
  · rintro ⟨text, value, given, expands⟩
    exact ⟨plain, value, text, given, expands⟩

mutual

/-- An expansion has no references exactly if no latent one is met on the way to it. -/
theorem Expands.references_eq_nil_iff {value result : Json} : Expands document value result →
    (result.references = [] ↔
      ∀ entries, Visits document value entries → ¬ Latent document entries)
  | .null | .bool _ | .number _ | .string _ => by
    refine iff_of_true rfl ?_
    rintro entries ⟨⟩
  | .array each => by
    rw [Json.references, each.references_eq_nil_iff]
    simp only [visits_array_iff]
    constructor
    · rintro free entries ⟨item, member, inside⟩
      exact free item member entries inside
    · exact fun free item member entries inside => free entries ⟨item, member, inside⟩
  | @Expands.object _ outer values plain each => by
    -- besides what is inside, the object itself counts: as latent before, as a reference after
    have latent := each.latent_iff plain
    rw [Json.references, List.append_eq_nil_iff, each.references_eq_nil_iff]
    simp only [visits_object_iff_of_none plain, Option.toList_eq_nil_iff]
    constructor
    · rintro ⟨none, free⟩ entries (rfl | ⟨entry, member, inside⟩)
      · exact fun is => latent.mp is none
      · exact free entry member entries inside
    · intro free
      refine ⟨?_, fun entry member entries inside => free entries (.inr ⟨entry, member, inside⟩)⟩
      by_contra some
      exact free outer (.inl rfl) (latent.mpr some)
  | .reference is located expands => by
    simp only [visits_object_iff_of_some is located]
    exact expands.references_eq_nil_iff

theorem ExpandsItems.references_eq_nil_iff {items values : List Json} :
    ExpandsItems document items values →
      (Json.itemReferences values = [] ↔
        ∀ item ∈ items, ∀ entries, Visits document item entries → ¬ Latent document entries)
  | .nil => by simp [Json.itemReferences]
  | .cons head tail => by
    rw [Json.itemReferences, List.append_eq_nil_iff, head.references_eq_nil_iff,
      tail.references_eq_nil_iff, List.forall_mem_cons]

theorem ExpandsEntries.references_eq_nil_iff {entries values : List (String × Json)} :
    ExpandsEntries document entries values →
      (Json.entryReferences values = [] ↔
        ∀ entry ∈ entries, ∀ inner, Visits document entry.2 inner → ¬ Latent document inner)
  | .nil => by simp [Json.entryReferences]
  | .cons head tail => by
    rw [Json.entryReferences, List.append_eq_nil_iff, head.references_eq_nil_iff,
      tail.references_eq_nil_iff, List.forall_mem_cons]

end

/-! ### Values without references -/

mutual

/-- A value without references expands to itself, in whatever document. -/
theorem expands_self : ∀ value : Json, value.references = [] → Expands document value value
  | .null, _ => .null
  | .bool b, _ => .bool b
  | .number n, _ => .number n
  | .string s, _ => .string s
  | .array items, free => by
    rw [Json.references] at free
    exact .array (expandsItems_self items free)
  | .object entries, free => by
    rw [Json.references, List.append_eq_nil_iff, Option.toList_eq_nil_iff] at free
    exact .object (reference?_eq_none_iff.mp free.1) (expandsEntries_self entries free.2)

theorem expandsItems_self :
    ∀ items : List Json, Json.itemReferences items = [] → ExpandsItems document items items
  | [], _ => .nil
  | item :: rest, free => by
    rw [Json.itemReferences, List.append_eq_nil_iff] at free
    exact .cons (expands_self item free.1) (expandsItems_self rest free.2)

theorem expandsEntries_self : ∀ entries : List (String × Json),
    Json.entryReferences entries = [] → ExpandsEntries document entries entries
  | [], _ => .nil
  | (_, value) :: rest, free => by
    rw [Json.entryReferences, List.append_eq_nil_iff] at free
    exact .cons (expands_self value free.1) (expandsEntries_self rest free.2)

end

/-- The expansion of a document has no reference, at any depth, exactly if no latent one is met on
the way to it; and then to expand it once more changes nothing. -/
theorem references_expanded_eq_nil_iff (ran : document.expanded = .ok result) :
    (result.references = [] ↔
      ∀ entries, Visits document document entries → ¬ Latent document entries) ∧
      (result.references = [] → result.expanded = .ok result) := by
  constructor
  · have expands := (expand_eq_ok_iff (List.Subset.refl _)).mp ran
    exact expands.references_eq_nil_iff
  · intro free
    exact (expand_eq_ok_iff (List.Subset.refl _)).mpr (expands_self result free)

/-- A `$ref` that is a reference to an object is expanded like any other entry. -/
theorem references_expanded_of_schema_named_ref :
    let document : Json := .object [("properties", .object [("$ref", .object [("$ref",
      .string "#/link")])]), ("link", .object [("type", .string "string")])]
    let result : Json := .object [("properties", .object [("$ref", .object [("type",
      .string "string")])]), ("link", .object [("type", .string "string")])]
    document.expanded = .ok result ∧ result.references = [] ∧ result.expanded = .ok result ∧
      ∀ entries, Visits document document entries → ¬ Latent document entries := by
  intro document result
  have link : Addresses [.key "link"] "#/link" := addresses_of_plain rfl (by decide)
  have located : Locates document "#/link" (.object [("type", .string "string")]) :=
    link.locates rfl
  have found : Expands document (.object [("type", .string "string")])
      (.object [("type", .string "string")]) := expands_self _ rfl
  have inside : Expands document (.object [("$ref", .string "#/link")])
      (.object [("type", .string "string")]) := .reference rfl located found
  -- what stands under `$ref` here is no text, and so this object is no reference
  have properties : Expands document (.object [("$ref", .object [("$ref", .string "#/link")])])
      (.object [("$ref", .object [("type", .string "string")])]) :=
    .object (by simp [Entries.find?]) (.cons inside .nil)
  have ran : document.expanded = .ok result := by
    refine (expand_eq_ok_iff (List.Subset.refl _)).mpr ?_
    exact .object (by simp [Entries.find?, List.lookup_cons]) (.cons properties (.cons found .nil))
  have free : result.references = [] := by rfl
  have main := references_expanded_eq_nil_iff ran
  exact ⟨ran, free, main.2 free, main.1.mp free⟩

/-- A `$ref` that is a reference to a text makes a reference of its object, and only a second
expansion finds its target. -/
theorem references_expanded_ne_nil_of_latent :
    let document : Json := .object [("a", .object [("$ref", .object [("$ref", .string "#/x")])]),
      ("x", .string "#/y"), ("y", .bool true)]
    let result : Json := .object [("a", .object [("$ref", .string "#/y")]),
      ("x", .string "#/y"), ("y", .bool true)]
    document.expanded = .ok result ∧ result.references = ["#/y"] ∧
      result.expanded =
        .ok (.object [("a", .bool true), ("x", .string "#/y"), ("y", .bool true)]) := by
  intro document result
  have text : Addresses [.key "x"] "#/x" := addresses_of_plain rfl (by decide)
  have bool : Addresses [.key "y"] "#/y" := addresses_of_plain rfl (by decide)
  refine ⟨(expand_eq_ok_iff (List.Subset.refl _)).mpr ?_, rfl,
    (expand_eq_ok_iff (List.Subset.refl _)).mpr ?_⟩
  · have located : Locates document "#/x" (.string "#/y") := text.locates rfl
    have inside : Expands document (.object [("$ref", .string "#/x")]) (.string "#/y") :=
      .reference rfl located (.string _)
    have latent : Expands document (.object [("$ref", .object [("$ref", .string "#/x")])])
        (.object [("$ref", .string "#/y")]) := .object (by simp [Entries.find?]) (.cons inside .nil)
    exact .object (by simp [Entries.find?, List.lookup_cons])
      (.cons latent (.cons (.string _) (.cons (.bool _) .nil)))
  · have located : Locates result "#/y" (.bool true) := bool.locates rfl
    have made : Expands result (.object [("$ref", .string "#/y")]) (.bool true) :=
      .reference rfl located (.bool true)
    exact .object (by simp [Entries.find?, List.lookup_cons])
      (.cons made (.cons (.string _) (.cons (.bool _) .nil)))

end ApiTypes.Reference
