import ApiTypes.Proofs.Json.Pointer
import ApiTypes.Proofs.Outcome
import ApiTypes.Proofs.Reference.Resolution
import ApiTypes.Proofs.Text.Percent

/-!
# Every node of a document has a reference

A node is reached from the root by keys and indexes. The pointer of this path, percent-encoded in
any way that escapes its percent signs, is a reference that leads to the node and to no other one,
whatever characters the keys are made of: decoding the percent signs gives the pointer back, then
its slashes cut it into its steps, and then the tildes in each step are decoded. Following the
reference from the start, with no reference under way and none finished, expands the node. It can
only fail for a reference inside the node.

The reference need not occur in the document itself, so that one more can be under way than those
that do.

## Main definitions

* `Reference.Addresses` — a reference spells the pointer of a path
* `Reference.followAlone` — the expanded target of a reference, from the start

## Main results

* `Reference.Addresses.locates` — the reference of a path leads to its end
* `Reference.ensures_followAlone` — what a reference that leads to a node gives
* `Reference.followAlone_of_reached` — every node is addressed, and nothing else is found there
-/

namespace ApiTypes.Reference

variable {document node found : Json} {path : Decoding.Path} {first reference other : String}
  {fuel : Nat} {underway : List String}

/-- The reference is `#` and the pointer of the path, percent-encoded byte by byte. -/
def Addresses (path : Decoding.Path) (reference : String) : Prop :=
  ∃ fragment, reference.toList = '#' :: fragment ∧
    Percent.EncodesBytes (Utf8.encode (Json.Pointer.ofPath path)) (Utf8.encode fragment)

/-- The expanded target of a reference, with no reference under way and none finished. -/
def followAlone (document : Json) (reference : String) : Except Fault Json :=
  (follow document (depthBound document) [] reference).run' []

theorem exists_addresses (path : Decoding.Path) : ∃ reference, Addresses path reference := by
  obtain ⟨fragment, encodes⟩ := Percent.exists_encodesBytes (Json.Pointer.ofPath path)
  exact ⟨String.ofList ('#' :: fragment), fragment, String.toList_ofList, encodes⟩

/-- A pointer without percent signs needs no encoding. -/
theorem addresses_of_plain (sharp : reference.toList = '#' :: Json.Pointer.ofPath path)
    (free : '%' ∉ Json.Pointer.ofPath path) : Addresses path reference :=
  ⟨_, sharp, .self free⟩

/-- The reference of a path leads to the end of the path. -/
theorem Addresses.locates (addresses : Addresses path reference)
    (reached : document.descend? path = some node) : Locates document reference node := by
  obtain ⟨fragment, sharp, encodes⟩ := addresses
  refine ⟨fragment, path.map Json.Pointer.stepText, sharp, ?_, Json.at?_of_descend? reached⟩
  rw [encodes.decode_eq, Json.Pointer.parse?_ofPath]

/-! ### References below a first one -/

/-- A reference is met inside a node while others are under way, all of which lead to it: a first
one, which may be no text of the document, and distinct texts of the document. -/
structure MeetsBelow (document node : Json) (first : String) (fuel : Nat) (underway : List String)
    (reference : String) : Prop where
  distinct : underway.Nodup
  within : underway ⊆ first :: document.references
  enough : document.references.length < underway.length + fuel
  member : reference ∈ document.references
  reachable : Reachable document node reference
  chain : ∀ earlier ∈ underway, Relation.TransGen (LeadsTo document) earlier reference

namespace MeetsBelow

/-- What the node mentions is met with the reference to the node under way. -/
theorem start (located : Locates document first node) (mentioned : other ∈ node.mentions) :
    MeetsBelow document node first document.references.length [first] other where
  distinct := List.nodup_singleton first
  within := by simp
  enough := by simp
  member := located.references_subset (Json.mentions_subset_references node mentioned)
  reachable := .of_mem mentioned
  chain := by
    intro earlier among
    obtain rfl := List.mem_singleton.mp among
    exact .single ⟨node, located, mentioned⟩

/-- There is room for one more reference. -/
theorem fuel_ne_zero (meets : MeetsBelow document node first fuel underway reference)
    (fresh : reference ∉ underway) : fuel ≠ 0 := by
  have distinct : (reference :: underway).Nodup := List.nodup_cons.mpr ⟨fresh, meets.distinct⟩
  have within : reference :: underway ⊆ first :: document.references :=
    List.cons_subset.mpr ⟨List.mem_cons_of_mem first meets.member, meets.within⟩
  have bound := distinct.length_le_of_subset within
  have enough := meets.enough
  simp only [List.length_cons] at bound
  omega

/-- What the target of a reference mentions is met with that reference under way as well. -/
theorem next (meets : MeetsBelow document node first (fuel + 1) underway reference)
    (fresh : reference ∉ underway) (located : Locates document reference found)
    (mentioned : other ∈ found.mentions) :
    MeetsBelow document node first fuel (reference :: underway) other where
  distinct := List.nodup_cons.mpr ⟨fresh, meets.distinct⟩
  within := List.cons_subset.mpr ⟨List.mem_cons_of_mem first meets.member, meets.within⟩
  enough := by
    have enough := meets.enough
    rw [List.length_cons]
    omega
  member := located.references_subset (Json.mentions_subset_references found mentioned)
  reachable := meets.reachable.tail ⟨found, located, mentioned⟩
  chain := by
    have leads : LeadsTo document reference other := ⟨found, located, mentioned⟩
    intro earlier among
    rcases List.mem_cons.mp among with rfl | before
    · exact .single leads
    · exact (meets.chain earlier before).tail leads

end MeetsBelow

/-- A reference that is met inside a node gives its expansion, or else a fault that is warranted
there. -/
theorem ensures_follow_below (meets : MeetsBelow document node first fuel underway reference) :
    Ensures document (follow document fuel underway reference) (Follows document reference)
      (Warranted document node) := by
  induction fuel using Nat.strongRecOn generalizing underway reference with
  | ind fuel ih =>
    refine ensures_follow ?_ ?_ ?_ ?_
    · intro again
      exact ⟨meets.reachable, meets.chain reference again⟩
    · intro fault lost
      rcases target_eq_error lost with ⟨rfl, external⟩ | ⟨rfl, sharp, nowhere⟩
      · exact ⟨meets.reachable, external⟩
      · exact ⟨meets.reachable, sharp, nowhere⟩
    · exact fun fresh exhausted => absurd exhausted (meets.fuel_ne_zero fresh)
    -- what its target mentions is followed with one more reference under way
    · rintro found fuel' located fresh rfl other mentioned
      exact ih fuel' (Nat.lt_succ_self fuel') (meets.next fresh located mentioned)

/-- A reference that leads to a node is followed to the expansion of the node, or else there is a
fault inside the node. -/
theorem ensures_followAlone (located : Locates document reference node) :
    Ensures document (follow document (depthBound document) [] reference)
      (Follows document reference) (Warranted document node) := by
  refine ensures_follow (fun again => absurd again List.not_mem_nil) ?_ ?_ ?_
  · intro fault lost
    rw [target_eq_ok_iff.mpr located] at lost
    cases lost
  · intro _ exhausted
    cases exhausted
  · intro found fuel' located' _ same other mentioned
    obtain rfl := located.unique located'
    obtain rfl : fuel' = document.references.length := (Nat.succ.inj same).symm
    exact ensures_follow_below (.start located mentioned)

/-- Following a reference that leads to a node succeeds just as expanding the node does. -/
theorem followAlone_eq_ok_iff (located : Locates document reference node) (result : Json) :
    followAlone document reference = .ok result ↔ expand document node = .ok result := by
  have outcome := (ensures_followAlone located).run'
  rw [expand_eq_ok_iff located.references_subset, followAlone]
  constructor
  · intro ran
    rw [ran] at outcome
    obtain ⟨found, located', expands⟩ := outcome
    obtain rfl := located.unique located'
    exact expands
  · intro expands
    -- no fault inside the node is warranted, and there is only one expansion
    split at outcome
    · next value ran =>
      rw [ran, outcome.unique ⟨node, located, expands⟩]
    · exact absurd expands outcome.not_expands

/-- A fault is about a reference inside the node. The one that led there has nothing wrong. -/
theorem warranted_of_followAlone (located : Locates document reference node) {fault : Fault}
    (failed : followAlone document reference = .error fault) :
    Warranted document node fault ∧ fault ≠ .external reference ∧ fault ≠ .dangling reference := by
  have warranted := (ensures_followAlone located).run'
  rw [followAlone] at failed
  rw [failed] at warranted
  refine ⟨warranted, ?_, ?_⟩
  · rintro rfl
    exact warranted.2 located.head?
  · rintro rfl
    exact warranted.2.2 ⟨node, located⟩

/-- Every node that is reached by keys and indexes has a reference, and each percent-encoding of its
pointer leads to that node. To follow it from the start is to expand the node. If this fails, the
reference itself is neither external nor dangling: the fault is about another one that is met when
the node is expanded, or about a cycle. -/
theorem followAlone_of_reached (reached : document.descend? path = some node) :
    (∃ reference, Addresses path reference) ∧
      ∀ reference, Addresses path reference →
        target document reference = .ok node ∧
        (∀ result, followAlone document reference = .ok result ↔
          expand document node = .ok result) ∧
        ∀ fault, followAlone document reference = .error fault →
          Warranted document node fault ∧ fault ≠ .external reference ∧
            fault ≠ .dangling reference := by
  refine ⟨exists_addresses path, fun reference addresses => ?_⟩
  have located := addresses.locates reached
  exact ⟨target_eq_ok_iff.mpr located, followAlone_eq_ok_iff located,
    fun _ => warranted_of_followAlone located⟩

/-- A key with a slash and a percent sign; in its reference the second slash is escaped too. -/
theorem followAlone_of_reached_of_percent :
    let node : Json := .object [("$ref", .string "#")]
    let document : Json := .object [("/%", .array [.null, node])]
    let path : Decoding.Path := [.key "/%", .index 1]
    let reference := "#/~1%25%2f1"
    document.descend? path = some node ∧ Addresses path reference ∧
      target document reference = .ok node ∧
      followAlone document reference = .error (.cyclic "#") ∧
      Warranted document node (.cyclic "#") := by
  intro node document path reference
  have reached : document.descend? path = some node := by
    simp [document, path, Json.descend?, Entries.find?]
  have addresses : Addresses path reference := by
    refine ⟨"/~1%25%2f1".toList, by simp [reference], ?_⟩
    have percent : Percent.IsHexDigit '2' (37 / 16) ∧ Percent.IsHexDigit '5' (37 % 16) :=
      ⟨.inl (by decide), .inl (by decide)⟩
    have slash : Percent.IsHexDigit '2' (47 / 16) ∧ Percent.IsHexDigit 'f' (47 % 16) :=
      ⟨.inl (by decide), .inr (by decide)⟩
    have last : Percent.EncodesBytes [47, 49] (Utf8.encode ['%', '2', 'f', '1']) :=
      @Percent.EncodesBytes.escaped 47 [49] [49] '2' 'f' slash.1 slash.2 (.plain (by decide) .nil)
    have escaped : Percent.EncodesBytes [37, 47, 49]
        (Utf8.encode ['%', '2', '5', '%', '2', 'f', '1']) :=
      @Percent.EncodesBytes.escaped 37 [47, 49] _ '2' '5' percent.1 percent.2 last
    exact .plain (by decide) (.plain (by decide) (.plain (by decide) escaped))
  obtain ⟨located, -, faults⟩ := (followAlone_of_reached reached).2 reference addresses
  -- the node is a reference to the whole document, where the node is met again
  have root : Addresses [] "#" := addresses_of_plain rfl List.not_mem_nil
  have whole : target document "#" = .ok document := target_eq_ok_iff.mpr (root.locates rfl)
  have bound : depthBound document = 2 := rfl
  have failed : followAlone document reference = .error (.cyclic "#") := by
    simp [followAlone, bound, follow, located, whole, document, node, reference, expandWith,
      expandEntries, expandItems, Json.reference?, Entries.find?, List.lookup_cons,
      Outcome.ok_bind, Outcome.throw_eq_error]
  exact ⟨reached, addresses, located, failed, (faults _ failed).1⟩

/-- The reference to a node that is itself an external reference is followed to the fault of that
one. Nothing else looks at the node here, since it stands beside a reference. -/
theorem followAlone_external_of_nested :
    let node : Json := .object [("$ref", .string "other.yaml")]
    let document : Json := .object [("link", .object [("$ref", .string "#/x/a")]),
      ("x", .object [("$ref", .string "#/ok"), ("a", node)]), ("ok", .object [])]
    document.descend? [.key "x", .key "a"] = some node ∧
      Addresses [.key "x", .key "a"] "#/x/a" ∧
      followAlone document "#/x/a" = .error (.external "other.yaml") := by
  intro node document
  have reached : document.descend? [.key "x", .key "a"] = some node := by
    simp [document, Json.descend?, Entries.find?, List.lookup_cons]
  have addresses : Addresses [.key "x", .key "a"] "#/x/a" := addresses_of_plain rfl (by decide)
  have located := target_eq_ok_iff.mpr (addresses.locates reached)
  have external : target document "other.yaml" = .error (.external "other.yaml") := rfl
  have bound : depthBound document = 4 := rfl
  refine ⟨reached, addresses, ?_⟩
  simp [followAlone, bound, follow, located, external, node, expandWith, Json.reference?,
    Entries.find?, Outcome.ok_bind, Outcome.error_bind]

end ApiTypes.Reference
