import ApiTypes.Proofs.Schema.Decoding

/-!
# Values that are read alike

A value in a schema can be replaced by another one if everything that is read from the first can be
read from the second. This is shown for the value of each keyword that holds schemas, and for the
places in which a schema can stand: an entry among others, a branch, a property.

## Main definitions

* `Schema.readings` — what a value can be read as when it stands under a keyword

## Main results

* `Schema.decodeEntries_cons_eq_ok_iff` — how the first keyword of an object is read
* `Schema.enter_single_eq_ok`, `Schema.enter_branches_eq_ok`, `Schema.enter_properties_eq_ok` —
  values that are read alike under a keyword
* `Schema.decodeEntries_cons_eq_ok`, `Schema.decodeAll_cons_eq_ok`,
  `Schema.decodeProperties_cons_eq_ok` — entries, lists and maps are read alike part by part
* `Schema.decode_eq_ok_of_enter` — the value of one keyword is replaced
-/

namespace ApiTypes.Schema

open Decoding Outcome

/-! ### One entry -/

theorem Keyword.ofText?_text (keyword : Keyword) : Keyword.ofText? keyword.text = some keyword := by
  cases keyword <;> rfl

theorem text_of_ofText? {key : String} {keyword : Keyword}
    (named : Keyword.ofText? key = some keyword) : keyword.text = key := by
  unfold Keyword.ofText? at named
  simpa using List.find?_some named

/-- What a value can be read as when it stands under a keyword. -/
def readings (value : Json) : Readings :=
  ⟨fun _ => decode value, fun _ => decodeList value, fun _ => decodeMap value⟩

theorem decodeEntries_cons_of_none {w : Written} {key : String} {value : Json}
    {rest : List (String × Json)} (unnamed : Keyword.ofText? key = none) :
    decodeEntries w ((key, value) :: rest) = decodeEntries w rest := by
  rw [decodeEntries, unnamed]

theorem decodeEntries_cons_of_some {w next : Written} {key : String} {keyword : Keyword}
    {value : Json} {rest : List (String × Json)} (named : Keyword.ofText? key = some keyword)
    (entered : w.enter value (readings value) keyword = .ok next) :
    decodeEntries w ((key, value) :: rest) = decodeEntries next rest := by
  rw [readings] at entered
  rw [decodeEntries, named]
  simp only [entered]
  rfl

theorem decodeEntries_cons_eq_ok_iff {w v : Written} {key : String} {keyword : Keyword}
    {value : Json} {rest : List (String × Json)} (named : Keyword.ofText? key = some keyword) :
    decodeEntries w ((key, value) :: rest) = .ok v ↔
      ∃ next, w.enter value (readings value) keyword = .ok next ∧
        decodeEntries next rest = .ok v := by
  rw [decodeEntries, named, readings]
  simp only [bind_eq_ok_iff, below_eq_ok_iff]

/-! ### Values under a keyword -/

/-- Whatever else can be read from a value that is no `null` is read from the other one too. -/
theorem unlessNull_eq_ok {α : Type} {value value' : Json} {read read' : Unit → Decoded α}
    {result : Option α} (null : value = .null ↔ value' = .null)
    (alike : ∀ a, read () = .ok a → read' () = .ok a)
    (given : unlessNull value read = .ok result) : unlessNull value' read' = .ok result := by
  by_cases isNull : value = .null
  · rw [null.mp isNull]
    rw [isNull] at given
    exact given
  · have isNull' : value' ≠ .null := fun h => isNull (null.mpr h)
    rw [unlessNull] at given ⊢
    · obtain ⟨a, readAs, rfl⟩ := map_eq_ok_iff.mp given
      exact map_eq_ok_iff.mpr ⟨a, alike a readAs, rfl⟩
    · exact isNull'
    · exact isNull

theorem decodeAdditional_object_eq_ok_iff {inner : List (String × Json)}
    {asSchema : Decoded Schema} {result : Option Additional} :
    decodeAdditional (.object inner) asSchema = .ok result ↔
      ∃ schema, asSchema = .ok schema ∧ some (.schema schema) = result := by
  cases asSchema <;> simp [decodeAdditional, fail]

/-- One schema under a keyword. -/
theorem enter_single_eq_ok {keyword : Keyword} {inner inner' : List (String × Json)} {w v : Written}
    (holds : keyword ∈ [Keyword.items, .additionalProperties])
    (alike : ∀ schema, decode (.object inner) = .ok schema → decode (.object inner') = .ok schema)
    (entered : w.enter (.object inner) (readings (.object inner)) keyword = .ok v) :
    w.enter (.object inner') (readings (.object inner')) keyword = .ok v := by
  obtain rfl | rfl := List.mem_pair.mp holds
  · obtain ⟨result, read, set⟩ := bind_eq_ok_iff.mp entered
    exact bind_eq_ok_iff.mpr ⟨result, unlessNull_eq_ok (by simp) alike read, set⟩
  · obtain ⟨result, read, set⟩ := bind_eq_ok_iff.mp entered
    obtain ⟨schema, decoded, rfl⟩ := decodeAdditional_object_eq_ok_iff.mp read
    refine bind_eq_ok_iff.mpr ⟨_, ?_, set⟩
    exact decodeAdditional_object_eq_ok_iff.mpr ⟨schema, alike schema decoded, rfl⟩

/-- A list of schemas under a keyword that joins them. -/
theorem enter_branches_eq_ok {keyword : Keyword} {items items' : List Json} {w v : Written}
    (joins : keyword ∈ [Keyword.oneOf, .anyOf, .allOf])
    (alike : ∀ schemas, decodeAll 0 items = .ok schemas → decodeAll 0 items' = .ok schemas)
    (entered : w.enter (.array items) (readings (.array items)) keyword = .ok v) :
    w.enter (.array items') (readings (.array items')) keyword = .ok v := by
  have alikeLists : ∀ result,
      unlessNull (.array items) (fun _ => decodeList (.array items)) = .ok result →
        unlessNull (.array items') (fun _ => decodeList (.array items')) = .ok result :=
    fun result => unlessNull_eq_ok (by simp) fun schemas decoded => by
      rw [decodeList] at decoded ⊢
      exact alike schemas decoded
  simp only [List.mem_cons, List.not_mem_nil, or_false] at joins
  rcases joins with rfl | rfl | rfl
  all_goals
    obtain ⟨result, read, set⟩ := bind_eq_ok_iff.mp entered
    exact bind_eq_ok_iff.mpr ⟨result, alikeLists result read, set⟩

/-- A map of schemas. -/
theorem enter_properties_eq_ok {entries entries' : List (String × Json)} {w v : Written}
    (alike : ∀ schemas, decodeProperties entries = .ok schemas →
      decodeProperties entries' = .ok schemas)
    (entered : w.enter (.object entries) (readings (.object entries)) .properties = .ok v) :
    w.enter (.object entries') (readings (.object entries')) .properties = .ok v := by
  obtain ⟨result, read, set⟩ := bind_eq_ok_iff.mp entered
  refine bind_eq_ok_iff.mpr ⟨result, ?_, set⟩
  refine unlessNull_eq_ok (by simp) (fun schemas decoded => ?_) read
  -- an object is read as a map by its entries
  change decodeMap _ = _ at decoded
  change decodeMap _ = _
  rw [decodeMap] at decoded ⊢
  exact alike schemas decoded

/-! ### Part by part -/

/-- Entries are read alike if the first ones are, and the rest is. -/
theorem decodeEntries_cons_eq_ok {key : String} {keyword : Option Keyword} {value value' : Json}
    {rest rest' : List (String × Json)} (names : Keyword.ofText? key = keyword)
    (head : ∀ k, keyword = some k → ∀ w v : Written,
      w.enter value (readings value) k = .ok v → w.enter value' (readings value') k = .ok v)
    (tail : ∀ w v, decodeEntries w rest = .ok v → decodeEntries w rest' = .ok v)
    {w v : Written} (read : decodeEntries w ((key, value) :: rest) = .ok v) :
    decodeEntries w ((key, value') :: rest') = .ok v := by
  cases keyword with
  | none =>
    rw [decodeEntries_cons_of_none names] at read ⊢
    exact tail w v read
  | some keyword =>
    obtain ⟨next, entered, read⟩ := (decodeEntries_cons_eq_ok_iff names).mp read
    rw [decodeEntries_cons_of_some names (head keyword rfl w next entered)]
    exact tail next v read

/-- Lists of schemas are decoded alike if the first ones are, and the rest is. -/
theorem decodeAll_cons_eq_ok {n : Nat} {value value' : Json} {rest rest' : List Json}
    (head : ∀ schema, decode value = .ok schema → decode value' = .ok schema)
    (tail : ∀ schemas, decodeAll (n + 1) rest = .ok schemas → decodeAll (n + 1) rest' = .ok schemas)
    {schemas : List Schema} (decoded : decodeAll n (value :: rest) = .ok schemas) :
    decodeAll n (value' :: rest') = .ok schemas := by
  rw [decodeAll] at decoded ⊢
  obtain ⟨first, decodedFirst, decoded⟩ := bind_eq_ok_iff.mp decoded
  obtain ⟨others, decodedOthers, whole⟩ := bind_eq_ok_iff.mp decoded
  rw [below_eq_ok_iff] at decodedFirst
  refine bind_eq_ok_iff.mpr ⟨first, ?_, bind_eq_ok_iff.mpr ⟨others, ?_, whole⟩⟩
  · rw [below_eq_ok_iff]
    exact head first decodedFirst
  · exact tail others decodedOthers

/-- Maps of schemas are decoded alike if the first ones are, and the rest is. -/
theorem decodeProperties_cons_eq_ok {key : String} {value value' : Json}
    {rest rest' : List (String × Json)}
    (head : ∀ schema, decode value = .ok schema → decode value' = .ok schema)
    (tail : ∀ schemas, decodeProperties rest = .ok schemas → decodeProperties rest' = .ok schemas)
    {schemas : List (String × Schema)}
    (decoded : decodeProperties ((key, value) :: rest) = .ok schemas) :
    decodeProperties ((key, value') :: rest') = .ok schemas := by
  rw [decodeProperties] at decoded ⊢
  obtain ⟨first, decodedFirst, decoded⟩ := bind_eq_ok_iff.mp decoded
  obtain ⟨others, decodedOthers, whole⟩ := bind_eq_ok_iff.mp decoded
  rw [below_eq_ok_iff] at decodedFirst
  refine bind_eq_ok_iff.mpr ⟨first, ?_, bind_eq_ok_iff.mpr ⟨others, ?_, whole⟩⟩
  · rw [below_eq_ok_iff]
    exact head first decodedFirst
  · exact tail others decodedOthers

/-! ### The rest behind a common part -/

theorem decodeAll_append_eq_ok (first : List Json) {rest rest' : List Json}
    (alike : ∀ n schemas, decodeAll n rest = .ok schemas → decodeAll n rest' = .ok schemas) :
    ∀ n schemas, decodeAll n (first ++ rest) = .ok schemas →
      decodeAll n (first ++ rest') = .ok schemas := by
  induction first with
  | nil => exact alike
  | cons value first ih =>
    exact fun n schemas => decodeAll_cons_eq_ok (fun _ decoded => decoded) (ih (n + 1))

theorem decodeProperties_append_eq_ok (first : List (String × Json))
    {rest rest' : List (String × Json)}
    (alike : ∀ schemas, decodeProperties rest = .ok schemas →
      decodeProperties rest' = .ok schemas) :
    ∀ schemas, decodeProperties (first ++ rest) = .ok schemas →
      decodeProperties (first ++ rest') = .ok schemas := by
  induction first with
  | nil => exact alike
  | cons entry first ih =>
    exact fun schemas => decodeProperties_cons_eq_ok (fun _ decoded => decoded) ih

theorem decodeEntries_append_eq_ok (before : List (String × Json))
    {rest rest' : List (String × Json)}
    (alike : ∀ w v, decodeEntries w rest = .ok v → decodeEntries w rest' = .ok v) :
    ∀ w v, decodeEntries w (before ++ rest) = .ok v →
      decodeEntries w (before ++ rest') = .ok v := by
  induction before with
  | nil => exact alike
  | cons entry before ih =>
    exact fun w v => decodeEntries_cons_eq_ok rfl (fun _ _ _ _ entered => entered) ih

/-- The value of a keyword is replaced by one that is read alike. -/
theorem decode_eq_ok_of_enter {keyword : Keyword} {value value' : Json}
    (alike : ∀ w v : Written, w.enter value (readings value) keyword = .ok v →
      w.enter value' (readings value') keyword = .ok v)
    (before after : List (String × Json)) {schema : Schema}
    (decoded : decode (.object (before ++ (keyword.text, value) :: after)) = .ok schema) :
    decode (.object (before ++ (keyword.text, value') :: after)) = .ok schema := by
  rw [decode] at decoded ⊢
  obtain ⟨w, read, rfl⟩ := map_eq_ok_iff.mp decoded
  refine map_eq_ok_iff.mpr ⟨w, ?_, rfl⟩
  refine decodeEntries_append_eq_ok before (fun _ _ => ?_) {} w read
  refine decodeEntries_cons_eq_ok keyword.ofText?_text ?_ fun _ _ read => read
  rintro _ ⟨⟩
  exact alike

end ApiTypes.Schema
