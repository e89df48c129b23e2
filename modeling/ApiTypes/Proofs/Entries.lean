import ApiTypes.Entries
import Mathlib.Data.List.Induction
import Mathlib.Data.List.Nodup

/-!
# Keyed entries as ordered maps

Entering a key replaces its value where it stands, or else adds it at the end. So pairs that are
entered one after another leave each key once, in the order in which the keys first occur, with
the value of the last pair that has it.

## Main definitions

* `Entries.keys` — the keys, in order

## Main results

* `Entries.keys_insert`, `Entries.find?_insert` — what entering one key does
* `Entries.find?_eq_of_perm` — the order of distinct keys does not matter for what is found
* `Entries.keys_ofList`, `Entries.find?_ofList` — what entering a list of pairs does
-/

namespace ApiTypes.Entries

variable {α : Type}

/-- The keys, in order. -/
def keys (entries : Entries α) : List String :=
  entries.map Prod.fst

@[simp] theorem keys_nil : keys ([] : Entries α) = [] := rfl

@[simp] theorem keys_cons (entry : String × α) (rest : Entries α) :
    keys (entry :: rest) = entry.1 :: keys rest := rfl

/-! ### One key -/

/-- A key that is there keeps its place; another one is added at the end. -/
theorem keys_insert (key : String) (value : α) (entries : Entries α) :
    keys (insert key value entries) =
      if key ∈ keys entries then keys entries else keys entries ++ [key] := by
  induction entries with
  | nil => rfl
  | cons entry rest ih =>
    obtain ⟨name, old⟩ := entry
    rw [insert]
    by_cases same : name = key
    · simp [same]
    · have other : ¬ key = name := fun h => same h.symm
      rw [if_neg same, keys_cons, ih]
      by_cases there : key ∈ keys rest
      · simp [there]
      · simp [there, other]

theorem nodup_keys_insert {entries : Entries α} (distinct : (keys entries).Nodup) (key : String)
    (value : α) : (keys (insert key value entries)).Nodup := by
  rw [keys_insert]
  split_ifs with there
  · exact distinct
  · rw [← List.concat_eq_append]
    exact distinct.concat there

theorem forall_mem_insert {P : α → Prop} {entries : Entries α} (each : ∀ entry ∈ entries, P entry.2)
    (key : String) {value : α} (whole : P value) :
    ∀ entry ∈ insert key value entries, P entry.2 := by
  induction entries with
  | nil => exact List.forall_mem_singleton.mpr whole
  | cons entry rest ih =>
    obtain ⟨first, others⟩ := List.forall_mem_cons.mp each
    rw [insert]
    split_ifs
    · exact List.forall_mem_cons.mpr ⟨whole, others⟩
    · exact List.forall_mem_cons.mpr ⟨first, ih others⟩

/-- The key gets the value, and no other key is affected. -/
theorem find?_insert (name key : String) (value : α) (entries : Entries α) :
    find? name (insert key value entries) =
      if name = key then some value else find? name entries := by
  induction entries with
  | nil =>
    rw [insert, find?, List.lookup_cons]
    by_cases asked : name = key
    · simp [asked]
    · simp [asked, beq_false_of_ne asked, find?]
  | cons entry rest ih =>
    obtain ⟨first, old⟩ := entry
    rw [insert]
    by_cases same : first = key
    · -- the value is replaced here
      subst same
      by_cases asked : name = first
      · simp [asked, find?]
      · simp [asked, find?, List.lookup_cons, beq_false_of_ne asked]
    · rw [if_neg same, find?, find?, List.lookup_cons, List.lookup_cons]
      by_cases asked : name = first
      · have other : ¬ name = key := fun h => same (asked.symm.trans h)
        simp [asked, same]
      · have skip : (name == first) = false := beq_false_of_ne asked
        rw [skip]
        exact ih

/-- With distinct keys, every entry is the one that is found under its key. -/
theorem find?_of_mem {entries : Entries α} (distinct : (keys entries).Nodup)
    {entry : String × α} (member : entry ∈ entries) : find? entry.1 entries = some entry.2 := by
  induction entries with
  | nil => simp at member
  | cons first rest ih =>
    rw [keys_cons, List.nodup_cons] at distinct
    rw [find?, List.lookup_cons]
    rcases List.mem_cons.mp member with rfl | inRest
    · simp
    · have later : entry.1 ∈ keys rest := List.mem_map_of_mem inRest
      have other : entry.1 ≠ first.1 := fun same => distinct.1 (same ▸ later)
      rw [beq_false_of_ne other]
      exact ih distinct.2 inRest

theorem find?_eq_some_iff {entries : Entries α} (distinct : (keys entries).Nodup) {key : String}
    {value : α} : find? key entries = some value ↔ (key, value) ∈ entries := by
  constructor
  · intro found
    obtain ⟨before, after, rfl, -⟩ := List.lookup_eq_some_iff.mp found
    exact List.mem_append_right before List.mem_cons_self
  · exact find?_of_mem distinct

theorem find?_eq_none_of_notMem {entries : Entries α} {key : String} (absent : key ∉ keys entries) :
    find? key entries = none := by
  rw [find?, List.lookup_eq_none_iff]
  rintro entry member
  exact bne_iff_ne.mpr fun same => absent (same ▸ List.mem_map_of_mem member)

/-- With distinct keys, what is found does not depend on the order of the entries. -/
theorem find?_eq_of_perm {entries entries' : Entries α} (distinct : (keys entries).Nodup)
    (moved : entries.Perm entries') (key : String) : find? key entries = find? key entries' := by
  have distinct' : (keys entries').Nodup := (moved.map Prod.fst).nodup distinct
  ext value
  rw [find?_eq_some_iff distinct, find?_eq_some_iff distinct', moved.mem_iff]

/-! ### A list of pairs -/

theorem ofList_concat (pairs : List (String × α)) (pair : String × α) :
    ofList (pairs ++ [pair]) = insert pair.1 pair.2 (ofList pairs) := by
  rw [ofList, List.foldl_concat, ofList]

theorem nodup_keys_ofList (pairs : List (String × α)) : (keys (ofList pairs)).Nodup := by
  induction pairs using List.reverseRecOn with
  | nil => exact List.nodup_nil
  | append_singleton pairs pair ih =>
    rw [ofList_concat]
    exact nodup_keys_insert ih pair.1 pair.2

theorem forall_mem_ofList {P : α → Prop} {pairs : List (String × α)}
    (each : ∀ pair ∈ pairs, P pair.2) : ∀ entry ∈ ofList pairs, P entry.2 := by
  induction pairs using List.reverseRecOn with
  | nil => exact List.forall_mem_nil _
  | append_singleton pairs pair ih =>
    obtain ⟨before, last⟩ := List.forall_mem_append.mp each
    rw [ofList_concat]
    exact forall_mem_insert (ih before) pair.1 (last pair List.mem_cons_self)

/-- Each key is there once, in the order in which the keys first occur. -/
theorem keys_ofList (pairs : List (String × α)) :
    keys (ofList pairs) = (pairs.map Prod.fst).eraseDups := by
  induction pairs using List.reverseRecOn with
  | nil => rfl
  | append_singleton pairs pair ih =>
    -- the pair that is entered last adds its key only if no pair before it has that key
    rw [ofList_concat, keys_insert, ih, List.map_append, List.eraseDups_append]
    by_cases there : pair.1 ∈ pairs.map Prod.fst
    · have nothing : [pair.1].removeAll (pairs.map Prod.fst) = [] := by
        simpa [List.removeAll] using there
      rw [if_pos (List.mem_eraseDups.mpr there), List.map_singleton, nothing]
      simp
    · have itself : [pair.1].removeAll (pairs.map Prod.fst) = [pair.1] := by
        simpa [List.removeAll] using there
      rw [if_neg (fun h => there (List.mem_eraseDups.mp h)), List.map_singleton, itself]
      simp [List.eraseDups_cons]

/-- Each key has the value of the last pair that has it. -/
theorem find?_ofList (name : String) (pairs : List (String × α)) :
    find? name (ofList pairs) = pairs.reverse.lookup name := by
  induction pairs using List.reverseRecOn with
  | nil => rfl
  | append_singleton pairs pair ih =>
    -- and it is the first one that is met from the end
    rw [ofList_concat, find?_insert, ih, List.reverse_concat, List.lookup_cons]
    by_cases same : name = pair.1
    · simp [same]
    · simp [same, beq_false_of_ne same]

end ApiTypes.Entries
