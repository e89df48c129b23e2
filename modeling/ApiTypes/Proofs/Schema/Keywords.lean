import ApiTypes.Proofs.Entries
import ApiTypes.Proofs.Schema.Alike
import Mathlib.Logic.Function.Basic

/-!
# Keywords, one by one

The keywords of a schema are read independently of one another. So the keywords of an object are a
family of values, one for each keyword: what is read from the entry of the keyword if there is
one, and else what the keyword stands for when it is left out. The order of the entries does not
matter, nor do entries that say nothing.

## Main definitions

* `Schema.Keyword.Value` — what is read under a keyword
* `Schema.Written.get`, `Schema.Written.of` — the keywords as a family of values
* `Schema.Keyword.given` — what the entries of an object give for a keyword
* `Schema.Silent` — an entry whose key names no keyword, or whose value is a `null` that stands for
  the lack of a value

## Main results

* `Schema.Written.enter_eq` — entering a keyword changes the value of that keyword only
* `Schema.decodeEntries_eq_ok_iff` — the entries of an object are read keyword by keyword
* `Schema.decodeEntries_perm` — the order of the entries does not matter
* `Schema.decodeEntries_append_cons_of_silent` — an entry that says nothing can be left out
-/

namespace ApiTypes.Schema

open Decoding Outcome

/-! ### The keywords as a family -/

/-- What is read under a keyword. -/
def Keyword.Value : Keyword → Type
  | .type => List String
  | .nullable => Bool
  | .properties => Option (List (String × Schema))
  | .required => List String
  | .additionalProperties => Option Additional
  | .items => Option Schema
  | .enum => Option (List Json)
  | .oneOf => Option (List Schema)
  | .anyOf => Option (List Schema)
  | .allOf => Option (List Schema)

/-- The keywords that may have `null` in place of a value. -/
def Keyword.optionals : List Keyword :=
  [properties, additionalProperties, items, enum, oneOf, anyOf, allOf]

/-- Reads a value under the keyword. -/
def Keyword.read (value : Json) : (keyword : Keyword) → Decoded keyword.Value
  | .type => decodeTypes value
  | .nullable => boolean value
  | .properties => unlessNull value fun _ => decodeMap value
  | .required => listOf string value
  | .additionalProperties => decodeAdditional value (decode value)
  | .items => unlessNull value fun _ => decode value
  | .enum => optional (listOf .ok) value
  | .oneOf => unlessNull value fun _ => decodeList value
  | .anyOf => unlessNull value fun _ => decodeList value
  | .allOf => unlessNull value fun _ => decodeList value

namespace Written

variable {w v : Written}

/-- What stands under a keyword. -/
def get (w : Written) : (keyword : Keyword) → keyword.Value
  | .type => w.types
  | .nullable => w.isNullable
  | .properties => w.properties
  | .required => w.required
  | .additionalProperties => w.additional
  | .items => w.items
  | .enum => w.values
  | .oneOf => w.oneOf
  | .anyOf => w.anyOf
  | .allOf => w.allOf

/-- The keywords with these values. -/
def of (values : (keyword : Keyword) → keyword.Value) : Written where
  types := values .type
  isNullable := values .nullable
  properties := values .properties
  required := values .required
  additional := values .additionalProperties
  items := values .items
  values := values .enum
  oneOf := values .oneOf
  anyOf := values .anyOf
  allOf := values .allOf

@[simp] theorem of_get (w : Written) : of w.get = w := rfl

@[simp] theorem get_of (values : (keyword : Keyword) → keyword.Value) :
    (of values).get = values := by
  funext keyword
  cases keyword <;> rfl

theorem get_injective : Function.Injective get :=
  Function.LeftInverse.injective of_get

/-- The keywords with another value of one keyword. -/
def set (w : Written) (keyword : Keyword) (value : keyword.Value) : Written :=
  of (Function.update w.get keyword value)

@[simp] theorem get_set_self (keyword : Keyword) (value : keyword.Value) :
    (w.set keyword value).get keyword = value := by
  rw [set, get_of, Function.update_self]

@[simp] theorem set_get (w : Written) (keyword : Keyword) : w.set keyword (w.get keyword) = w := by
  rw [set, Function.update_eq_self, of_get]

theorem get_set_of_ne {keyword other : Keyword} (value : keyword.Value) (ne : other ≠ keyword) :
    (w.set keyword value).get other = w.get other := by
  rw [set, get_of, Function.update_of_ne ne]

/-- Entering a keyword reads its value and changes nothing else. -/
theorem enter_eq (value : Json) (keyword : Keyword) :
    w.enter value (readings value) keyword = w.set keyword <$> keyword.read value := by
  cases keyword with
  | type | nullable | properties | required | additionalProperties | items | enum | oneOf | anyOf
  | allOf =>
    rw [← bind_pure_comp]
    rfl

end Written

/-! ### The entries of an object -/

/-- What the entries of an object give for the keyword. Without an entry it stays as it is. -/
def Keyword.given (w : Written) (entries : List (String × Json)) (keyword : Keyword) :
    Decoded keyword.Value :=
  (Entries.find? keyword.text entries).elim (.ok (w.get keyword)) keyword.read

theorem Keyword.text_injective : Function.Injective Keyword.text := by
  intro keyword other same
  have named := ofText?_text keyword
  rw [same, ofText?_text] at named
  exact (Option.some.inj named).symm

section Given

variable {w v : Written} {key : String} {value : Json} {rest : List (String × Json)}

theorem Keyword.given_nil (keyword : Keyword) : keyword.given w [] = .ok (w.get keyword) := rfl

theorem Keyword.given_cons_of_ne {keyword : Keyword} (ne : keyword.text ≠ key) :
    keyword.given w ((key, value) :: rest) = keyword.given w rest := by
  simp [Keyword.given, Entries.find?, List.lookup_cons, beq_false_of_ne ne]

theorem Keyword.given_cons_self (keyword : Keyword) :
    keyword.given w ((keyword.text, value) :: rest) = keyword.read value := by
  simp [Keyword.given, Entries.find?]

/-- A key that names no keyword gives nothing. -/
theorem Keyword.given_cons_of_none (unnamed : Keyword.ofText? key = none) (keyword : Keyword) :
    keyword.given w ((key, value) :: rest) = keyword.given w rest := by
  refine given_cons_of_ne ?_
  rintro rfl
  simp [ofText?_text] at unnamed

/-- The first entry may as well be entered before the others are looked at. -/
theorem Keyword.given_cons_of_read {named : Keyword} {read : named.Value}
    (alone : named.text ∉ Entries.keys rest) (asked : named.read value = .ok read)
    (keyword : Keyword) :
    keyword.given w ((named.text, value) :: rest) = keyword.given (w.set named read) rest := by
  by_cases same : keyword = named
  · subst same
    rw [given_cons_self, asked, given, Entries.find?_eq_none_of_notMem alone, Option.elim_none,
      Written.get_set_self]
  · rw [given_cons_of_ne (text_injective.ne same), given, given, Written.get_set_of_ne read same]

end Given

/-- The entries of an object are read keyword by keyword. -/
theorem decodeEntries_eq_ok_iff {entries : List (String × Json)}
    (distinct : (Entries.keys entries).Nodup) {w v : Written} :
    decodeEntries w entries = .ok v ↔
      ∀ keyword : Keyword, keyword.given w entries = .ok (v.get keyword) := by
  induction entries generalizing w with
  | nil =>
    simp only [decodeEntries, Keyword.given_nil, Except.ok.injEq]
    rw [← Written.get_injective.eq_iff, funext_iff]
  | cons entry rest ih =>
    obtain ⟨key, value⟩ := entry
    rw [Entries.keys_cons, List.nodup_cons] at distinct
    cases names : Keyword.ofText? key with
    | none =>
      rw [decodeEntries_cons_of_none names, ih distinct.2]
      exact forall_congr' fun keyword => by rw [Keyword.given_cons_of_none names]
    | some named =>
      obtain rfl := text_of_ofText? names
      simp only [decodeEntries_cons_eq_ok_iff names, Written.enter_eq, map_eq_ok_iff, ih distinct.2]
      constructor
      · rintro ⟨_, ⟨read, asked, rfl⟩, others⟩ keyword
        rw [Keyword.given_cons_of_read distinct.1 asked, others]
      · intro each
        have asked : named.read value = .ok (v.get named) := by
          rw [← Keyword.given_cons_self, each]
        refine ⟨_, ⟨_, asked, rfl⟩, fun keyword => ?_⟩
        rw [← Keyword.given_cons_of_read distinct.1 asked, each]

/-- The order of the entries does not matter. -/
theorem decodeEntries_perm {entries entries' : List (String × Json)}
    (distinct : (Entries.keys entries).Nodup) (moved : entries.Perm entries') {w v : Written} :
    decodeEntries w entries = .ok v ↔ decodeEntries w entries' = .ok v := by
  have distinct' : (Entries.keys entries').Nodup := (moved.map Prod.fst).nodup distinct
  rw [decodeEntries_eq_ok_iff distinct, decodeEntries_eq_ok_iff distinct']
  simp only [Keyword.given, Entries.find?_eq_of_perm distinct moved]

/-! ### Entries that say nothing -/

/-- The entry says nothing: its key names no keyword, or its value is a `null` that stands for the
lack of a value. -/
def Silent (entry : String × Json) : Prop :=
  Keyword.ofText? entry.1 = none ∨ ∃ keyword ∈ Keyword.optionals, entry = (keyword.text, .null)

theorem Keyword.read_null {keyword : Keyword} (mayLack : keyword ∈ optionals) :
    keyword.read .null = .ok (Written.get {} keyword) := by
  simp only [optionals, List.mem_cons, List.not_mem_nil, or_false] at mayLack
  rcases mayLack with rfl | rfl | rfl | rfl | rfl | rfl | rfl <;> rfl

theorem decodeEntries_cons_of_silent {entry : String × Json} (silent : Silent entry)
    (rest : List (String × Json)) :
    decodeEntries {} (entry :: rest) = decodeEntries {} rest := by
  rcases silent with unnamed | ⟨keyword, mayLack, rfl⟩
  · exact decodeEntries_cons_of_none unnamed
  · refine decodeEntries_cons_of_some (Keyword.ofText?_text keyword) ?_
    rw [Written.enter_eq, Keyword.read_null mayLack]
    exact congrArg Except.ok (Written.set_get {} keyword)

/-- An entry that says nothing can be left out, wherever it stands. -/
theorem decodeEntries_append_cons_of_silent {entry : String × Json} (silent : Silent entry)
    {before after : List (String × Json)}
    (distinct : (Entries.keys (before ++ entry :: after)).Nodup) {v : Written} :
    decodeEntries {} (before ++ entry :: after) = .ok v ↔
      decodeEntries {} (before ++ after) = .ok v := by
  rw [decodeEntries_perm distinct List.perm_middle, decodeEntries_cons_of_silent silent]

end ApiTypes.Schema
