import ApiTypes.Proofs.Schema.Keywords
import Mathlib.Logic.Relation

/-!
# Edits that say nothing

The order of the keys of a schema, keys that name no keyword, and `null` under a keyword that may
be left out say nothing. Wherever in a schema they are changed, any number of times, the schema
that is decoded stays the same.

## Main definitions

* `Schema.Edit` — the entries of one object are reordered, or one that says nothing comes or goes
* `Schema.Edited` — one edit of an object that stands for a schema: the given one, or one inside it

## Main results

* `Schema.Edit.decodeEntries_eq_ok_iff` — an edit changes nothing in what is read from the object
* `Schema.Edited.decode_eq_ok` — nor in what is read from an object around it
* `Schema.decode_eq_ok_iff_of_edited` — the same schema is decoded after any number of edits
-/

namespace ApiTypes.Schema

open Decoding Outcome

/-! ### One object -/

/-- The entries of an object, whose keys are distinct, are reordered, or an entry that says nothing
is added or removed. -/
inductive Edit : List (String × Json) → List (String × Json) → Prop
  | permute {entries entries' : List (String × Json)} (distinct : (Entries.keys entries).Nodup)
      (moved : entries.Perm entries') : Edit entries entries'
  | add {before after : List (String × Json)} {entry : String × Json} (silent : Silent entry)
      (distinct : (Entries.keys (before ++ entry :: after)).Nodup) :
      Edit (before ++ after) (before ++ entry :: after)
  | remove {before after : List (String × Json)} {entry : String × Json} (silent : Silent entry)
      (distinct : (Entries.keys (before ++ entry :: after)).Nodup) :
      Edit (before ++ entry :: after) (before ++ after)

namespace Edit

variable {entries entries' : List (String × Json)}

theorem symm (edit : Edit entries entries') : Edit entries' entries := by
  cases edit with
  | permute distinct moved => exact .permute ((moved.map Prod.fst).nodup distinct) moved.symm
  | add silent distinct => exact .remove silent distinct
  | remove silent distinct => exact .add silent distinct

/-- An edit changes nothing in what is read from the object. -/
theorem decodeEntries_eq_ok_iff (edit : Edit entries entries') {v : Written} :
    decodeEntries {} entries = .ok v ↔ decodeEntries {} entries' = .ok v := by
  cases edit with
  | permute distinct moved => exact decodeEntries_perm distinct moved
  | add silent distinct => exact (decodeEntries_append_cons_of_silent silent distinct).symm
  | remove silent distinct => exact decodeEntries_append_cons_of_silent silent distinct

end Edit

/-! ### Objects inside objects -/

/-- There is an edit of one object that stands for a schema: of the object itself, or of a schema
that is the value of a keyword, or one of the branches, or the value of a property. -/
inductive Edited : List (String × Json) → List (String × Json) → Prop
  | here {entries entries' : List (String × Json)} (edit : Edit entries entries') :
      Edited entries entries'
  | single {keyword : Keyword} {inner inner' : List (String × Json)}
      (holds : keyword ∈ [Keyword.items, .additionalProperties])
      (before after : List (String × Json)) (inside : Edited inner inner') :
      Edited (before ++ (keyword.text, .object inner) :: after)
        (before ++ (keyword.text, .object inner') :: after)
  | branch {keyword : Keyword} {inner inner' : List (String × Json)}
      (joins : keyword ∈ [Keyword.oneOf, .anyOf, .allOf]) (before after : List (String × Json))
      (first rest : List Json) (inside : Edited inner inner') :
      Edited (before ++ (keyword.text, .array (first ++ .object inner :: rest)) :: after)
        (before ++ (keyword.text, .array (first ++ .object inner' :: rest)) :: after)
  | property {name : String} {inner inner' : List (String × Json)}
      (before after first rest : List (String × Json)) (inside : Edited inner inner') :
      Edited
        (before ++ (Keyword.properties.text, .object (first ++ (name, .object inner) :: rest)) ::
          after)
        (before ++ (Keyword.properties.text, .object (first ++ (name, .object inner') :: rest)) ::
          after)

namespace Edited

variable {entries entries' : List (String × Json)}

theorem symm (edited : Edited entries entries') : Edited entries' entries := by
  induction edited with
  | here edit => exact .here edit.symm
  | single holds before after _ ih => exact .single holds before after ih
  | branch joins before after first rest _ ih => exact .branch joins before after first rest ih
  | property before after first rest _ ih => exact .property before after first rest ih

/-- An edit does not change the schema of the object that it is somewhere in. -/
theorem decode_eq_ok (edited : Edited entries entries') :
    ∀ schema, decode (.object entries) = .ok schema → decode (.object entries') = .ok schema := by
  induction edited with
  | here edit =>
    intro schema decoded
    rw [decode] at decoded ⊢
    obtain ⟨w, read, rfl⟩ := map_eq_ok_iff.mp decoded
    exact map_eq_ok_iff.mpr ⟨w, edit.decodeEntries_eq_ok_iff.mp read, rfl⟩
  | single holds before after _ ih =>
    exact fun _ => decode_eq_ok_of_enter (fun _ _ => enter_single_eq_ok holds ih) before after
  | branch joins before after first rest _ ih =>
    refine fun _ => decode_eq_ok_of_enter (fun _ _ => enter_branches_eq_ok joins ?_) before after
    exact decodeAll_append_eq_ok first
      (fun _ _ => decodeAll_cons_eq_ok ih fun _ decoded => decoded) 0
  | property before after first rest _ ih =>
    refine fun _ => decode_eq_ok_of_enter (fun _ _ => enter_properties_eq_ok ?_) before after
    exact decodeProperties_append_eq_ok first
      fun _ => decodeProperties_cons_eq_ok ih fun _ decoded => decoded

end Edited

/-- The same schema is decoded after any number of edits, and if there was none, there is none. -/
theorem decode_eq_ok_iff_of_edited {entries entries' : List (String × Json)}
    (edited : Relation.ReflTransGen Edited entries entries') (schema : Schema) :
    decode (.object entries) = .ok schema ↔ decode (.object entries') = .ok schema := by
  induction edited with
  | refl => rfl
  | tail _ last ih => exact ih.trans ⟨last.decode_eq_ok schema, last.symm.decode_eq_ok schema⟩

/-- Three edits: a `null` is added to the items of a property, the keywords of the property are
swapped, and a key that names no keyword is added around it. -/
theorem decode_eq_ok_iff_of_edited_of_tags :
    let text : String × Json := ("type", .string "string")
    let array : String × Json := ("type", .string "array")
    let around (tags : List (String × Json)) : String × Json :=
      ("properties", .object [("tags", .object tags)])
    let entries := [around [array, ("items", .object [text])]]
    let entries' := [("title", .string "Pet"),
      around [("items", .object [("enum", .null), text]), array]]
    let schema : Schema := .object
      ⟨[("tags", .array (some (.primitive .string false)) false)], []⟩ none false
    Relation.ReflTransGen Edited entries entries' ∧ decode (.object entries) = .ok schema ∧
      decode (.object entries') = .ok schema := by
  intro text array around entries entries' schema
  have nullAdded : Edited entries [around [array, ("items", .object [("enum", .null), text])]] := by
    have silent : Silent ("enum", .null) := .inr ⟨.enum, by decide, rfl⟩
    have items : Edited [text] [("enum", .null), text] :=
      .here (@Edit.add [] [text] _ silent (by decide))
    exact .property [] [] [] [] (@Edited.single .items _ _ List.mem_cons_self [array] [] items)
  have swapped : Edited [around [array, ("items", .object [("enum", .null), text])]]
      [around [("items", .object [("enum", .null), text]), array]] :=
    .property [] [] [] [] (.here (.permute (by decide) (.swap _ _ _)))
  have titled : Edited [around [("items", .object [("enum", .null), text]), array]] entries' :=
    .here (@Edit.add [] _ _ (.inl rfl) (by decide))
  have edited : Relation.ReflTransGen Edited entries entries' :=
    .tail (.tail (.single nullAdded) swapped) titled
  have decoded : decode (.object entries) = .ok schema := rfl
  exact ⟨edited, decoded, (decode_eq_ok_iff_of_edited edited schema).mp decoded⟩

end ApiTypes.Schema
