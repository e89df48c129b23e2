import ApiTypes.Proofs.Generation.Names
import Mathlib.Data.Finset.Card

/-!
# The names under which a document is exported

Every selected schema is declared once, under its bare name put into the format. Selected names
are distinct, and a format with a place for the bare name keeps them apart.

## Main results

* `Document.nodup_exported` — when the exported names are distinct
* `Document.length_select` — there are as many selected schemas as names to select
* `Document.exported_names_distinct` — what a place for the bare name means for a document
-/

namespace ApiTypes

/-- A format that has a place for the bare name keeps the selected names apart, and so does any
format if there is only one name. -/
theorem Document.nodup_exported {document : Document} {settings : Settings}
    (apart : settings.nameFormat.HasPlace ∨ (document.select settings).entries.length ≤ 1) :
    ((Entries.keys (document.select settings).entries).map settings.nameFormat.apply).Nodup := by
  rcases apart with has | single
  · have distinct : (Entries.keys (document.select settings).entries).Nodup := by
      rw [Document.entries_select]
      exact Entries.nodup_keys_ofList _
    exact distinct.map (NameFormat.apply_injective has)
  · match entries : (document.select settings).entries with
    | [] => exact List.nodup_nil
    | [entry] => exact List.nodup_singleton _
    | _ :: _ :: _ => simp [entries] at single

/-- As many schemas are selected as there are different names. -/
theorem Document.length_select (document : Document) (settings : Settings) :
    (document.select settings).entries.length =
      ((document.declarable settings).map Prod.fst).toFinset.card := by
  -- the names that are selected are those to select, each once
  have distinct : ((document.declarable settings).map Prod.fst).eraseDups.Nodup := by
    rw [← Entries.keys_ofList]
    exact Entries.nodup_keys_ofList _
  have same : ((document.declarable settings).map Prod.fst).eraseDups.toFinset =
      ((document.declarable settings).map Prod.fst).toFinset := by
    ext name
    rw [List.mem_toFinset, List.mem_toFinset, List.mem_eraseDups]
  have length_keys : (Entries.keys (document.select settings).entries).length =
      (document.select settings).entries.length := List.length_map _
  rw [← length_keys, Document.entries_select, Entries.keys_ofList,
    ← List.toFinset_card_of_nodup distinct, same]

/-- A format exports different names under different names just if it has a place for the bare
name. If it has one, the declarations of a document export distinct names, and there are as many
of them as there are different names in the document. -/
theorem Document.exported_names_distinct (format : NameFormat) :
    (Function.Injective format.apply ↔ format.HasPlace) ∧
      ∀ (document : Document) (settings : Settings), settings.nameFormat = format →
        format.HasPlace →
          let generation := document.generate settings
          let exported := generation.declarations.map fun declaration =>
            format.apply declaration.1
          exported.Nodup ∧
            (∃ types : List TypeExpr, types.length = exported.length ∧
              generation.texts = List.zipWith exportedAlias exported types) ∧
            generation.texts.length =
              ((document.declarable settings).map Prod.fst).toFinset.card := by
  refine ⟨NameFormat.injective_apply_iff, ?_⟩
  rintro document settings rfl has generation exported
  have exported_eq : exported =
      (Entries.keys (document.select settings).entries).map settings.nameFormat.apply := by
    simp only [exported, generation, Document.generate, Entries.keys, List.map_map]
    rfl
  refine ⟨?_, ⟨(document.select settings).entries.map fun entry =>
    (entry.2.rootType (.root entry.1)).value, ?_, ?_⟩, ?_⟩
  · rw [exported_eq]
    exact Document.nodup_exported (.inl has)
  · simp [exported, generation, Document.generate]
  · rw [exported_eq, Entries.keys, List.map_map, List.zipWith_map, List.zipWith_self]
    simp only [generation, Generation.texts, Document.generate, List.map_map]
    rfl
  · rw [← Document.length_select]
    simp [generation, Generation.texts, Document.generate]

/-- A name that has the placeholder in it, under a format that has it twice, and a body under the
name of a schema. -/
theorem Document.exported_names_distinct_of_pets :
    let format : NameFormat := ⟨"I\x7bname\x7d\x7bname\x7d"⟩
    let settings : Settings := ⟨.all, true, format⟩
    let schema : Schema := .object ⟨[], []⟩ none false
    let document : Document := ⟨none,
      [("/\x7bpet\x7d", [(.get, ⟨none, [("200", ⟨some [("application/json", some schema)]⟩)]⟩)])],
      [("GetByPetOkResponse", schema), ("\x7bname\x7d", schema)]⟩
    let generation := document.generate settings
    let exported := generation.declarations.map fun declaration => format.apply declaration.1
    format.HasPlace ∧
      exported = ["IGetByPetOkResponse\x7bname\x7d", "I\x7bname\x7d\x7bname\x7d"] ∧
      exported.Nodup ∧
      (∃ types : List TypeExpr, types.length = exported.length ∧
        generation.texts = List.zipWith exportedAlias exported types) ∧
      generation.texts.length = ((document.declarable settings).map Prod.fst).toFinset.card ∧
      (document.declarable settings).length = 3 := by
  intro format settings schema document generation exported
  have place : format.HasPlace := ⟨"I".toList, "\x7bname\x7d".toList, by decide⟩
  have names : exported = ["IGetByPetOkResponse\x7bname\x7d", "I\x7bname\x7d\x7bname\x7d"] := by
    decide +kernel
  have declared : (document.declarable settings).length = 3 := by decide +kernel
  obtain ⟨apart, texts, card⟩ :=
    (Document.exported_names_distinct format).2 document settings rfl place
  exact ⟨place, names, apart, texts, card, declared⟩

end ApiTypes
