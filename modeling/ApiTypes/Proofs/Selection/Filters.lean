import ApiTypes.Proofs.Selection.Bodies
import Mathlib.Data.List.Perm.Subperm

/-!
# Path filters and the names that are selected

A filter takes paths away and nothing else, so the names that are selected grow with the paths that
it retains. The schemas under the names need not stay: a path that is dropped may have held the
last schema of a name, and then an earlier one counts. That takes two schemas with one name.

## Main definitions

* `PathFilter.Refines` — one filter retains no path that another one drops
* `Settings.filteredBy` — settings with other patterns for paths

## Main results

* `PathFilter.retains_iff` — which paths a filter retains
* `Document.declarable_subset_of_refines` — a finer filter leaves less to declare
* `Document.select_monotone` — how the selection depends on the filter
-/

namespace ApiTypes

namespace PathFilter

/-- Every path that the filter retains is retained by the other one too. -/
def Refines (filter other : PathFilter) : Prop :=
  ∀ template, filter.retains template → other.retains template

theorem retains_iff {filter : PathFilter} {template : String} :
    filter.retains template ↔
      (filter.included = [] ∨ ∃ glob ∈ filter.included, glob.isMatch template) ∧
        ∀ glob ∈ filter.excluded, ¬ glob.isMatch template := by
  simp [retains]

variable {isEnabled : Bool} {included included' excluded excluded' : List Glob}

/-- More patterns that exclude make a filter finer. -/
theorem refines_of_excluded_subset (more : excluded ⊆ excluded') :
    Refines ⟨isEnabled, included, excluded'⟩ ⟨isEnabled, included, excluded⟩ := by
  intro template retained
  obtain ⟨wanted, notExcluded⟩ := retains_iff.mp retained
  exact retains_iff.mpr ⟨wanted, fun glob among => notExcluded glob (more among)⟩

/-- More patterns that include make a filter coarser. The first pattern of all would make it finer:
without any, every path is wanted. -/
theorem refines_of_included_subset (nonempty : included ≠ []) (more : included ⊆ included') :
    Refines ⟨isEnabled, included, excluded⟩ ⟨isEnabled, included', excluded⟩ := by
  intro template retained
  obtain ⟨wanted, notExcluded⟩ := retains_iff.mp retained
  obtain ⟨glob, among, isMatch⟩ := wanted.resolve_left nonempty
  exact retains_iff.mpr ⟨.inr ⟨glob, more among, isMatch⟩, notExcluded⟩

theorem refines_of_empty (filter : PathFilter) : filter.Refines ⟨isEnabled, [], []⟩ :=
  fun template _ => retains_of_empty rfl rfl template

end PathFilter

/-- The settings with other patterns for the paths that are wanted, and for those that are not. -/
def Settings.filteredBy (settings : Settings) (included excluded : List Glob) : Settings :=
  { settings with paths := ⟨settings.paths.isEnabled, included, excluded⟩ }

namespace Document

variable {document : Document} {settings : Settings}
  {included included' excluded excluded' : List Glob} {name : String} {schema schema' : Schema}

/-- What is declared under a filter is declared under a coarser one. -/
theorem declarable_subset_of_refines
    (refines : (settings.filteredBy included excluded).paths.Refines
      (settings.filteredBy included' excluded').paths) :
    document.declarable (settings.filteredBy included excluded) ⊆
      document.declarable (settings.filteredBy included' excluded') := by
  rintro ⟨name, schema⟩ declared
  rw [mem_declarable] at declared ⊢
  refine declared.imp_right ?_
  rintro ⟨template, method, suffix, ⟨enabled, retained, body⟩, named⟩
  exact ⟨template, method, suffix, ⟨enabled, refines template retained, body⟩, named⟩

/-- The names that are selected under a filter are selected under a coarser one. -/
theorem keys_select_subset_of_refines
    (refines : (settings.filteredBy included excluded).paths.Refines
      (settings.filteredBy included' excluded').paths) :
    Entries.keys (document.select (settings.filteredBy included excluded)).entries ⊆
      Entries.keys (document.select (settings.filteredBy included' excluded')).entries := by
  intro name selected
  obtain ⟨schema, declared⟩ := mem_keys_select.mp selected
  exact mem_keys_select.mpr ⟨schema, declarable_subset_of_refines refines declared⟩

/-- A schema that is selected is declared under its name. -/
theorem mem_declarable_of_mem_select
    (selected : (name, schema) ∈ (document.select settings).entries) :
    (name, schema) ∈ document.declarable settings := by
  rw [entries_select] at selected
  have last := Entries.find?_of_mem (Entries.nodup_keys_ofList _) selected
  rw [Entries.find?_ofList] at last
  obtain ⟨before, after, split, -⟩ := List.lookup_eq_some_iff.mp last
  rw [← List.mem_reverse, split]
  simp

/-- Two different schemas under one name are declared one by one. -/
theorem two_le_countP_of_mem_declarable (first : (name, schema) ∈ document.declarable settings)
    (second : (name, schema') ∈ document.declarable settings) (different : schema ≠ schema') :
    2 ≤ (document.declarable settings).countP (·.1 = name) := by
  have distinct : [(name, schema), (name, schema')].Nodup := by simp [different]
  have among : [(name, schema), (name, schema')] ⊆ document.declarable settings := by
    simp [first, second]
  calc 2 = [(name, schema), (name, schema')].countP (·.1 = name) := by simp
    _ ≤ _ := (distinct.subperm among).countP_le _

/-- Let two settings differ in the patterns for paths only. More patterns that exclude never add a
name to the selection, and more patterns that include, where there are some already, never remove
one; every name that is selected under any patterns is selected without them. A name that is
selected under both settings, but with different schemas, is carried by at least two candidates
when there are no patterns. -/
theorem select_monotone (document : Document) (settings : Settings) :
    let selected := fun included excluded =>
      (document.select (settings.filteredBy included excluded)).entries
    let candidates :=
      (document.candidates (settings.filteredBy [] [])).filterMap Candidate.named?
    (∀ included excluded excluded', excluded ⊆ excluded' →
      Entries.keys (selected included excluded') ⊆ Entries.keys (selected included excluded)) ∧
    (∀ included included' excluded, included ≠ [] → included ⊆ included' →
      Entries.keys (selected included excluded) ⊆ Entries.keys (selected included' excluded)) ∧
    (∀ included excluded,
      Entries.keys (selected included excluded) ⊆ Entries.keys (selected [] [])) ∧
    ∀ included excluded included' excluded' name schema schema',
      (name, schema) ∈ selected included excluded →
      (name, schema') ∈ selected included' excluded' → schema ≠ schema' →
        2 ≤ candidates.countP (·.1 = name) := by
  intro selected candidates
  refine ⟨fun included excluded excluded' more => ?_,
    fun included included' excluded nonempty more => ?_, fun included excluded => ?_, ?_⟩
  · exact keys_select_subset_of_refines (PathFilter.refines_of_excluded_subset more)
  · exact keys_select_subset_of_refines (PathFilter.refines_of_included_subset nonempty more)
  · exact keys_select_subset_of_refines (PathFilter.refines_of_empty _)
  · intro included excluded included' excluded' name schema schema' first second different
    have unfiltered (included excluded : List Glob) :
        document.declarable (settings.filteredBy included excluded) ⊆
          document.declarable (settings.filteredBy [] []) :=
      declarable_subset_of_refines (PathFilter.refines_of_empty _)
    have candidates_eq : candidates = document.declarable (settings.filteredBy [] []) :=
      document.filterMap_candidates _
    rw [candidates_eq]
    exact two_le_countP_of_mem_declarable
      (unfiltered included excluded (mem_declarable_of_mem_select first))
      (unfiltered included' excluded' (mem_declarable_of_mem_select second)) different

/-- The body behind a path has the name of a schema. With the path the name stands for the body,
without it for that schema. -/
theorem select_monotone_of_pets :
    let name := declarationName "/pets" .get (.response "200")
    let content : Content := [("application/json", some (.primitive .string false))]
    let op : Operation := ⟨none, [("200", ⟨some content⟩)]⟩
    let document : Document :=
      ⟨none, [("/pets", [(.get, op)])], [(name, .primitive .boolean false)]⟩
    let settings : Settings := ⟨.all, true, .bare⟩
    let pets : Glob := ⟨"/pets".toList.map .char⟩
    let selected := fun included excluded =>
      (document.select (settings.filteredBy included excluded)).entries
    let candidates :=
      (document.candidates (settings.filteredBy [] [])).filterMap Candidate.named?
    ([] ⊆ [pets] ∧ [pets] ≠ [] ∧ [pets] ⊆ [pets, ⟨[.anyRun]⟩] ∧
      (name, .primitive .boolean false) ∈ selected [] [pets] ∧
      (name, .primitive .string false) ∈ selected [] [] ∧
      Schema.primitive .boolean false ≠ .primitive .string false) ∧
    Entries.keys (selected [] [pets]) ⊆ Entries.keys (selected [] []) ∧
    Entries.keys (selected [pets] []) ⊆ Entries.keys (selected [pets, ⟨[.anyRun]⟩] []) ∧
    Entries.keys (selected [pets] [pets]) ⊆ Entries.keys (selected [] []) ∧
    2 ≤ candidates.countP (·.1 = name) := by
  intro name content op document settings pets selected candidates
  obtain ⟨excluding, including, all, different⟩ := select_monotone document settings
  have more : [pets] ⊆ [pets, ⟨[.anyRun]⟩] := by simp
  have without : (name, .primitive .boolean false) ∈ selected [] [pets] := by
    have isMatch : pets.isMatch "/pets" = true := by decide
    have dropped : document.declarable (settings.filteredBy [] [pets]) =
        [(name, .primitive .boolean false)] := by
      simp [declarable, document, settings, Settings.filteredBy, PathFilter.retains, isMatch]
    simp only [selected, entries_select, dropped]
    simp [Entries.ofList, Entries.insert]
  have within : (name, .primitive .string false) ∈ selected [] [] := by
    have kept : document.declarable (settings.filteredBy [] []) =
      [(name, .primitive .boolean false), (name, .primitive .string false)] := rfl
    simp only [selected, entries_select, kept]
    simp [Entries.ofList, Entries.insert]
  have unlike : Schema.primitive .boolean false ≠ .primitive .string false := by simp
  exact ⟨⟨by simp, by simp, more, without, within, unlike⟩, excluding [] [] [pets] (by simp),
    including [pets] _ [] (by simp) more, all [pets] [pets],
    different _ _ _ _ _ _ _ without within unlike⟩

end Document

end ApiTypes
