import ApiTypes.Settings
import ApiTypes.Proofs.Text.Glob.Alignment

/-!
# Lists of patterns and path filters

A text matches a list of patterns if it fits one of them, component by component. A filter keeps
the templates that fit a pattern it includes, if it names any, and none that it excludes.

## Main results

* `compilePatterns_forall₂` — each pattern of a list is compiled
* `PathFilter.any_isMatch_iff_fits` — when a text matches a list of patterns
* `PathFilter.retains_iff_fits` — which templates a filter keeps
-/

namespace ApiTypes

open Outcome

theorem compilePatterns_forall₂ {patterns : List String} {globs : List Glob}
    (compiled : compilePatterns patterns = .ok globs) :
    List.Forall₂ (fun pattern glob => Glob.compile pattern = .ok glob) patterns globs :=
  (forall₂_of_mapM_eq_ok compiled).imp fun _ _ each => mapError_eq_ok_iff.mp each

theorem exists_compile_of_mem {patterns : List String} {globs : List Glob}
    (compiled : compilePatterns patterns = .ok globs) :
    ∀ pattern ∈ patterns, ∃ glob, Glob.compile pattern = .ok glob := by
  have both : List.Forall₂ (fun pattern glob => (∃ glob, Glob.compile pattern = .ok glob) ∧
      Glob.compile pattern = .ok glob) patterns globs :=
    (compilePatterns_forall₂ compiled).imp fun _ glob each => ⟨⟨glob, each⟩, each⟩
  exact ((List.forall₂_and_left _ _).mp both).1

namespace PathFilter

variable {patterns : List String} {globs : List Glob}

theorem any_isMatch_iff (compiled : compilePatterns patterns = .ok globs) (text : String) :
    globs.any (·.isMatch text) = true ↔
      ∃ pattern ∈ patterns, Glob.Fits pattern.toList text.toList := by
  have each := compilePatterns_forall₂ compiled
  clear compiled
  induction each with
  | nil => simp
  | cons first _ ih =>
    rw [List.any_cons, Bool.or_eq_true, Glob.isMatch_iff_fits first, List.exists_mem_cons_iff]
    exact or_congr_right ih

/-- A text matches a list of patterns that compile just if it fits one of them. Each pattern is
read in one way, and a pattern without a double star fits only texts with its number of slashes
outside classes. -/
theorem any_isMatch_iff_fits (compiled : compilePatterns patterns = .ok globs) (text : String) :
    (∀ pattern ∈ patterns, ∃! components, Glob.Spells components pattern.toList) ∧
      (globs.any (·.isMatch text) = true ↔
        ∃ pattern ∈ patterns, Glob.Fits pattern.toList text.toList) ∧
      ∀ pattern ∈ patterns, ∀ components, Glob.Spells components pattern.toList →
        .recursive ∉ components → Glob.Fits pattern.toList text.toList →
          text.toList.count '/' + 1 = components.length := by
  refine ⟨?_, any_isMatch_iff compiled text, ?_⟩
  · intro pattern among
    obtain ⟨glob, compiled⟩ := exists_compile_of_mem compiled pattern among
    obtain ⟨components, spells, -⟩ := Glob.exists_spells_of_compile compiled
    exact ⟨components, spells, fun _ spells' => spells'.unique spells⟩
  · rintro pattern - components spells ordinary ⟨components', spells', aligns⟩
    obtain rfl := spells.unique spells'
    rw [aligns.length_eq ordinary, Text.length_splitOn]

/-- A class keeps its slash, a double star before a component skips others, and one at the end
takes what is left, with a slash behind it. -/
theorem any_isMatch_iff_fits_of_versions :
    let patterns := ["/v[!/a-c]/**/?*.js", "/raw/**/", "/x[/b]"]
    let globs : List Glob :=
      [⟨[.char '/', .char 'v', .except [.single '/', .range 'a' 'c'], .char '/', .anyComponents,
        .anyChar, .anyRun, .char '.', .char 'j', .char 's']⟩,
      ⟨[.char '/', .char 'r', .char 'a', .char 'w', .char '/', .anyComponents]⟩,
      ⟨[.char '/', .char 'x', .within [.single '/', .single 'b']]⟩]
    let components : List Glob.Component :=
      [.ordinary [], .ordinary [.char 'x', .within ['/', 'b']]]
    compilePatterns patterns = .ok globs ∧
      (∀ pattern ∈ patterns, ∃! components, Glob.Spells components pattern.toList) ∧
      (∃ pattern ∈ patterns, Glob.Fits pattern.toList "/vd/x/y/main.js".toList) ∧
      (∃ pattern ∈ patterns, Glob.Fits pattern.toList "/raw/".toList) ∧
      ¬ (∃ pattern ∈ patterns, Glob.Fits pattern.toList "/vb/main.js".toList) ∧
      ¬ (∃ pattern ∈ patterns, Glob.Fits pattern.toList "/raw".toList) ∧
      Glob.Spells components "/x[/b]".toList ∧ Glob.Fits "/x[/b]".toList "/xb".toList ∧
      "/xb".toList.count '/' + 1 = components.length := by
  intro patterns globs components
  have compiled : compilePatterns patterns = .ok globs := by cbv
  have spells : Glob.Spells components "/x[/b]".toList := by
    refine ⟨List.cons_ne_nil _ _, ?_, by decide⟩
    simp [components, Glob.Component.IsWellFormed, Glob.Item.IsWellFormed, Glob.FitsClass]
  have fits : Glob.Fits "/x[/b]".toList "/xb".toList := by
    refine ⟨components, spells, .ordinary .nil (.ordinary (.one rfl (.one ?_ .nil)) .nil)⟩
    exact .inr (.inl rfl)
  refine ⟨compiled, (any_isMatch_iff_fits compiled "").1, ?_, ?_, ?_, ?_, spells, fits, ?_⟩
  · exact (any_isMatch_iff_fits compiled _).2.1.mp (by decide)
  · exact (any_isMatch_iff_fits compiled _).2.1.mp (by decide)
  · exact fun fits => absurd ((any_isMatch_iff_fits compiled _).2.1.mpr fits) (by decide)
  · exact fun fits => absurd ((any_isMatch_iff_fits compiled _).2.1.mpr fits) (by decide)
  · exact (any_isMatch_iff_fits compiled "/xb").2.2 _ (by simp [patterns]) components spells
      (by decide) fits

/-- A filter keeps the templates that fit a pattern of the first list, or any if it is empty, and
none of the second. -/
theorem retains_iff_fits {included excluded : List String} {filter : PathFilter}
    (compiled : PathFilter.compile included excluded = .ok filter) (template : String) :
    filter.retains template = true ↔
      (included = [] ∨ ∃ pattern ∈ included, Glob.Fits pattern.toList template.toList) ∧
        ∀ pattern ∈ excluded, ¬ Glob.Fits pattern.toList template.toList := by
  obtain ⟨wanted, compiledWanted, compiled⟩ := bind_eq_ok_iff.mp compiled
  obtain ⟨unwanted, compiledUnwanted, compiled⟩ := bind_eq_ok_iff.mp compiled
  obtain rfl := Except.ok.inj compiled
  have empty : wanted = [] ↔ included = [] := by
    rw [← List.length_eq_zero_iff, ← List.length_eq_zero_iff,
      (compilePatterns_forall₂ compiledWanted).length_eq]
  rw [retains, Bool.and_eq_true, Bool.or_eq_true, List.isEmpty_iff, empty,
    any_isMatch_iff compiledWanted, Bool.not_eq_true', ← Bool.not_eq_true,
    any_isMatch_iff compiledUnwanted]
  simp

end PathFilter

end ApiTypes
