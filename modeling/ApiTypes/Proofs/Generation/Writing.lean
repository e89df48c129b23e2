import ApiTypes.Generation.Writing
import ApiTypes.Proofs.FileTree

/-!
# Writing a module into a tree of files

A module is written with the directories that its file lies in. If that succeeds, the file holds
the text of the module, and to write the module once more changes nothing. Otherwise there may be
more directories than before, but no file has changed.

## Main definitions

* `FileTree.makeDirectory?` — the directory that a file lies in is made

## Main results

* `Generation.run_writeModule_eq_ok_iff` — when a module is written
* `Generation.written_of_run_writeModule` — what is there then
* `Generation.run_writeModule_again` — a module that has been written can be written again
* `Generation.extends_of_run_writeModule` — what is left after a failure
-/

namespace ApiTypes

open FileTree

variable {tree tree' made later : FileTree} {directory path : String} {declarations : List String}

/-- The tree with a directory, if its path is not empty. -/
def FileTree.makeDirectory? (tree : FileTree) (directory : String) : Option FileTree :=
  if directory = "" then some tree else tree.createDirectories? directory

theorem FileTree.extends_of_makeDirectory? (makes : tree.makeDirectory? directory = some made) :
    tree.Extends made := by
  unfold makeDirectory? at makes
  split at makes
  · obtain rfl := Option.some.inj makes
    exact .refl _
  · exact extends_of_createDirectories? makes

theorem FileTree.makeDirectory?_of_keepsDirectories
    (makes : tree.makeDirectory? directory = some made) (keeps : made.KeepsDirectories later) :
    later.makeDirectory? directory = some later := by
  unfold makeDirectory? at makes ⊢
  by_cases empty : directory = ""
  · rw [if_pos empty]
  · rw [if_neg empty] at makes ⊢
    exact createDirectories?_of_keepsDirectories makes keeps

namespace Generation

theorem run_makeDirectory (tree : FileTree) (directory : String) :
    tree.run (makeDirectory directory) =
      ((tree.makeDirectory? directory).isSome, (tree.makeDirectory? directory).getD tree) := by
  unfold makeDirectory makeDirectory?
  split
  · rfl
  · exact run_createDirectories tree directory

/-- Every way in which a module is written or not. -/
theorem run_writeModule (tree : FileTree) (path : String) (declarations : List String) :
    tree.run (writeModule path declarations) =
      match tree.makeDirectory? ((FilePath.parent? path).getD "") with
      | none => (.error (.directory ((FilePath.parent? path).getD "")), tree)
      | some made =>
        match made.write? path (moduleText declarations) with
        | none => (.error (.file path), made)
        | some tree' => (.ok (), tree') := by
  unfold writeModule
  rw [run_bind (run_makeDirectory tree _)]
  cases tree.makeDirectory? ((FilePath.parent? path).getD "") with
  | none => rfl
  | some made =>
    simp only [Option.isSome_some, Option.getD_some, if_true]
    rw [run_bind (run_write made path _)]
    cases made.write? path (moduleText declarations) <;> rfl

/-- A module is written if its directory can be made and its file can be written. -/
theorem run_writeModule_eq_ok_iff :
    tree.run (writeModule path declarations) = (.ok (), tree') ↔
      ∃ made, tree.makeDirectory? ((FilePath.parent? path).getD "") = some made ∧
        made.write? path (moduleText declarations) = some tree' := by
  rw [run_writeModule]
  cases tree.makeDirectory? ((FilePath.parent? path).getD "") with
  | none => simp
  | some made => cases wrote : made.write? path (moduleText declarations) <;> simp [wrote]

/-- A module that cannot be written changes no file. -/
theorem extends_of_run_writeModule {e : WriteError}
    (ran : tree.run (writeModule path declarations) = (.error e, tree')) :
    tree.Extends tree' := by
  rw [run_writeModule] at ran
  cases makes : tree.makeDirectory? ((FilePath.parent? path).getD "") with
  | none =>
    simp only [makes, Prod.mk.injEq] at ran
    obtain ⟨-, rfl⟩ := ran
    exact .refl _
  | some made =>
    simp only [makes] at ran
    split at ran
    · obtain ⟨-, rfl⟩ := Prod.mk.inj ran
      exact extends_of_makeDirectory? makes
    · simp at ran

/-- The file holds the text of the module, and all other files are as before. -/
theorem written_of_run_writeModule
    (ran : tree.run (writeModule path declarations) = (.ok (), tree')) :
    tree.Written tree' path (moduleText declarations) := by
  obtain ⟨made, makes, wrote⟩ := run_writeModule_eq_ok_iff.mp ran
  exact (written_of_write? wrote).of_extends (extends_of_makeDirectory? makes)

/-- To write a module once more changes nothing. -/
theorem run_writeModule_again
    (ran : tree.run (writeModule path declarations) = (.ok (), tree')) :
    tree'.run (writeModule path declarations) = (.ok (), tree') := by
  obtain ⟨made, makes, wrote⟩ := run_writeModule_eq_ok_iff.mp ran
  refine run_writeModule_eq_ok_iff.mpr ⟨tree', ?_, write?_of_write? wrote⟩
  exact makeDirectory?_of_keepsDirectories makes (written_of_write? wrote).keeps

end Generation

end ApiTypes
