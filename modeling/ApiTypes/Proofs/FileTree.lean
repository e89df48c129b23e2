import ApiTypes.FileTree
import Mathlib.Data.List.Basic

/-!
# Changes to a tree of files

A path leads to its place through directories. It goes on leading there as long as no directory is
lost, and none ever is: directories are made where nothing was, and a file is written where no
directory is. All other places keep what they have.

## Main definitions

* `FileTree.file?` — the bytes of the file at a place
* `FileTree.KeepsDirectories` — no directory is lost
* `FileTree.Extends` — directories are made, and nothing else changes
* `FileTree.Written` — a text is written to a path, and no other file changes
* `FileTree.run` — what an action gives and leaves

## Main results

* `FileTree.KeepsDirectories.locate?_eq_some` — paths lead where they led
* `FileTree.extends_of_createDirectories?`, `FileTree.written_of_write?` — what the two changes do
* `FileTree.createDirectories?_of_keepsDirectories`, `FileTree.write?_of_write?` — to make the
  same change once more changes nothing
* `FileTree.Written.read?_eq_some` — what is read elsewhere can still be read
-/

namespace ApiTypes.FileTree

variable {tree tree' later : FileTree} {location place : Location} {node : Node}
  {path other text : String} {bytes : List UInt8} {components : List (List Char)}

/-- The bytes of the file at a place, if there is one. -/
def file? (tree : FileTree) (location : Location) : Option (List UInt8) :=
  match tree.node? location with
  | some (.file bytes) => some bytes
  | _ => none

theorem file?_eq_of_node?_eq (same : tree'.node? location = tree.node? location) :
    tree'.file? location = tree.file? location := by
  rw [file?, same, file?]

theorem read?_eq_bind (tree : FileTree) (path : String) :
    tree.read? path = (tree.locate? path).bind tree.file? := by
  rw [read?]
  cases tree.locate? path <;> rfl

/-! ### Putting a node at a place -/

theorem node?_put_self (proper : place ≠ []) : (tree.put place node).node? place = some node := by
  simp [node?, put, proper]

theorem lookup_filter_of_ne {nodes : List (Location × Node)} (ne : location ≠ place) :
    (nodes.filter (·.1 != place)).lookup location = nodes.lookup location := by
  induction nodes with
  | nil => rfl
  | cons entry rest ih =>
    obtain ⟨name, first⟩ := entry
    by_cases removed : name = place
    · subst removed
      simp [List.lookup_cons, beq_false_of_ne ne, ih]
    · simp [removed, List.lookup_cons, ih]

theorem node?_put_of_ne (ne : location ≠ place) :
    (tree.put place node).node? location = tree.node? location := by
  by_cases root : location = []
  · simp [node?, root]
  · simp only [node?, put, root, if_false, List.lookup_cons, beq_false_of_ne ne]
    exact lookup_filter_of_ne ne

theorem put_put : (tree.put place node).put place node = tree.put place node := by
  simp [put]

theorem ne_nil_of_node?_ne (proper : tree.node? place ≠ some .directory) : place ≠ [] := by
  rintro rfl
  exact proper rfl

theorem ne_nil_of_node?_eq_none (free : tree.node? place = none) : place ≠ [] := by
  rintro rfl
  cases free

/-! ### Where paths lead -/

/-- Paths are taken from the same directory, and no directory is lost. -/
structure KeepsDirectories (tree tree' : FileTree) : Prop where
  here : tree'.here = tree.here
  directory : ∀ location, tree.node? location = some .directory →
    tree'.node? location = some .directory

namespace KeepsDirectories

theorem refl (tree : FileTree) : tree.KeepsDirectories tree :=
  ⟨rfl, fun _ is => is⟩

theorem trans (first : tree.KeepsDirectories tree') (second : tree'.KeepsDirectories later) :
    tree.KeepsDirectories later :=
  ⟨second.here.trans first.here, fun location is =>
    second.directory location (first.directory location is)⟩

theorem walk_eq_some (keeps : tree.KeepsDirectories tree')
    (leads : walk tree location components = some place) :
    walk tree' location components = some place := by
  fun_induction walk tree location components with
  | case1 => exact leads
  | case2 _ _ named =>
    rw [walk, if_pos named]
    exact leads
  | case3 => cases leads
  | case4 location component rest more next is ih =>
    rw [walk, if_pos (keeps.directory _ is)]
    · exact ih leads
    · exact more
  | case5 => cases leads

/-- A path leads where it led. -/
theorem locate?_eq_some (keeps : tree.KeepsDirectories tree')
    (leads : tree.locate? path = some place) : tree'.locate? path = some place := by
  unfold locate? start at leads ⊢
  rw [keeps.here]
  by_cases empty : path = ""
  · simp [empty] at leads
  · rw [if_neg empty] at leads ⊢
    exact keeps.walk_eq_some leads

end KeepsDirectories

/-! ### Making directories -/

/-- There may be directories where nothing was; all else is as before. -/
structure Extends (tree tree' : FileTree) : Prop where
  here : tree'.here = tree.here
  node? : ∀ location, tree'.node? location = tree.node? location ∨
    tree.node? location = none ∧ tree'.node? location = some .directory

namespace Extends

theorem refl (tree : FileTree) : tree.Extends tree :=
  ⟨rfl, fun _ => .inl rfl⟩

theorem trans (first : tree.Extends tree') (second : tree'.Extends later) :
    tree.Extends later := by
  refine ⟨second.here.trans first.here, fun location => ?_⟩
  rcases first.node? location with same | ⟨free, made⟩
  · rw [← same]
    exact second.node? location
  · rcases second.node? location with same' | ⟨free', _⟩
    · exact .inr ⟨free, same'.trans made⟩
    · simp [made] at free'

theorem keepsDirectories (extended : tree.Extends tree') : tree.KeepsDirectories tree' := by
  refine ⟨extended.here, fun location is => ?_⟩
  rcases extended.node? location with same | ⟨-, made⟩
  · exact same.trans is
  · exact made

theorem file?_eq (extended : tree.Extends tree') (location : Location) :
    tree'.file? location = tree.file? location := by
  rcases extended.node? location with same | ⟨free, made⟩
  · exact file?_eq_of_node?_eq same
  · rw [file?, file?, free, made]

theorem put_directory (free : tree.node? place = none) :
    tree.Extends (tree.put place .directory) := by
  refine ⟨rfl, fun location => ?_⟩
  by_cases same : location = place
  · subst same
    exact .inr ⟨free, node?_put_self (ne_nil_of_node?_eq_none free)⟩
  · exact .inl (node?_put_of_ne same)

end Extends

theorem extends_of_makeWay (made : tree.makeWay location components = some tree') :
    tree.Extends tree' := by
  fun_induction makeWay tree location components with
  | case1 =>
    obtain rfl := Option.some.inj made
    exact .refl _
  | case2 _ _ _ _ _ _ ih => exact ih made
  | case3 => cases made
  | case4 _ _ _ _ _ free _ ih => exact (Extends.put_directory free).trans (ih made)
  | case5 => cases made

/-- Where all directories on the way are there already, none is made. -/
theorem makeWay_of_keepsDirectories (made : tree.makeWay location components = some tree')
    (keeps : tree'.KeepsDirectories later) : later.makeWay location components = some later := by
  fun_induction makeWay tree location components with
  | case1 => rfl
  | case2 tree location component rest next is ih =>
    have stays := (extends_of_makeWay made).keepsDirectories.directory next is
    rw [makeWay, keeps.directory next stays]
    exact ih made
  | case3 => cases made
  | case4 tree location component rest next free _ ih =>
    have put : (tree.put next .directory).node? next = some .directory :=
      node?_put_self (ne_nil_of_node?_eq_none free)
    have stays := (extends_of_makeWay made).keepsDirectories.directory next put
    rw [makeWay, keeps.directory next stays]
    exact ih made
  | case5 => cases made

theorem extends_of_createDirectories? (made : tree.createDirectories? path = some tree') :
    tree.Extends tree' :=
  extends_of_makeWay made

theorem createDirectories?_of_keepsDirectories (made : tree.createDirectories? path = some tree')
    (keeps : tree'.KeepsDirectories later) : later.createDirectories? path = some later := by
  have here := keeps.here.trans (extends_of_createDirectories? made).here
  rw [createDirectories?, start, here]
  exact makeWay_of_keepsDirectories made keeps

/-! ### Writing a file -/

theorem write?_eq_some_iff : tree.write? path text = some tree' ↔
    ∃ location, tree.locate? path = some location ∧ tree.node? location ≠ some .directory ∧
      tree' = tree.put location (.file (Utf8.encode text.toList)) := by
  rw [write?]
  cases leads : tree.locate? path with
  | none => simp
  | some location =>
    cases is : tree.node? location with
    | none => simp [is, eq_comm]
    | some node => cases node <;> simp [is, eq_comm]

/-- The text stands in the file that the path leads to, and every other file is as before. -/
structure Written (tree tree' : FileTree) (path text : String) : Prop where
  keeps : tree.KeepsDirectories tree'
  read : tree'.read? path = some (Utf8.encode text.toList)
  others : ∀ location, tree'.locate? path ≠ some location →
    tree'.file? location = tree.file? location

theorem keepsDirectories_put_file (bytes : List UInt8)
    (proper : tree.node? place ≠ some .directory) :
    tree.KeepsDirectories (tree.put place (.file bytes)) := by
  refine ⟨rfl, fun location is => ?_⟩
  have ne : location ≠ place := by
    rintro rfl
    exact proper is
  rwa [node?_put_of_ne ne]

theorem written_of_write? (wrote : tree.write? path text = some tree') :
    tree.Written tree' path text := by
  obtain ⟨place, leads, proper, rfl⟩ := write?_eq_some_iff.mp wrote
  have keeps := keepsDirectories_put_file (Utf8.encode text.toList) proper
  have leads' := keeps.locate?_eq_some leads
  refine ⟨keeps, ?_, fun location ne => ?_⟩
  · rw [read?_eq_bind, leads', Option.bind_some, file?, node?_put_self (ne_nil_of_node?_ne proper)]
  · rw [leads', ne_eq, Option.some.injEq, eq_comm] at ne
    exact file?_eq_of_node?_eq (node?_put_of_ne ne)

theorem write?_of_write? (wrote : tree.write? path text = some tree') :
    tree'.write? path text = some tree' := by
  obtain ⟨place, leads, proper, rfl⟩ := write?_eq_some_iff.mp wrote
  have keeps := keepsDirectories_put_file (Utf8.encode text.toList) proper
  refine write?_eq_some_iff.mpr ⟨place, keeps.locate?_eq_some leads, ?_, put_put.symm⟩
  simp [node?_put_self (ne_nil_of_node?_ne proper)]

namespace Written

theorem of_extends (extended : tree.Extends tree') (written : tree'.Written later path text) :
    tree.Written later path text :=
  ⟨extended.keepsDirectories.trans written.keeps, written.read, fun location ne =>
    (written.others location ne).trans (extended.file?_eq location)⟩

/-- What was read from another place is still read from there. -/
theorem read?_eq_some (written : tree.Written tree' path text)
    (elsewhere : tree'.locate? other ≠ tree'.locate? path) (read : tree.read? other = some bytes) :
    tree'.read? other = some bytes := by
  rw [read?_eq_bind] at read
  obtain ⟨location, leads, stands⟩ := Option.bind_eq_some_iff.mp read
  have leads' := written.keeps.locate?_eq_some leads
  rw [leads', ne_comm] at elsewhere
  rw [read?_eq_bind, leads', Option.bind_some, written.others location elsewhere, stands]

end Written

/-! ### Actions on a tree -/

section Actions

variable {α β : Type}

/-- What an action gives, and the tree that it leaves. -/
def run (tree : FileTree) (action : StateM FileTree α) : α × FileTree :=
  Id.run (StateT.run action tree)

@[simp] theorem run_pure (a : α) : tree.run (pure a) = (a, tree) := rfl

/-- An action, and what follows it. -/
theorem run_bind {action : StateM FileTree α} {next : α → StateM FileTree β} {a : α}
    (ran : tree.run action = (a, tree')) : tree.run (action >>= next) = tree'.run (next a) := by
  change (tree.run action).2.run (next (tree.run action).1) = _
  rw [ran]

theorem run_read (tree : FileTree) (path : String) :
    tree.run (FileAccess.read path) = (tree.read? path, tree) :=
  rfl

theorem run_update (change : FileTree → Option FileTree) :
    tree.run (update change) = ((change tree).isSome, (change tree).getD tree) := by
  have ran : tree.run get = (tree, tree) := rfl
  rw [update, run_bind ran]
  cases change tree <;> rfl

theorem run_createDirectories (tree : FileTree) (path : String) :
    tree.run (FileAccess.createDirectories path) =
      ((tree.createDirectories? path).isSome, (tree.createDirectories? path).getD tree) :=
  run_update _

theorem run_write (tree : FileTree) (path text : String) :
    tree.run (FileAccess.write path text) =
      ((tree.write? path text).isSome, (tree.write? path text).getD tree) :=
  run_update _

end Actions

end ApiTypes.FileTree
