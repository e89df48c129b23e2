import ApiTypes.Proofs.Schema.Decoding
import ApiTypes.Rendering
import Mathlib.Data.List.ReduceOption

/-!
# Rendering a schema from its parts

What rendering gives for a schema, and what it reports, put together from what it gives and
reports for the schemas right inside it.

## Main definitions

* `Schema.parts` — the schemas right inside a schema that are rendered with it, each with the
  step that leads to it
* `Schema.defect?` — what is reported of the schema itself
* `Schema.RendersParts` — everything right inside a schema is rendered

## Main results

* `Schema.parts_induction` — induction over the schemas that are rendered
* `Schema.diagnostics_render` — the diagnostics of a schema are its own and those of its parts
* `Schema.value_renderBranches`, `Schema.value_renderEntries` — the branches and properties that
  are rendered
* `Schema.value_render_combination`, `Schema.value_render_object`, `Schema.value_render_array` —
  the type of a schema of whose parts none is left out
-/

namespace ApiTypes

namespace Reported

variable {α β : Type}

@[simp] theorem value_pure (a : α) : (pure a : Reported α).value = a := rfl

@[simp] theorem diagnostics_pure (a : α) : (pure a : Reported α).diagnostics = [] := rfl

@[simp] theorem value_bind (x : Reported α) (f : α → Reported β) :
    (x >>= f).value = (f x.value).value := rfl

@[simp] theorem diagnostics_bind (x : Reported α) (f : α → Reported β) :
    (x >>= f).diagnostics = x.diagnostics ++ (f x.value).diagnostics := rfl

@[simp] theorem value_skip (path : SchemaPath) (message : String) :
    (skip path message : Reported (Option α)).value = none := rfl

@[simp] theorem diagnostics_skip (path : SchemaPath) (message : String) :
    (skip path message : Reported (Option α)).diagnostics = [⟨path.text, message⟩] := rfl

end Reported

namespace Schema

/-- The schemas right inside a schema that are rendered with it, in their order. -/
def parts : Schema → List (SchemaPath.Step × Schema)
  | combination op branches _ =>
    branches.zipIdx.map fun (branch, index) => (.branch op index, branch)
  | object properties additional _ =>
    properties.entries.map (fun (name, schema) => (.property name, schema)) ++
      additional.toList.map (.additionalProperties, ·)
  | array items _ => items.toList.map (.items, ·)
  | _ => []

/-- What is reported of the schema itself: that it is not understood, or lacks its items. -/
def defect? : Schema → Option String
  | unsupported type => some (unsupportedMessage type)
  | array none _ => some noItemsMessage
  | _ => none

/-- Induction over the schemas that are rendered. -/
@[elab_as_elim]
theorem parts_induction {P : Schema → Prop}
    (whole : ∀ schema : Schema, (∀ part ∈ schema.parts, P part.2) → P schema) (schema : Schema) :
    P schema := by
  refine induction ?_ ?_ ?_ ?_ ?_ ?_ schema
  · intro op branches beside each _
    refine whole _ fun part member => ?_
    obtain ⟨⟨branch, index⟩, among, rfl⟩ := List.mem_map.mp member
    exact each branch (List.fst_mem_of_mem_zipIdx among)
  · exact fun _ _ _ => whole _ (by simp [parts])
  · exact fun _ _ => whole _ (by simp [parts])
  · intro properties additional isNullable each eachAdditional
    refine whole _ fun part member => ?_
    rcases List.mem_append.mp member with inside | inside
    · obtain ⟨entry, among, rfl⟩ := List.mem_map.mp inside
      exact each entry among
    · obtain ⟨schema, among, rfl⟩ := List.mem_map.mp inside
      exact eachAdditional schema (Option.mem_toList.mp among)
  · intro items isNullable each
    refine whole _ fun part member => ?_
    obtain ⟨schema, among, rfl⟩ := List.mem_map.mp member
    exact each schema (Option.mem_toList.mp among)
  · exact fun _ => whole _ (by simp [parts])

/-- Of a list in which nothing is missing, nothing is left out. -/
theorem map_some_reduceOption {α : Type} {list : List (Option α)} (full : none ∉ list) :
    list.reduceOption.map some = list := by
  induction list with
  | nil => rfl
  | cons entry rest ih =>
    cases entry with
    | none => exact absurd List.mem_cons_self full
    | some a =>
      rw [List.reduceOption_cons_of_some, List.map_cons,
        ih fun missing => full (List.mem_cons_of_mem _ missing)]

/-- If everything in a list has a result, the results are those of what is in the list. -/
theorem exists_of_map_some_eq {α β : Type} {results : List β} {list : List α} {f : α → Option β}
    (all : results.map some = list.map f) :
    (∀ a ∈ list, ∃ b ∈ results, f a = some b) ∧ ∀ b ∈ results, ∃ a ∈ list, f a = some b := by
  constructor
  · intro a among
    have found : f a ∈ results.map some := all ▸ List.mem_map_of_mem among
    obtain ⟨b, inside, same⟩ := List.mem_map.mp found
    exact ⟨b, inside, same.symm⟩
  · intro b among
    have found : some b ∈ list.map f := all ▸ List.mem_map_of_mem among
    exact List.mem_map.mp found

variable (path : SchemaPath)

theorem value_renderBranches (op : Combinator) (index : Nat) (branches : List Schema) :
    (renderBranches path op index branches).value =
      ((branches.zipIdx index).map fun (branch, i) =>
        (branch.render (path.child (.branch op i))).value).reduceOption := by
  induction branches generalizing index with
  | nil => rfl
  | cons branch rest ih =>
    rw [renderBranches, List.zipIdx_cons, List.map_cons]
    -- the branch that follows is counted from its own index on
    simp only [Reported.value_bind, Reported.value_pure, ih]
    cases (branch.render (path.child (.branch op index))).value <;> rfl

theorem mem_value_renderBranches {op : Combinator} {index : Nat} {branches : List Schema}
    {type : TypeExpr} (member : type ∈ (renderBranches path op index branches).value) :
    ∃ branch ∈ branches, ∃ i, (branch.render (path.child (.branch op i))).value = some type := by
  rw [value_renderBranches, List.reduceOption_mem_iff] at member
  obtain ⟨⟨branch, i⟩, among, rendered⟩ := List.mem_map.mp member
  exact ⟨branch, List.fst_mem_of_mem_zipIdx among, i, rendered⟩

theorem diagnostics_renderBranches (op : Combinator) (index : Nat) (branches : List Schema) :
    (renderBranches path op index branches).diagnostics =
      (branches.zipIdx index).flatMap fun (branch, i) =>
        (branch.render (path.child (.branch op i))).diagnostics := by
  induction branches generalizing index with
  | nil => rfl
  | cons branch rest ih =>
    rw [renderBranches]
    simp [ih]

theorem value_renderEntries (required : List String) (entries : List (String × Schema)) :
    (renderEntries path required entries).value =
      (entries.map fun (name, schema) =>
        (schema.render (path.child (.property name))).value.map
          (Member.named name (!required.contains name))).reduceOption := by
  induction entries with
  | nil => rfl
  | cons entry rest ih =>
    obtain ⟨name, schema⟩ := entry
    rw [renderEntries, List.map_cons]
    simp only [Reported.value_bind, Reported.value_pure, ih]
    cases (schema.render (path.child (.property name))).value <;> rfl

theorem mem_value_renderEntries {required : List String} {entries : List (String × Schema)}
    {member : Member TypeExpr} (rendered : member ∈ (renderEntries path required entries).value) :
    ∃ entry ∈ entries, ∃ type,
      (entry.2.render (path.child (.property entry.1))).value = some type ∧
        member = .named entry.1 (!required.contains entry.1) type := by
  rw [value_renderEntries, List.reduceOption_mem_iff] at rendered
  obtain ⟨entry, among, named⟩ := List.mem_map.mp rendered
  obtain ⟨type, renderedEntry, same⟩ := Option.map_eq_some_iff.mp named
  exact ⟨entry, among, type, renderedEntry, same.symm⟩

theorem diagnostics_renderEntries (required : List String) (entries : List (String × Schema)) :
    (renderEntries path required entries).diagnostics =
      entries.flatMap fun (name, schema) =>
        (schema.render (path.child (.property name))).diagnostics := by
  induction entries with
  | nil => rfl
  | cons entry rest ih =>
    rw [renderEntries]
    simp [ih]

/-- The diagnostics of a schema are its own, if it is defective, and then those of its parts. -/
theorem diagnostics_render (schema : Schema) :
    (schema.render path).diagnostics =
      (schema.defect?.map (Diagnostic.mk path.text)).toList ++
        schema.parts.flatMap fun (step, part) => (part.render (path.child step)).diagnostics := by
  cases schema with
  | combination op branches beside =>
    rw [render]
    simp [defect?, parts, diagnostics_renderBranches, List.flatMap_map]
  | enumeration values beside => simp [render, defect?, parts]
  | primitive type isNullable => simp [render, defect?, parts]
  | object properties additional isNullable =>
    obtain ⟨entries, required⟩ := properties
    rw [render]
    cases additional <;>
      simp [defect?, parts, diagnostics_renderEntries, renderAdditional, List.flatMap_map]
  | array items isNullable =>
    cases items <;> simp [render, defect?, parts]
  | unsupported type => simp [render, defect?, parts]

/-! ### Rendering without gaps -/

/-- Everything right inside the schema is rendered. -/
def RendersParts (schema : Schema) : Prop :=
  ∀ part ∈ schema.parts, ∃ type, (part.2.render (path.child part.1)).value = some type

section Complete

variable {path}

theorem value_render_combination {op : Combinator} {branches : List Schema}
    {beside : Option (PropertySet Schema)} (nonempty : branches ≠ [])
    (complete : RendersParts path (.combination op branches beside)) :
    ∃ types : List TypeExpr,
      (types.map some = branches.zipIdx.map fun (branch, index) =>
        (branch.render (path.child (.branch op index))).value) ∧
      ((combination op branches beside).render path).value = some (.paren (op.join types)) := by
  have all : (renderBranches path op 0 branches).value.map some =
      branches.zipIdx.map fun (branch, index) =>
        (branch.render (path.child (.branch op index))).value := by
    rw [value_renderBranches]
    refine map_some_reduceOption fun missing => ?_
    obtain ⟨⟨branch, index⟩, among, unrendered⟩ := List.mem_map.mp missing
    obtain ⟨type, rendered⟩ := complete (.branch op index, branch) (List.mem_map_of_mem among)
    simp [rendered] at unrendered
  have someType : (renderBranches path op 0 branches).value ≠ [] := by
    intro none
    simp [none, nonempty] at all
  refine ⟨_, all, ?_⟩
  simp [render, someType]

theorem value_render_object {properties : PropertySet Schema} {additional : Option Schema}
    {isNullable : Bool} (complete : RendersParts path (.object properties additional isNullable)) :
    ∃ (members : List (Member TypeExpr)) (rest : Option TypeExpr),
      (members.map some = properties.entries.map fun (name, schema) =>
        (schema.render (path.child (.property name))).value.map
          (Member.named name (!properties.isRequired name))) ∧
      (rest.map some = additional.map fun schema =>
        (schema.render (path.child .additionalProperties)).value) ∧
      ((object properties additional isNullable).render path).value =
        some (objectType isNullable (!properties.entries.isEmpty) members
          (rest.map TypeExpr.record)) := by
  obtain ⟨entries, required⟩ := properties
  have all : (renderEntries path required entries).value.map some =
      entries.map fun (name, schema) =>
        (schema.render (path.child (.property name))).value.map
          (Member.named name (!required.contains name)) := by
    rw [value_renderEntries]
    refine map_some_reduceOption fun missing => ?_
    obtain ⟨⟨name, schema⟩, among, unrendered⟩ := List.mem_map.mp missing
    obtain ⟨type, rendered⟩ := complete (.property name, schema)
      (List.mem_append_left _ (List.mem_map_of_mem among))
    simp [rendered] at unrendered
  cases additional with
  | none => exact ⟨_, none, all, rfl, rfl⟩
  | some values =>
    -- a schema for additional properties that is not rendered would have become `unknown`
    obtain ⟨type, rendered⟩ := complete (.additionalProperties, values)
      (List.mem_append_right _ (List.mem_singleton_self _))
    refine ⟨_, some type, all, by simp [rendered], ?_⟩
    simp [render, renderAdditional, rendered]

theorem value_render_array {items : Schema} {isNullable : Bool}
    (complete : RendersParts path (.array (some items) isNullable)) :
    ∃ type, (items.render (path.child .items)).value = some type ∧
      ((array (some items) isNullable).render path).value =
        some ((TypeExpr.arrayOf type).nullable isNullable) := by
  obtain ⟨type, rendered⟩ := complete (.items, items) (List.mem_singleton_self _)
  refine ⟨type, rendered, ?_⟩
  simp [render, rendered]

end Complete

end Schema

end ApiTypes
