import ApiTypes.Proofs.Rendering.Diagnostics

/-!
# What is left out leaves no trace

A schema that cannot be rendered takes itself out of what it belongs to, and nothing else: the
type is the one that is rendered when every property and every branch without a type has been
removed beforehand. Then nothing is reported any more, as long as every object that declares
properties keeps one and all schemas for additional properties are rendered.

## Main definitions

* `Schema.type?` — the type of a schema, whatever its place
* `Schema.prune` — the schema without the properties and branches that are not rendered
* `Schema.Recoverable` — an object keeps a property if it declares any, and its schema for
  additional ones is rendered

## Main results

* `Schema.value_render` — the place of a schema has no part in its type
* `Schema.type?_combination`, `Schema.type?_object`, `Schema.type?_array` — types from the types of
  the parts
* `Schema.render_prune` — a schema that is rendered is rendered as the pruned one, which is sound
-/

namespace ApiTypes.Schema

/-! ### Types without places -/

/-- The type of the schema; its place only matters for what is reported. -/
def type? (schema : Schema) : Option TypeExpr :=
  (schema.render (.root "")).value

/-- Whether the schema can be rendered. -/
def isRendered (schema : Schema) : Bool :=
  schema.type?.isSome

/-- Where a schema stands is told to the reports only. -/
theorem value_render_congr {schema : Schema} (path path' : SchemaPath) :
    (schema.render path).value = (schema.render path').value := by
  induction schema using Schema.induction generalizing path path' with
  | combination op branches beside ih _ =>
    have same : (renderBranches path op 0 branches).value =
        (renderBranches path' op 0 branches).value := by
      rw [value_renderBranches, value_renderBranches]
      congr 1
      refine List.map_congr_left fun branch among => ?_
      exact ih branch.1 (List.fst_mem_of_mem_zipIdx among) _ _
    simp only [render, Reported.value_bind, Reported.value_pure, same]
  | object properties additional isNullable ih ihAdditional =>
    have same : (renderEntries path properties.required properties.entries).value =
        (renderEntries path' properties.required properties.entries).value := by
      rw [value_renderEntries, value_renderEntries]
      congr 1
      refine List.map_congr_left fun property among => ?_
      have sameType := ih property among (path.child (.property property.1))
        (path'.child (.property property.1))
      exact congrArg (Option.map _) sameType
    have sameRest : (renderAdditional path additional).value =
        (renderAdditional path' additional).value := by
      cases additional with
      | none => rfl
      | some values =>
        simp only [renderAdditional, Reported.value_bind, Reported.value_pure]
        rw [ihAdditional values rfl]
    simp only [render, Reported.value_bind, Reported.value_pure, same, sameRest]
  | array items isNullable ih =>
    cases items with
    | none => rfl
    | some items =>
      simp only [render, Reported.value_bind, Reported.value_pure]
      rw [ih items rfl]
  | enumeration | primitive | unsupported => rfl

theorem value_render (schema : Schema) (path : SchemaPath) :
    (schema.render path).value = schema.type? :=
  value_render_congr path _

theorem isRendered_iff {schema : Schema} :
    schema.isRendered ↔ ∃ type, schema.type? = some type :=
  Option.isSome_iff_exists

theorem type?_combination (op : Combinator) (branches : List Schema)
    (beside : Option (PropertySet Schema)) :
    (combination op branches beside).type? =
      if branches.filterMap type? = [] then none
      else some (.paren (op.join (branches.filterMap type?))) := by
  have types : (renderBranches (.root "") op 0 branches).value = branches.filterMap type? := by
    rw [value_renderBranches]
    simp only [value_render]
    rw [← Function.comp_def type? Prod.fst, ← List.map_map, List.zipIdx_map_fst,
      List.reduceOption, List.filterMap_map]
    rfl
  simp only [type?, render, Reported.value_bind, Reported.value_pure, types, List.isEmpty_iff]

theorem type?_object (properties : PropertySet Schema) (additional : Option Schema)
    (isNullable : Bool) :
    (object properties additional isNullable).type? =
      some (objectType isNullable (!properties.entries.isEmpty)
        (properties.entries.filterMap fun entry =>
          entry.2.type?.map (.named entry.1 (!properties.isRequired entry.1)))
        (additional.map fun schema => .record (schema.type?.getD (.keyword .unknown)))) := by
  have members : (renderEntries (.root "") properties.required properties.entries).value =
      properties.entries.filterMap fun entry =>
        entry.2.type?.map (.named entry.1 (!properties.isRequired entry.1)) := by
    rw [value_renderEntries]
    simp only [value_render]
    rw [List.reduceOption, List.filterMap_map]
    rfl
  have rest : (renderAdditional (.root "") additional).value =
      additional.map fun schema => .record (schema.type?.getD (.keyword .unknown)) := by
    cases additional with
    | none => rfl
    | some values => simp [renderAdditional, value_render]
  simp only [type?, render, Reported.value_bind, Reported.value_pure, members, rest]

theorem type?_array (items : Option Schema) (isNullable : Bool) :
    (array items isNullable).type? =
      (items.bind type?).map fun type => (TypeExpr.arrayOf type).nullable isNullable := by
  cases items with
  | none => rfl
  | some items =>
    rw [type?, render]
    simp only [Reported.value_bind, Reported.value_pure, value_render, Option.bind_some]

theorem isRendered_items {items : Schema} {isNullable : Bool}
    (rendered : (array (some items) isNullable).isRendered) : items.isRendered := by
  rwa [isRendered, type?_array, Option.isSome_map, Option.bind_some] at rendered

/-! ### Pruning -/

mutual

/-- The schema without the properties and branches, at any depth, that are not rendered. -/
def prune : Schema → Schema
  | combination op branches beside => combination op (pruneBranches branches) beside
  | object ⟨entries, required⟩ additional isNullable =>
    object ⟨pruneEntries entries, required⟩ (pruneOption additional) isNullable
  | array items isNullable => array (pruneOption items) isNullable
  | enumeration values beside => enumeration values beside
  | primitive type isNullable => primitive type isNullable
  | unsupported type => unsupported type

/-- The branches that are rendered, pruned. -/
def pruneBranches : List Schema → List Schema
  | [] => []
  | branch :: rest =>
    if branch.isRendered then prune branch :: pruneBranches rest else pruneBranches rest

/-- The properties that are rendered, pruned. -/
def pruneEntries : List (String × Schema) → List (String × Schema)
  | [] => []
  | (name, schema) :: rest =>
    if schema.isRendered then (name, prune schema) :: pruneEntries rest else pruneEntries rest

/-- The schema, if there is one, pruned. -/
def pruneOption : Option Schema → Option Schema
  | none => none
  | some schema => some (prune schema)

end

theorem pruneBranches_eq (branches : List Schema) :
    pruneBranches branches = (branches.filter isRendered).map prune := by
  induction branches with
  | nil => rfl
  | cons branch rest ih =>
    rw [pruneBranches, ih, List.filter_cons]
    split <;> rfl

theorem pruneEntries_eq (entries : List (String × Schema)) :
    pruneEntries entries =
      (entries.filter (·.2.isRendered)).map fun (name, schema) => (name, schema.prune) := by
  induction entries with
  | nil => rfl
  | cons entry rest ih =>
    rw [pruneEntries, ih, List.filter_cons]
    split <;> rfl

theorem pruneOption_eq (schema : Option Schema) : pruneOption schema = schema.map prune := by
  cases schema <;> rfl

/-- Elements without a result can be dropped. -/
theorem filterMap_filter_of_isSome {α β : Type} {f : α → Option β} {p : α → Bool}
    (given : ∀ a, (f a).isSome → p a) (list : List α) :
    (list.filter p).filterMap f = list.filterMap f := by
  -- what the filter drops has no result
  rw [List.filterMap_filter]
  refine List.filterMap_congr fun a _ => ?_
  cases result : f a with
  | none => simp
  | some b => rw [if_pos (given a (by simp [result]))]

/-- Branches without a type are not members of the combination. -/
theorem filterMap_pruneBranches {branches : List Schema}
    (same : ∀ branch ∈ branches, branch.isRendered → branch.prune.type? = branch.type?) :
    (pruneBranches branches).filterMap type? = branches.filterMap type? := by
  rw [pruneBranches_eq, List.filterMap_map,
    ← filterMap_filter_of_isSome (f := type?) (fun _ => id) branches]
  refine List.filterMap_congr fun branch among => ?_
  obtain ⟨inside, rendered⟩ := List.mem_filter.mp among
  exact same branch inside rendered

/-- Properties without a type are not members of the object type. -/
theorem filterMap_pruneEntries (member : String → TypeExpr → Member TypeExpr)
    {entries : List (String × Schema)}
    (same : ∀ entry ∈ entries, entry.2.isRendered → entry.2.prune.type? = entry.2.type?) :
    (pruneEntries entries).filterMap (fun entry => entry.2.type?.map (member entry.1)) =
      entries.filterMap fun entry => entry.2.type?.map (member entry.1) := by
  have given (entry : String × Schema) :
      (entry.2.type?.map (member entry.1)).isSome → entry.2.isRendered := by
    rw [Option.isSome_map]
    exact id
  rw [pruneEntries_eq, List.filterMap_map, ← filterMap_filter_of_isSome given entries]
  refine List.filterMap_congr fun entry among => ?_
  obtain ⟨inside, rendered⟩ := List.mem_filter.mp among
  exact congrArg (Option.map _) (same entry inside rendered)

/-- Properties of which one is rendered do not all go. -/
theorem isEmpty_pruneEntries {entries : List (String × Schema)}
    (keeps : entries ≠ [] → ∃ entry ∈ entries, entry.2.isRendered) :
    (pruneEntries entries).isEmpty = entries.isEmpty := by
  rw [Bool.eq_iff_iff, List.isEmpty_iff, List.isEmpty_iff, pruneEntries_eq, List.map_eq_nil_iff,
    List.filter_eq_nil_iff]
  refine ⟨fun nothing => ?_, fun empty => by simp [empty]⟩
  by_contra declared
  obtain ⟨entry, among, rendered⟩ := keeps declared
  exact nothing entry among rendered

/-- What an object loses without being left out itself: it keeps a property if it declares any,
and its schema for additional ones is rendered. -/
def Recoverable : Schema → Prop
  | object properties additional _ =>
    (properties.entries ≠ [] → ∃ entry ∈ properties.entries, entry.2.isRendered) ∧
      ∀ values ∈ additional, values.isRendered
  | _ => True

/-- All that is visited are the schema itself and what is visited in its parts. -/
theorem recoverable_visits_iff {schema : Schema} :
    (∀ visit ∈ schema.visits, visit.2.Recoverable) ↔
      schema.Recoverable ∧
        ∀ part ∈ schema.parts, ∀ visit ∈ part.2.visits, visit.2.Recoverable := by
  refine ⟨fun keeps => ⟨keeps _ schema.self_mem_visits, fun part among visit visited =>
    keeps (part.1 :: visit.1, visit.2) (cons_mem_visits among visited)⟩, ?_⟩
  rintro ⟨self, each⟩ ⟨steps, node⟩ visited
  rcases mem_visits.mp visited with ⟨-, rfl⟩ | ⟨part, among, rest, inPart, -⟩
  · exact self
  · exact each part among (rest, node) inPart

theorem exists_mem_parts_of_mem_branches {op : Combinator} {branches : List Schema}
    {beside : Option (PropertySet Schema)} {branch : Schema} (among : branch ∈ branches) :
    ∃ index, (.branch op index, branch) ∈ (combination op branches beside).parts := by
  rw [← List.zipIdx_map_fst 0 branches] at among
  obtain ⟨⟨_, index⟩, listed, rfl⟩ := List.mem_map.mp among
  exact ⟨index, List.mem_map_of_mem listed⟩

/-- Pruning a schema that is rendered does not change its type. -/
theorem type?_prune {schema : Schema} (rendered : schema.isRendered)
    (keeps : ∀ visit ∈ schema.visits, visit.2.Recoverable) :
    schema.prune.type? = schema.type? := by
  induction schema using parts_induction with
  | whole schema ih =>
    have same : ∀ part ∈ schema.parts, part.2.isRendered → part.2.prune.type? = part.2.type? :=
      fun part among renderedPart =>
        ih part among renderedPart ((recoverable_visits_iff.mp keeps).2 part among)
    have self : schema.Recoverable := keeps _ schema.self_mem_visits
    cases schema with
    | combination op branches beside =>
      have types : (pruneBranches branches).filterMap type? = branches.filterMap type? := by
        refine filterMap_pruneBranches fun branch inside renderedBranch => ?_
        obtain ⟨index, isPart⟩ := exists_mem_parts_of_mem_branches inside
        exact same _ isPart renderedBranch
      rw [prune, type?_combination, type?_combination, types]
    | object properties additional isNullable =>
      obtain ⟨entries, required⟩ := properties
      have each : ∀ entry ∈ entries, entry.2.isRendered → entry.2.prune.type? = entry.2.type? :=
        fun entry inside => same (.property entry.1, entry.2)
          (List.mem_append_left _ (List.mem_map_of_mem inside))
      -- the type of additional properties has a place even without a type of its own
      have rest : (pruneOption additional).map (fun schema =>
            TypeExpr.record (schema.type?.getD (.keyword .unknown))) =
          additional.map fun schema => .record (schema.type?.getD (.keyword .unknown)) := by
        cases additional with
        | none => rfl
        | some values =>
          rw [pruneOption, Option.map_some, Option.map_some, same (.additionalProperties, values)
            (List.mem_append_right _ (List.mem_singleton_self _)) (self.2 values rfl)]
      have members := filterMap_pruneEntries
        (fun name => Member.named name (!required.contains name)) each
      rw [prune, type?_object, type?_object]
      simp only [PropertySet.isRequired, members, isEmpty_pruneEntries self.1, rest]
    | array items isNullable =>
      cases items with
      | none => rfl
      | some items =>
        rw [prune, pruneOption, type?_array, type?_array, Option.bind_some, Option.bind_some,
          same (.items, items) (List.mem_singleton_self _) (isRendered_items rendered)]
    | enumeration | primitive | unsupported => rfl

/-- Every part that is left is a part that was rendered, pruned. -/
theorem exists_of_mem_parts_prune {schema : Schema} (rendered : schema.isRendered)
    (keeps : schema.Recoverable) {part : SchemaPath.Step × Schema}
    (among : part ∈ schema.prune.parts) :
    ∃ kept ∈ schema.parts, kept.2.isRendered ∧ part.2 = kept.2.prune := by
  cases schema with
  | combination op branches beside =>
    rw [prune, pruneBranches_eq] at among
    obtain ⟨⟨_, index⟩, listed, rfl⟩ := List.mem_map.mp among
    obtain ⟨branch, kept, rfl⟩ := List.mem_map.mp (List.fst_mem_of_mem_zipIdx listed)
    obtain ⟨inside, renderedBranch⟩ := List.mem_filter.mp kept
    obtain ⟨_, isPart⟩ := exists_mem_parts_of_mem_branches inside
    exact ⟨_, isPart, renderedBranch, rfl⟩
  | object properties additional isNullable =>
    obtain ⟨entries, required⟩ := properties
    rw [prune, pruneEntries_eq, pruneOption_eq] at among
    rcases List.mem_append.mp among with listed | listed
    · obtain ⟨pruned, declared, rfl⟩ := List.mem_map.mp listed
      obtain ⟨entry, kept, rfl⟩ := List.mem_map.mp declared
      obtain ⟨inside, renderedEntry⟩ := List.mem_filter.mp kept
      exact ⟨_, List.mem_append_left _ (List.mem_map_of_mem inside), renderedEntry, rfl⟩
    · obtain ⟨_, given, rfl⟩ := List.mem_map.mp listed
      obtain ⟨values, rfl, rfl⟩ := Option.map_eq_some_iff.mp (Option.mem_toList.mp given)
      exact ⟨(.additionalProperties, values), List.mem_append_right _ (List.mem_singleton_self _),
        keeps.2 values rfl, rfl⟩
  | array items isNullable =>
    rw [prune, pruneOption_eq] at among
    obtain ⟨_, given, rfl⟩ := List.mem_map.mp among
    obtain ⟨items, rfl, rfl⟩ := Option.map_eq_some_iff.mp (Option.mem_toList.mp given)
    exact ⟨(.items, items), List.mem_singleton_self _, isRendered_items rendered, rfl⟩
  | enumeration | primitive | unsupported => simp [prune, parts] at among

/-- Nothing is reported of a schema that is rendered, once it is pruned. -/
theorem diagnostics_render_prune {schema : Schema} (rendered : schema.isRendered)
    (keeps : ∀ visit ∈ schema.visits, visit.2.Recoverable) (path : SchemaPath) :
    (schema.prune.render path).diagnostics = [] := by
  induction schema using parts_induction generalizing path with
  | whole schema ih =>
    refine silent_iff.mpr ⟨?_, fun part among => ?_⟩
    · -- a defective schema would not have been rendered
      cases schema with
      | array items isNullable =>
        cases items with
        | none => simp [isRendered, type?_array] at rendered
        | some items => rfl
      | unsupported type => simp [isRendered, type?, render] at rendered
      | combination | enumeration | primitive | object => rfl
    · obtain ⟨kept, isPart, renderedPart, same⟩ :=
        exists_of_mem_parts_prune rendered (keeps _ schema.self_mem_visits) among
      rw [same]
      exact ih kept isPart renderedPart ((recoverable_visits_iff.mp keeps).2 kept isPart) _

/-- Let a schema be rendered, and let every visited object that declares properties keep one and
have its schema for additional ones rendered. Then the schema is rendered as if the properties and
branches that are left out had never been written, and without them nothing is reported. -/
theorem render_prune {schema : Schema} {path : SchemaPath} {type : TypeExpr}
    (rendered : (schema.render path).value = some type)
    (keeps : ∀ visit ∈ schema.visits, visit.2.Recoverable) :
    (schema.prune.render path).value = some type ∧
      (schema.prune.render path).diagnostics = [] := by
  -- the type is the same in every place, so that of the root will do
  rw [value_render] at rendered
  have isRendered : schema.isRendered := isRendered_iff.mpr ⟨type, rendered⟩
  refine ⟨?_, diagnostics_render_prune isRendered keeps path⟩
  rw [value_render, type?_prune isRendered keeps, rendered]

/-- An owner that is not understood and, among the tags, an array without items are left out of
this schema as if they had never been written. -/
theorem render_prune_of_pet :
    let tags (branches : List Schema) : String × Schema :=
      ("tags", .array (some (.combination .oneOf branches none)) true)
    let schema : Schema := .object ⟨[("owner", .unsupported (some "person")),
      tags [.array none false, .primitive .string false]], ["owner", "tags"]⟩
      (some (.primitive .number false)) false
    let pruned : Schema := .object ⟨[tags [.primitive .string false]], ["owner", "tags"]⟩
      (some (.primitive .number false)) false
    let type : TypeExpr := .intersection [
      .object [.named "tags" false
        (.generic "Nullable" [.array (.paren (.union [.keyword .string]))])],
      .generic "Record" [.keyword .string, .keyword .number]]
    (schema.render (.root "Pet")).value = some type ∧
      (schema.render (.root "Pet")).diagnostics.length = 2 ∧
      (∀ visit ∈ schema.visits, visit.2.Recoverable) ∧
      schema.prune = pruned ∧
      (schema.prune.render (.root "Pet")).value = some type ∧
      (schema.prune.render (.root "Pet")).diagnostics = [] := by
  intro tags schema pruned type
  have rendered : (schema.render (.root "Pet")).value = some type := rfl
  have leaf {node : Schema} (final : node.parts = []) (self : node.Recoverable) :
      ∀ visit ∈ node.visits, visit.2.Recoverable :=
    recoverable_visits_iff.mpr ⟨self, by simp [final]⟩
  have keeps : ∀ visit ∈ schema.visits, visit.2.Recoverable := by
    have keepsTags : schema.Recoverable :=
      ⟨fun _ => ⟨_, List.mem_cons_of_mem _ (List.mem_singleton_self _), rfl⟩,
        fun _ given => Option.some.inj given ▸ rfl⟩
    refine recoverable_visits_iff.mpr ⟨keepsTags, List.forall_mem_cons.mpr ⟨leaf rfl trivial,
      List.forall_mem_cons.mpr ⟨recoverable_visits_iff.mpr ⟨trivial, ?_⟩,
        List.forall_mem_singleton.mpr (leaf rfl trivial)⟩⟩⟩
    -- the items of the tags
    refine List.forall_mem_singleton.mpr (recoverable_visits_iff.mpr ⟨trivial, ?_⟩)
    exact List.forall_mem_cons.mpr ⟨leaf rfl trivial,
      List.forall_mem_singleton.mpr (leaf rfl trivial)⟩
  exact ⟨rendered, rfl, keeps, rfl, render_prune rendered keeps⟩

end ApiTypes.Schema
