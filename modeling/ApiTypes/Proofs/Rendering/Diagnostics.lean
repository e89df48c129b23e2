import ApiTypes.Generation
import ApiTypes.Proofs.Rendering.Parts
import ApiTypes.Proofs.Schema.Classified
import ApiTypes.Proofs.TypeExpr.Within

/-!
# What rendering reports

Rendering visits a schema and, in order, everything that is rendered with it. It reports each
schema on the way that is not understood and each array without items, at its place, and nothing
else; what is left out is therefore always reported.

## Main definitions

* `Schema.visits` — the schemas that are visited, each with the steps that lead to it
* `Schema.defects` — the diagnostics of the defective ones among them
* `Schema.Shown` — all branches or properties of a schema are found in a type

## Main results

* `Schema.diagnostics_render_eq_defects` — rendering reports the defects that it visits
* `Schema.exists_value_of_silent` — a schema of which nothing is reported is rendered
* `Schema.shown_of_mem_visits` — and nothing that is visited is missing from its type
* `Schema.reports_exactly_what_is_left_out` — all of this, and what it says about a whole document
-/

namespace ApiTypes

/-- The place to which the steps lead. -/
def SchemaPath.extend (path : SchemaPath) (steps : List Step) : SchemaPath :=
  steps.foldl child path

@[simp] theorem SchemaPath.extend_nil (path : SchemaPath) : path.extend [] = path := rfl

@[simp] theorem SchemaPath.extend_cons (path : SchemaPath) (step : Step) (steps : List Step) :
    path.extend (step :: steps) = (path.child step).extend steps := rfl

namespace Schema

open TypeExpr (Within)

theorem within_join (op : Combinator) {type : TypeExpr} {types : List TypeExpr}
    (among : type ∈ types) : Within type (op.join types) := by
  cases op with
  | oneOf | anyOf => exact .part among
  | allOf => exact .intersectionOf among

/-! ### The schemas that are visited -/

theorem sizeOf_lt_of_mem_parts {schema : Schema} {part : SchemaPath.Step × Schema}
    (among : part ∈ schema.parts) : sizeOf part.2 < sizeOf schema := by
  cases schema with
  | combination op branches beside =>
    obtain ⟨⟨branch, index⟩, inside, rfl⟩ := List.mem_map.mp among
    have smaller : sizeOf branch < sizeOf branches :=
      List.sizeOf_lt_of_mem (List.fst_mem_of_mem_zipIdx inside)
    simp only [combination.sizeOf_spec]
    omega
  | object properties additional isNullable =>
    obtain ⟨entries, required⟩ := properties
    simp only [object.sizeOf_spec, PropertySet.mk.sizeOf_spec]
    rcases List.mem_append.mp among with listed | listed
    · obtain ⟨⟨name, schema⟩, inside, rfl⟩ := List.mem_map.mp listed
      have smaller : sizeOf (name, schema) < sizeOf entries := List.sizeOf_lt_of_mem inside
      simp only [Prod.mk.sizeOf_spec] at smaller ⊢
      omega
    · obtain ⟨rest, inside, rfl⟩ := List.mem_map.mp listed
      obtain rfl := Option.mem_toList.mp inside
      simp only [Option.some.sizeOf_spec]
      omega
  | array items isNullable =>
    obtain ⟨element, inside, rfl⟩ := List.mem_map.mp among
    obtain rfl := Option.mem_toList.mp inside
    simp only [array.sizeOf_spec, Option.some.sizeOf_spec]
    omega
  | enumeration | primitive | unsupported => simp [parts] at among

/-- The schemas that are rendered with a schema, itself first, each with the steps to it. -/
def visits (schema : Schema) : List (List SchemaPath.Step × Schema) :=
  ([], schema) :: schema.parts.attach.flatMap fun part =>
    (visits part.val.2).map fun visit => (part.val.1 :: visit.1, visit.2)
termination_by schema
decreasing_by exact sizeOf_lt_of_mem_parts part.property

theorem visits_eq (schema : Schema) :
    schema.visits = ([], schema) :: schema.parts.flatMap fun part =>
      part.2.visits.map fun visit => (part.1 :: visit.1, visit.2) := by
  rw [visits]
  simp only [List.flatMap_subtype, List.unattach_attach]

theorem mem_visits {schema node : Schema} {steps : List SchemaPath.Step} :
    (steps, node) ∈ schema.visits ↔ steps = [] ∧ node = schema ∨
      ∃ part ∈ schema.parts, ∃ rest, (rest, node) ∈ part.2.visits ∧ steps = part.1 :: rest := by
  rw [visits_eq, List.mem_cons, Prod.mk.injEq, List.mem_flatMap]
  refine or_congr_right (exists_congr fun part => and_congr_right fun _ => ?_)
  rw [List.mem_map]
  constructor
  · rintro ⟨⟨rest, _⟩, among, ⟨⟩⟩
    exact ⟨rest, among, rfl⟩
  · rintro ⟨rest, among, rfl⟩
    exact ⟨(rest, node), among, rfl⟩

theorem self_mem_visits (schema : Schema) : ([], schema) ∈ schema.visits :=
  mem_visits.mpr (.inl ⟨rfl, rfl⟩)

theorem cons_mem_visits {schema : Schema} {part : SchemaPath.Step × Schema}
    (among : part ∈ schema.parts) {visit : List SchemaPath.Step × Schema}
    (visited : visit ∈ part.2.visits) : (part.1 :: visit.1, visit.2) ∈ schema.visits :=
  mem_visits.mpr (.inr ⟨part, among, visit.1, visited, rfl⟩)

/-- The diagnostics of the defective schemas that are visited from a place, in order. -/
def defects (path : SchemaPath) (schema : Schema) : List Diagnostic :=
  schema.visits.filterMap fun visit =>
    visit.2.defect?.map (Diagnostic.mk (path.extend visit.1).text)

theorem defects_eq (path : SchemaPath) (schema : Schema) :
    schema.defects path = (schema.defect?.map (Diagnostic.mk path.text)).toList ++
      schema.parts.flatMap fun part => part.2.defects (path.child part.1) := by
  rw [defects, visits_eq, List.filterMap_cons, List.filterMap_flatMap]
  simp only [List.filterMap_map, SchemaPath.extend_nil]
  cases schema.defect? <;> rfl

/-- Rendering reports exactly the defects that it visits. -/
theorem diagnostics_render_eq_defects (path : SchemaPath) (schema : Schema) :
    (schema.render path).diagnostics = schema.defects path := by
  induction schema using parts_induction generalizing path with
  | whole schema ih =>
    rw [diagnostics_render, defects_eq]
    exact congrArg _ (List.flatMap_congr fun part among => ih part among (path.child part.1))

/-! ### Nothing is left out in silence -/

theorem Classified.of_mem_parts {schema : Schema} (classified : schema.Classified)
    {part : SchemaPath.Step × Schema} (among : part ∈ schema.parts) : part.2.Classified := by
  cases classified with
  | combination _ each _ _ =>
    obtain ⟨⟨branch, index⟩, inside, rfl⟩ := List.mem_map.mp among
    exact each branch (List.fst_mem_of_mem_zipIdx inside)
  | object each _ eachAdditional =>
    rcases List.mem_append.mp among with listed | listed
    · obtain ⟨entry, inside, rfl⟩ := List.mem_map.mp listed
      exact each entry inside
    · obtain ⟨rest, inside, rfl⟩ := List.mem_map.mp listed
      exact eachAdditional rest (Option.mem_toList.mp inside)
  | array each =>
    obtain ⟨element, inside, rfl⟩ := List.mem_map.mp among
    exact each element (Option.mem_toList.mp inside)
  | enumeration | primitive | unsupported => simp [parts] at among

/-- All branches of a combination, or all properties of an object, are found in the type. -/
def Shown (path : SchemaPath) (type : TypeExpr) : Schema → Prop
  | combination op branches _ =>
    ∃ types, Within (op.join types) type ∧
      types.map some = branches.zipIdx.map fun (branch, index) =>
        (branch.render (path.child (.branch op index))).value
  | object properties _ _ =>
    properties.entries ≠ [] → ∃ members, Within (.object members) type ∧
      members.map some = properties.entries.map fun (name, schema) =>
        (schema.render (path.child (.property name))).value.map
          (Member.named name (!properties.isRequired name))
  | _ => True

theorem Shown.mono {path : SchemaPath} {type outer : TypeExpr} {schema : Schema}
    (shown : schema.Shown path type) (inside : Within type outer) : schema.Shown path outer := by
  cases schema with
  | combination op branches beside =>
    obtain ⟨types, within, same⟩ := shown
    exact ⟨types, within.trans inside, same⟩
  | object properties additional isNullable =>
    intro declares
    obtain ⟨members, within, same⟩ := shown declares
    exact ⟨members, within.trans inside, same⟩
  | enumeration | primitive | array | unsupported => trivial

section Silent

variable {path : SchemaPath}

theorem silent_iff {schema : Schema} : (schema.render path).diagnostics = [] ↔
    schema.defect? = none ∧
      ∀ part ∈ schema.parts, (part.2.render (path.child part.1)).diagnostics = [] := by
  rw [diagnostics_render, List.append_eq_nil_iff, List.flatMap_eq_nil_iff]
  cases schema.defect? <;> simp

/-- A schema of which nothing is reported is rendered. -/
theorem exists_value_of_silent {schema : Schema} (classified : schema.Classified)
    (silent : (schema.render path).diagnostics = []) :
    ∃ type, (schema.render path).value = some type := by
  induction schema using parts_induction generalizing path with
  | whole schema ih =>
    obtain ⟨sound, quiet⟩ := silent_iff.mp silent
    have complete : schema.RendersParts path := fun part among =>
      ih part among (classified.of_mem_parts among) (quiet part among)
    cases classified with
    | combination nonempty _ _ _ =>
      -- without a branch nothing would be rendered, nor would anything be reported
      obtain ⟨types, -, rendered⟩ := value_render_combination nonempty complete
      exact ⟨_, rendered⟩
    | @array items isNullable _ =>
      cases items with
      | none => simp [defect?] at sound
      | some items =>
        obtain ⟨type, -, rendered⟩ := value_render_array complete
        exact ⟨_, rendered⟩
    | unsupported => simp [defect?] at sound
    | enumeration | primitive | object => exact ⟨_, rfl⟩

theorem rendersParts_of_silent {schema : Schema} (classified : schema.Classified)
    (silent : (schema.render path).diagnostics = []) : schema.RendersParts path := fun part among =>
  exists_value_of_silent (classified.of_mem_parts among) ((silent_iff.mp silent).2 part among)

theorem within_objectType_members {isNullable : Bool} {members : List (Member TypeExpr)}
    {rest : Option TypeExpr} :
    Within (.object members) (objectType isNullable true members rest) := by
  have inBody := Within.nullable (.object members) isNullable
  cases rest with
  | none => exact inBody
  | some rest => exact inBody.trans (.intersectionOf List.mem_cons_self)

theorem within_objectType_rest {isNullable declares : Bool} {members : List (Member TypeExpr)}
    {rest : TypeExpr} :
    Within rest (objectType isNullable declares members (some rest)) := by
  cases declares with
  | true => exact .intersectionOf (List.mem_cons_of_mem _ (List.mem_singleton_self _))
  | false => exact .nullable rest isNullable

/-- The type of a schema of which nothing is reported shows all of it, and has in it the types of
everything right inside the schema. -/
theorem shown_of_silent {schema : Schema} {type : TypeExpr} (classified : schema.Classified)
    (silent : (schema.render path).diagnostics = [])
    (rendered : (schema.render path).value = some type) :
    schema.Shown path type ∧ ∀ part ∈ schema.parts,
      ∃ inner, (part.2.render (path.child part.1)).value = some inner ∧ Within inner type := by
  have complete := rendersParts_of_silent classified silent
  cases classified with
  | @combination op branches beside nonempty _ _ _ =>
    obtain ⟨types, all, rendered'⟩ := value_render_combination nonempty complete
    obtain rfl := Option.some.inj (rendered.symm.trans rendered')
    refine ⟨⟨types, .paren _, all⟩, fun part among => ?_⟩
    obtain ⟨branch, inside, rfl⟩ := List.mem_map.mp among
    obtain ⟨inner, amongTypes, renderedBranch⟩ := (exists_of_map_some_eq all).1 branch inside
    exact ⟨inner, renderedBranch, (within_join op amongTypes).trans (.paren _)⟩
  | @object properties additional isNullable _ _ _ =>
    obtain ⟨members, rest, all, allRest, rendered'⟩ := value_render_object complete
    obtain rfl := Option.some.inj (rendered.symm.trans rendered')
    -- the object type itself is there as soon as a property is declared
    have inside (declares : properties.entries ≠ []) : Within (.object members)
        (objectType isNullable (!properties.entries.isEmpty) members (rest.map .record)) := by
      have shown : (!properties.entries.isEmpty) = true := by simpa using declares
      rw [shown]
      exact within_objectType_members
    refine ⟨fun declares => ⟨members, inside declares, all⟩, fun part among => ?_⟩
    rcases List.mem_append.mp among with listed | listed
    · obtain ⟨entry, amongEntries, rfl⟩ := List.mem_map.mp listed
      obtain ⟨member, amongMembers, named⟩ := (exists_of_map_some_eq all).1 entry amongEntries
      obtain ⟨inner, renderedInner, rfl⟩ := Option.map_eq_some_iff.mp named
      refine ⟨inner, renderedInner, .trans ?_ (inside (List.ne_nil_of_mem amongEntries))⟩
      exact .part (List.mem_map_of_mem amongMembers)
    · obtain ⟨values, given, rfl⟩ := List.mem_map.mp listed
      obtain rfl := Option.mem_toList.mp given
      obtain ⟨inner, rfl, same⟩ := Option.map_eq_some_iff.mp allRest
      exact ⟨inner, same.symm, (Within.record inner).trans within_objectType_rest⟩
  | @array items isNullable _ =>
    cases items with
    | none => simp [render] at rendered
    | some items =>
      obtain ⟨element, renderedItems, rendered'⟩ := value_render_array complete
      obtain rfl := Option.some.inj (rendered.symm.trans rendered')
      refine ⟨trivial, fun part among => ?_⟩
      obtain rfl := List.mem_singleton.mp among
      exact ⟨element, renderedItems, (Within.arrayOf element).trans (.nullable _ isNullable)⟩
  | enumeration | primitive | unsupported => exact ⟨trivial, by simp [parts]⟩

/-- Nothing that is visited is missing from the type of a schema of which nothing is reported. -/
theorem shown_of_mem_visits {schema : Schema} {type : TypeExpr} (classified : schema.Classified)
    (silent : (schema.render path).diagnostics = [])
    (rendered : (schema.render path).value = some type) {steps : List SchemaPath.Step}
    {node : Schema} (visited : (steps, node) ∈ schema.visits) :
    node.Shown (path.extend steps) type ∧
      ∃ inner, (node.render (path.extend steps)).value = some inner ∧ Within inner type := by
  induction schema using parts_induction generalizing path type steps with
  | whole schema ih =>
    obtain ⟨shown, each⟩ := shown_of_silent classified silent rendered
    rcases mem_visits.mp visited with ⟨rfl, rfl⟩ | ⟨part, among, rest, visited', rfl⟩
    · exact ⟨shown, type, rendered, .refl type⟩
    · obtain ⟨partType, renderedPart, partInside⟩ := each part among
      obtain ⟨shownNode, inner, renderedNode, inside⟩ :=
        ih part among (classified.of_mem_parts among) ((silent_iff.mp silent).2 part among)
          renderedPart visited'
      exact ⟨shownNode.mono partInside, inner, renderedNode, inside.trans partInside⟩

end Silent

/-! ### Whole documents -/

theorem diagnostics_declaration (format : NameFormat) (name : String) (schema : Schema) :
    (schema.declaration format name).diagnostics =
      schema.rootProperties.toList.flatMap fun properties =>
        properties.entries.flatMap fun (property, inner) =>
          inner.defects ((SchemaPath.root name).child (.property property)) := by
  have root : (schema.declaration format name).diagnostics =
      (schema.rootType (.root name)).diagnostics := by simp [declaration]
  rw [root, rootType]
  cases schema.rootProperties with
  | none => rfl
  | some properties =>
    simp [PropertySet.render, diagnostics_renderEntries, diagnostics_render_eq_defects]

/-- Rendering a decoded schema reports exactly the defects that it visits, in their order and at
their places. A schema that is not rendered is reported, and of a schema of which nothing is
reported everything that is visited is found in its type. The diagnostics of a document are those
of the properties that the selected schemas declare. -/
theorem reports_exactly_what_is_left_out {value : Json} {schema : Schema}
    (decoded : decode value = .ok schema) (path : SchemaPath) :
    (schema.render path).diagnostics = schema.defects path ∧
      ((schema.render path).value = none → (schema.render path).diagnostics ≠ []) ∧
      ((schema.render path).diagnostics = [] →
        ∃ type, (schema.render path).value = some type ∧
          ∀ steps node, (steps, node) ∈ schema.visits →
            node.Shown (path.extend steps) type ∧
              ∃ inner, (node.render (path.extend steps)).value = some inner ∧
                Within inner type) ∧
      ∀ (document : Document) (settings : Settings),
        (document.generate settings).diagnostics =
          (document.select settings).entries.flatMap fun (name, schema) =>
            schema.rootProperties.toList.flatMap fun properties =>
              properties.entries.flatMap fun (property, inner) =>
                inner.defects ((SchemaPath.root name).child (.property property)) := by
  have classified := classified_of_decode decoded
  refine ⟨diagnostics_render_eq_defects path schema, ?_, ?_, fun document settings => ?_⟩
  -- silence would have meant a type
  · intro unrendered silent
    obtain ⟨type, rendered⟩ := exists_value_of_silent classified silent
    simp [rendered] at unrendered
  · intro silent
    obtain ⟨type, rendered⟩ := exists_value_of_silent classified silent
    exact ⟨type, rendered, fun steps node => shown_of_mem_visits classified silent rendered⟩
  · simp only [Generation.diagnostics, Document.generate, List.flatMap_map,
      diagnostics_declaration]

/-- A property whose schema is not understood and one that is an array without items, in a branch,
are the two defects of this schema. -/
theorem defects_of_pet :
    let value : Json := .object [("type", .string "object"),
      ("properties", .object [
        ("owner", .object [("type", .string "person")]),
        ("tags", .object [("oneOf", .array [
          .object [("type", .string "string")], .object [("type", .string "array")]])])])]
    let schema : Schema := .object ⟨[("owner", .unsupported (some "person")),
      ("tags", .combination .oneOf [.primitive .string false, .array none false] none)], []⟩
      none false
    decode value = .ok schema ∧
      schema.defects (.root "Pet") =
        [⟨"Pet.owner", "has unsupported type: person. Skipping."⟩,
          ⟨"Pet.tags.oneOf.1", "is an array with no items. Skipping."⟩] := by
  intro value schema
  have decoded : decode value = .ok schema := rfl
  have reported := (reports_exactly_what_is_left_out decoded (.root "Pet")).1
  exact ⟨decoded, reported.symm.trans rfl⟩

end Schema

end ApiTypes
