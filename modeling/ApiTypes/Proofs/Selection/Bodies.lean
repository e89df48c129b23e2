import ApiTypes.Proofs.MediaType
import ApiTypes.Proofs.Selection

/-!
# Which bodies are selected

Every JSON body with a schema that belongs to a successful response or to a request is selected,
if no pattern drops its path, unless it is veiled: only the first JSON entry of a content map is
looked at, and that entry may lack a schema where a later one, spelled in another way, has one.

## Main definitions

* `Content.Veiled` — the first JSON entry has no schema, where a later one has
* `Operation.Describes` — the bodies of an operation that may be declared, with their places
* `Document.Selects` — the bodies of a document that are selected

## Main results

* `Content.veiled_iff` — what it means for the schema that is found
* `Document.mem_declarable` — where the names of declarations come from
* `Document.selects_body_or_veiled` — which bodies are selected
-/

namespace ApiTypes

/-! ### The entry that is looked at -/

/-- The first entry of JSON has no schema, and a later one has. -/
def Content.Veiled (content : Content) : Prop :=
  ∃ before type after, content = before ++ (type, none) :: after ∧ MediaType.isJson type ∧
    (∀ entry ∈ before, ¬ MediaType.isJson entry.1) ∧
    ∃ entry ∈ after, MediaType.isJson entry.1 ∧ entry.2.isSome

/-- Where an entry of JSON has a schema, none is found just if the first entry of JSON veils
it. -/
theorem Content.veiled_iff {content : Content}
    (json : ∃ entry ∈ content, MediaType.isJson entry.1 ∧ entry.2.isSome) :
    content.Veiled ↔ content.jsonSchema = none := by
  constructor
  · rintro ⟨before, type, after, split, isJson, others, -⟩
    have first : content.find? (MediaType.isJson ·.1) = some (type, none) :=
      List.find?_eq_some_iff_append.mpr ⟨isJson, before, after, split, by simpa using others⟩
    rw [Content.jsonSchema, first]
    rfl
  · intro noSchema
    obtain ⟨entry, among, entryJson, hasSchema⟩ := json
    have found : (content.find? (MediaType.isJson ·.1)).isSome :=
      List.find?_isSome.mpr ⟨entry, among, entryJson⟩
    obtain ⟨⟨type, schema?⟩, first⟩ := Option.isSome_iff_exists.mp found
    obtain rfl : schema? = none := by simpa [Content.jsonSchema, first] using noSchema
    obtain ⟨isJson, before, after, rfl, others⟩ := List.find?_eq_some_iff_append.mp first
    refine ⟨before, type, after, rfl, isJson, by simpa using others, entry, ?_, entryJson,
      hasSchema⟩
    -- the entry with a schema cannot stand before or at the first one
    rcases List.mem_append.mp among with isBefore | atOrAfter
    · simpa [entryJson] using others entry isBefore
    · rcases List.mem_cons.mp atOrAfter with rfl | isAfter
      · simp at hasSchema
      · exact isAfter

/-! ### Bodies and their names -/

/-- The operation describes the body of a successful response, or that of its request. -/
inductive Operation.Describes (op : Operation) : Suffix → Content → Prop
  | response {status : String} {content : Content} (among : (status, ⟨some content⟩) ∈ op.responses)
      (successful : status.toList.head? = some '2') : op.Describes (.response status) content
  | request {content : Content} (given : op.requestBody = some ⟨content⟩) :
      op.Describes .requestBody content

/-- The bodies of an operation that are declared are those for which a schema is found. -/
theorem Operation.mem_bodies {op : Operation} {template : String} {method : Method}
    {name : String} {schema : Schema} :
    (name, schema) ∈ op.bodies template method ↔
      ∃ suffix content, op.Describes suffix content ∧ content.jsonSchema = some schema ∧
        declarationName template method suffix = name := by
  rw [Operation.bodies, List.mem_append, List.mem_filterMap]
  constructor
  · rintro (⟨⟨status, ⟨content⟩⟩, kept, declared⟩ | declared)
    · obtain ⟨among, successful⟩ := List.mem_filter.mp kept
      obtain ⟨_, found, same⟩ := Option.map_eq_some_iff.mp declared
      obtain ⟨rfl, rfl⟩ := Prod.mk.inj same
      obtain ⟨content, rfl, found⟩ := Option.bind_eq_some_iff.mp found
      exact ⟨_, content, .response among (of_decide_eq_true successful), found, rfl⟩
    · obtain ⟨_, found, same⟩ := List.mem_map.mp declared
      obtain ⟨rfl, rfl⟩ := Prod.mk.inj same
      obtain ⟨⟨content⟩, given, found⟩ := Option.bind_eq_some_iff.mp (Option.mem_toList.mp found)
      exact ⟨_, content, .request given, found, rfl⟩
  · rintro ⟨_, content, describes, found, rfl⟩
    cases describes with
    | @response status _ among successful =>
      refine .inl ⟨(status, ⟨some content⟩), ?_, ?_⟩
      · exact List.mem_filter.mpr ⟨among, by simpa using successful⟩
      · simp [Response.jsonSchema, found]
    | request given => exact .inr (by simp [given, RequestBody.jsonSchema, found])

/-- The body at a place is selected with the schema: its path is retained, and the schema is found
for the body. -/
def Document.Selects (document : Document) (settings : Settings) (template : String)
    (method : Method) (suffix : Suffix) (schema : Schema) : Prop :=
  settings.paths.isEnabled ∧ settings.paths.retains template ∧
    ∃ item, (template, item) ∈ document.paths ∧ ∃ op, (method, op) ∈ item ∧
      ∃ content, op.Describes suffix content ∧ content.jsonSchema = some schema

/-- What is declared is a named schema, or a selected body under the name of its place. -/
theorem Document.mem_declarable {document : Document} {settings : Settings} {name : String}
    {schema : Schema} :
    (name, schema) ∈ document.declarable settings ↔
      (settings.schemas ∧ (name, schema) ∈ document.schemas) ∨
        ∃ template method suffix, document.Selects settings template method suffix schema ∧
          declarationName template method suffix = name := by
  rw [Document.declarable, List.mem_append, List.mem_ite_nil_right, List.mem_ite_nil_right]
  refine or_congr_right ?_
  simp only [List.mem_flatMap, List.mem_filter, Prod.exists, Operation.mem_bodies]
  constructor
  · rintro ⟨enabled, template, item, ⟨path, retained⟩, method, op, operation, suffix, content,
      describes, found, named⟩
    exact ⟨template, method, suffix,
      ⟨enabled, retained, item, path, op, operation, content, describes, found⟩, named⟩
  · rintro ⟨template, method, suffix,
      ⟨enabled, retained, item, path, op, operation, content, describes, found⟩, named⟩
    exact ⟨enabled, template, item, ⟨path, retained⟩, method, op, operation, suffix, content,
      describes, found, named⟩

/-- The selected names are the names of what is declared. -/
theorem Document.mem_keys_select {document : Document} {settings : Settings} {name : String} :
    name ∈ Entries.keys (document.select settings).entries ↔
      ∃ schema, (name, schema) ∈ document.declarable settings := by
  rw [Document.entries_select, Entries.keys_ofList, List.mem_eraseDups, List.mem_map]
  constructor
  · rintro ⟨⟨name, schema⟩, among, rfl⟩
    exact ⟨schema, among⟩
  · rintro ⟨schema, among⟩
    exact ⟨(name, schema), among, rfl⟩

theorem PathFilter.retains_of_empty {filter : PathFilter} (noneIncluded : filter.included = [])
    (noneExcluded : filter.excluded = []) (template : String) : filter.retains template := by
  simp [PathFilter.retains, noneIncluded, noneExcluded]

/-- Without patterns for paths, a successful response or a request that has a schema for JSON is
selected under its name, unless the first entry of JSON among its media types lacks a schema. Then
no schema is found for it. -/
theorem Document.selects_body_or_veiled {document : Document} {settings : Settings}
    (enabled : settings.paths.isEnabled) (noneIncluded : settings.paths.included = [])
    (noneExcluded : settings.paths.excluded = []) {template : String} {item : PathItem}
    (path : (template, item) ∈ document.paths) {method : Method} {op : Operation}
    (operation : (method, op) ∈ item) {suffix : Suffix} {content : Content}
    (describes : op.Describes suffix content)
    (json : ∃ entry ∈ content, MediaType.SpellsJson entry.1 ∧ entry.2.isSome) :
    (content.Veiled ∧ content.jsonSchema = none) ∨
      (¬ content.Veiled ∧ declarationName template method suffix ∈
        Entries.keys (document.select settings).entries) := by
  obtain ⟨entry, among, spelled, hasSchema⟩ := json
  have veiled_iff :=
    Content.veiled_iff ⟨entry, among, MediaType.isJson_of_spellsJson spelled, hasSchema⟩
  cases found : content.jsonSchema with
  | none => exact .inl ⟨veiled_iff.mpr found, rfl⟩
  | some schema =>
    have notVeiled : ¬ content.Veiled := by simp [veiled_iff, found]
    have retained := PathFilter.retains_of_empty noneIncluded noneExcluded template
    have selects : document.Selects settings template method suffix schema :=
      ⟨enabled, retained, item, path, op, operation, content, describes, found⟩
    refine .inr ⟨notVeiled, Document.mem_keys_select.mpr ⟨schema, ?_⟩⟩
    exact Document.mem_declarable.mpr (.inr ⟨template, method, suffix, selects, rfl⟩)

/-- A schema is found behind an entry of HTML, under a type that is spelled in capitals. -/
theorem Document.selects_body_of_pets :
    let content : Content := [("text/html", none),
      (" APPLICATION/Json ; charset=utf-8", some (.primitive .string false))]
    let op : Operation := ⟨none, [("404", ⟨none⟩), ("201", ⟨some content⟩)]⟩
    let document : Document := ⟨none, [("/pets", [(.get, op)])], []⟩
    let settings : Settings := ⟨.all, true, .bare⟩
    (settings.paths.isEnabled ∧ settings.paths.included = [] ∧ settings.paths.excluded = [] ∧
      op.Describes (.response "201") content ∧
      ∃ entry ∈ content, MediaType.SpellsJson entry.1 ∧ entry.2.isSome) ∧
    declarationName "/pets" .get (.response "201") ∈
      Entries.keys (document.select settings).entries := by
  intro content op document settings
  have describes : op.Describes (.response "201") content := .response (by simp [op]) (by decide)
  have json : ∃ entry ∈ content, MediaType.SpellsJson entry.1 ∧ entry.2.isSome :=
    ⟨_, List.mem_cons_of_mem _ (List.mem_cons_self ..),
      ⟨[' '], "APPLICATION/Json".toList, [' '], "; charset=utf-8".toList, by decide,
        List.all_eq_true.mp (by decide), by decide, by decide⟩, rfl⟩
  refine ⟨⟨rfl, rfl, rfl, describes, json⟩, ?_⟩
  have path : ("/pets", [(.get, op)]) ∈ document.paths := List.mem_cons_self ..
  have operation : (Method.get, op) ∈ [(Method.get, op)] := List.mem_cons_self ..
  rcases @Document.selects_body_or_veiled document settings rfl rfl rfl _ _ path _ _ operation _ _
    describes json with ⟨-, lost⟩ | ⟨-, selected⟩
  · cases lost
  · exact selected

/-- Under two spellings of JSON, of which only the later one has a schema, nothing is selected. -/
theorem Document.body_lost_behind_entry_without_schema :
    let content : Content := [("application/json", none),
      ("application/json; charset=utf-8", some (.primitive .string false))]
    let op : Operation := ⟨none, [("200", ⟨some content⟩)]⟩
    let document : Document := ⟨none, [("/pets", [(.get, op)])], []⟩
    let settings : Settings := ⟨.all, true, .bare⟩
    op.Describes (.response "200") content ∧
      (∃ entry ∈ content, MediaType.SpellsJson entry.1 ∧ entry.2.isSome) ∧
      declarationName "/pets" .get (.response "200") ∉
        Entries.keys (document.select settings).entries := by
  intro content op document settings
  have nothing : Entries.keys (document.select settings).entries = [] := rfl
  refine ⟨.response (by simp [op]) (by decide), ?_, by simp [nothing]⟩
  exact ⟨_, List.mem_cons_of_mem _ (List.mem_cons_self ..),
    ⟨[], "application/json".toList, [], "; charset=utf-8".toList, by decide, by simp,
      by decide, by decide⟩, rfl⟩

end ApiTypes
