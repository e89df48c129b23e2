import ApiTypes.Generation
import ApiTypes.Proofs.Entries

/-!
# What is selected

Selection takes up what it meets on its way through a document one by one. Its result can be read
off the list of all named schemas and bodies at once: every name once, where it first occurs, with
the last schema that has it. Each becomes one declaration.

## Main definitions

* `Operation.bodies` — the bodies of an operation that are declared, under their names
* `Document.declarable` — all that is declared in a document, repeated names included
* `Candidate.named?` — the named schema that is met, if a path is not just dropped

## Main results

* `Document.filterMap_candidates` — what is met on the way through a document
* `Document.entries_select` — the selection enters it name by name
* `Document.select_last_of_each_name` — which names are selected, with which schemas
-/

namespace ApiTypes

/-- The JSON bodies of an operation that are declared, under their names: those of the responses
whose status starts with `2`, then that of the request. -/
def Operation.bodies (template : String) (method : Method) (op : Operation) :
    List (String × Schema) :=
  ((op.responses.filter fun (status, _) => status.toList.head? = some '2').filterMap
      fun (status, response) =>
        response.jsonSchema.map (declarationName template method (.response status), ·)) ++
    (op.requestBody.bind RequestBody.jsonSchema).toList.map
      (declarationName template method .requestBody, ·)

/-- All that is declared in a document: the named schemas, then the bodies behind the paths that
the filter retains. A name may occur more than once. -/
def Document.declarable (document : Document) (settings : Settings) : List (String × Schema) :=
  (if settings.schemas then document.schemas else []) ++
    if settings.paths.isEnabled then
      (document.paths.filter (settings.paths.retains ·.1)).flatMap fun (template, item) =>
        item.flatMap fun (method, op) => op.bodies template method
    else []

/-- The named schema that is met. -/
def Candidate.named? : Candidate → Option (String × Schema)
  | .skipped _ => none
  | .schema name declared => some (name, declared)

/-! ### What is met on the way through a document -/

theorem Operation.filterMap_candidates (template : String) (method : Method) (op : Operation) :
    (op.candidates template method).filterMap Candidate.named? = op.bodies template method := by
  rw [Operation.candidates, Operation.bodies, List.filterMap_append, List.filterMap_filter,
    List.filterMap_filterMap]
  congr 1
  · -- one response: its status is looked at first, then its schema
    congr 1
    funext (status, response)
    by_cases successful : status.toList.head? = some '2'
    · simp only [successful, if_true, decide_true]
      cases response.jsonSchema <;> rfl
    · simp [successful]
  · cases op.requestBody.bind RequestBody.jsonSchema <;> rfl

theorem PathFilter.filterMap_candidates (filter : PathFilter) (template : String)
    (item : PathItem) :
    (filter.candidates template item).filterMap Candidate.named? =
      if filter.retains template then
        item.flatMap fun (method, op) => op.bodies template method
      else [] := by
  rw [PathFilter.candidates]
  split_ifs with retained
  · rw [List.filterMap_flatMap]
    congr 1
    funext (method, op)
    exact op.filterMap_candidates template method
  · rfl

theorem flatMap_filter_retains (filter : PathFilter) (paths : List (String × PathItem)) :
    ((paths.filter (filter.retains ·.1)).flatMap fun (template, item) =>
        item.flatMap fun (method, op) => op.bodies template method) =
      paths.flatMap fun (template, item) =>
        (filter.candidates template item).filterMap Candidate.named? := by
  induction paths with
  | nil => rfl
  | cons path rest ih =>
    obtain ⟨template, item⟩ := path
    rw [List.flatMap_cons, ← ih]
    change _ = (filter.candidates template item).filterMap Candidate.named? ++ _
    rw [PathFilter.filterMap_candidates]
    by_cases retained : filter.retains template
    · simp [retained]
    · simp [retained]

/-- Dropped paths apart, what is met is what is declared. -/
theorem Document.filterMap_candidates (document : Document) (settings : Settings) :
    (document.candidates settings).filterMap Candidate.named? = document.declarable settings := by
  rw [Document.candidates, Document.declarable, List.filterMap_append]
  congr 1
  · split_ifs with wanted
    · rw [List.filterMap_map]
      exact List.filterMap_some
    · rfl
  · split_ifs with enabled
    · rw [List.filterMap_flatMap, flatMap_filter_retains]
    · rfl

/-! ### The selection -/

/-- One step of the selection: a dropped path leaves the entries as they are. -/
theorem Selection.entries_add (selection : Selection) (candidate : Candidate) :
    (selection.add candidate).entries =
      candidate.named?.toList.foldl
        (fun entries (name, schema) => Entries.insert name schema entries) selection.entries := by
  cases candidate with
  | skipped template => rfl
  | schema name schema => rfl

theorem Selection.entries_foldl_add (candidates : List Candidate) (selection : Selection) :
    (candidates.foldl Selection.add selection).entries =
      (candidates.filterMap Candidate.named?).foldl
        (fun entries (name, schema) => Entries.insert name schema entries) selection.entries := by
  induction candidates generalizing selection with
  | nil => rfl
  | cons candidate rest ih =>
    rw [List.foldl_cons, ih, entries_add]
    cases named : candidate.named? with
    | none => rw [List.filterMap_cons_none named]; rfl
    | some pair => rw [List.filterMap_cons_some named]; rfl

/-- The selection enters all that is declared, name by name. -/
theorem Document.entries_select (document : Document) (settings : Settings) :
    (document.select settings).entries = Entries.ofList (document.declarable settings) := by
  rw [Document.select, Selection.entries_foldl_add, Document.filterMap_candidates]
  rfl

/-- The selected names are those of all that is declared, each once and where it first occurs; a
selected schema is the last one that is declared under its name. Each entry of the selection makes
one declaration, in the same order. -/
theorem Document.select_last_of_each_name (document : Document) (settings : Settings) :
    let declared := document.declarable settings
    let selected := (document.select settings).entries
    selected.map Prod.fst = (declared.map Prod.fst).eraseDups ∧
      (∀ entry ∈ selected, declared.reverse.lookup entry.1 = some entry.2) ∧
      (document.generate settings).declarations.map Prod.fst = selected.map Prod.fst ∧
      (document.generate settings).texts = selected.map fun (name, schema) =>
        (schema.declaration settings.nameFormat name).value := by
  intro declared selected
  have selected_eq : selected = Entries.ofList declared := document.entries_select settings
  have distinct : (Entries.keys selected).Nodup := by
    rw [selected_eq]
    exact Entries.nodup_keys_ofList declared
  refine ⟨?_, fun entry member => ?_, ?_, ?_⟩
  · rw [selected_eq]
    exact Entries.keys_ofList declared
  · rw [← Entries.find?_ofList, ← selected_eq]
    exact Entries.find?_of_mem distinct member
  · rw [Document.generate, List.map_map]
    rfl
  · rw [Generation.texts, Document.generate, List.map_map]
    rfl

end ApiTypes
