import ApiTypes.Proofs.Document.DistinctKeys
import ApiTypes.Proofs.Generation.Exported
import Mathlib.Algebra.GroupWithZero.Nat

/-!
# Bodies behind one path

A name is put together from the method, the path and the place of the body, with nothing between
them. Names of different paths may therefore meet. Behind one path they do not: no method starts
the name of another one, so the method is known from the front of a name, and the place is what
is left behind the path.

## Main definitions

* `Suffix.IsDeclarable` — a place whose body may be declared
* `Operation.places` — the places of an operation whose bodies are declared
* `Operation.bodyCount` — how many bodies of an operation are declared

## Main results

* `Suffix.text_injective` — the end of a name tells the places apart
* `Method.eq_of_append_eq` — the start of a name tells the methods apart
* `PathItem.nodup_names` — the bodies behind one path have different names
* `Document.one_path_never_collides` — so they are all selected
-/

namespace ApiTypes

/-! ### The places -/

/-- A place whose body may be declared: that of a request, or of a response whose status starts
with `2`. -/
def Suffix.IsDeclarable : Suffix → Prop
  | .response status => status.toList.head? = some '2'
  | .requestBody => True

/-- The words for the statuses that have one are no status, and differ. -/
theorem statusText_injective {status other : String} (successful : status.toList.head? = some '2')
    (successful' : other.toList.head? = some '2') (same : statusText status = statusText other) :
    status = other := by
  have notOk : ∀ {text : String}, text.toList.head? = some '2' → text ≠ "Ok" := by
    rintro _ starts rfl
    simp at starts
  have notCreated : ∀ {text : String}, text.toList.head? = some '2' → text ≠ "Created" := by
    rintro _ starts rfl
    simp at starts
  unfold statusText at same
  split_ifs at same with ok ok' created' created ok' created'
  · rw [ok, ok']
  · simp at same
  · exact absurd same.symm (notOk successful')
  · simp at same
  · rw [created, created']
  · exact absurd same.symm (notCreated successful')
  · exact absurd same (notOk successful)
  · exact absurd same (notCreated successful)
  · exact same

/-- Different places end a name differently. -/
theorem Suffix.text_injective {place other : Suffix} (declarable : place.IsDeclarable)
    (declarable' : other.IsDeclarable) (same : place.text = other.text) : place = other := by
  -- the name of a response ends in an `e`, that of a request in a `y`
  have apart (status : String) : statusText status ++ "Response" ≠ "RequestBody" := by
    intro same
    have last := congrArg (·.toList.getLast?) same
    simp at last
  cases place with
  | requestBody =>
    cases other with
    | requestBody => rfl
    | response status => exact absurd same.symm (apart status)
  | response status =>
    cases other with
    | requestBody => exact absurd same (apart status)
    | response status' =>
      have words : statusText status = statusText status' := by
        have chars := congrArg String.toList same
        simp only [Suffix.text, String.toList_append] at chars
        exact String.toList_inj.mp (List.append_cancel_right chars)
      rw [statusText_injective declarable declarable' words]

/-! ### The methods -/

theorem Method.mem_all (method : Method) : method ∈ all := by
  cases method <;> decide

/-- The first three letters of a method tell it from the others. -/
theorem Method.take_three_injective :
    Function.Injective fun method : Method => (Text.pascalCase method.text).toList.take 3 := by
  have distinct : (all.map fun method => (Text.pascalCase method.text).toList.take 3).Nodup := by
    decide +kernel
  intro method other same
  exact List.inj_on_of_nodup_map distinct method.mem_all other.mem_all same

theorem Method.three_le_length (method : Method) :
    3 ≤ (Text.pascalCase method.text).toList.length := by
  have long : ∀ method ∈ all, 3 ≤ (Text.pascalCase method.text).toList.length := by
    decide +kernel
  exact long method method.mem_all

/-- A name starts with one method only. -/
theorem Method.eq_of_append_eq {method other : Method} {rest rest' : List Char}
    (same : (Text.pascalCase method.text).toList ++ rest =
      (Text.pascalCase other.text).toList ++ rest') : method = other := by
  apply take_three_injective
  have front := congrArg (List.take 3) same
  rwa [List.take_append_of_le_length method.three_le_length,
    List.take_append_of_le_length other.three_le_length] at front

/-- Behind one path, different methods or places have different names. -/
theorem declarationName_injective {template : String} {method other : Method}
    {place place' : Suffix} (declarable : place.IsDeclarable) (declarable' : place'.IsDeclarable)
    (same : declarationName template method place = declarationName template other place') :
    method = other ∧ place = place' := by
  have chars := congrArg String.toList same
  simp only [declarationName, String.toList_append, List.append_assoc] at chars
  obtain rfl := Method.eq_of_append_eq chars
  have texts : place.text = place'.text :=
    String.toList_inj.mp (List.append_cancel_left (List.append_cancel_left chars))
  exact ⟨rfl, Suffix.text_injective declarable declarable' texts⟩

/-! ### What is declared behind one path -/

/-- The places of the bodies that are declared: those of the responses whose status starts with
`2`, then that of the request, as far as a schema is found for them. -/
def Operation.places (op : Operation) : List Suffix :=
  ((op.responses.filter fun (status, _) => status.toList.head? = some '2').filter
      (·.2.jsonSchema.isSome)).map (.response ·.1) ++
    (op.requestBody.bind RequestBody.jsonSchema).toList.map fun _ => .requestBody

/-- How many bodies are declared: the responses whose status starts with `2` and that have a
schema for JSON, and the request if it has one. -/
def Operation.bodyCount (op : Operation) : Nat :=
  (op.responses.countP fun (status, response) =>
      status.toList.head? = some '2' ∧ response.jsonSchema.isSome) +
    (op.requestBody.bind RequestBody.jsonSchema).toList.length

/-- The keys of what has a value, each paired with its value. -/
theorem map_fst_filterMap {α β κ : Type} (key : α → κ) (value? : α → Option β) (list : List α) :
    (list.filterMap fun a => (value? a).map (key a, ·)).map Prod.fst =
      (list.filter fun a => (value? a).isSome).map key := by
  induction list with
  | nil => rfl
  | cons a rest ih =>
    cases found : value? a with
    | none => simp [found, ih]
    | some value => simp [found, ih]

namespace Operation

variable {op : Operation}

theorem map_fst_bodies (template : String) (method : Method) (op : Operation) :
    (op.bodies template method).map Prod.fst =
      op.places.map (declarationName template method) := by
  rw [bodies, places, List.map_append, List.map_append]
  congr 1
  · rw [List.map_map]
    exact map_fst_filterMap (fun entry : String × Response =>
      declarationName template method (.response entry.1)) (·.2.jsonSchema) _
  · rw [List.map_map, List.map_map]
    rfl

theorem length_places (op : Operation) : op.places.length = op.bodyCount := by
  rw [places, bodyCount, List.length_append, List.length_map, List.length_map,
    List.filter_filter, List.countP_eq_length_filter]
  congr 3
  funext (status, response)
  simp [Bool.and_comm]

theorem isDeclarable_of_mem_places {place : Suffix} (among : place ∈ op.places) :
    place.IsDeclarable := by
  rcases List.mem_append.mp among with response | request
  · obtain ⟨entry, kept, rfl⟩ := List.mem_map.mp response
    have successful := (List.mem_filter.mp (List.mem_filter.mp kept).1).2
    exact of_decide_eq_true (p := entry.1.toList.head? = some '2') successful
  · obtain ⟨schema, -, rfl⟩ := List.mem_map.mp request
    trivial

theorem nodup_places (distinct : (op.responses.map Prod.fst).Nodup) : op.places.Nodup := by
  have responses : ((op.responses.map Prod.fst).map Suffix.response).Nodup :=
    distinct.map fun _ _ same => Suffix.response.inj same
  rw [List.map_map] at responses
  refine List.nodup_append.mpr ⟨?_, ?_, ?_⟩
  · exact responses.sublist ((List.filter_sublist.trans List.filter_sublist).map _)
  · cases op.requestBody.bind RequestBody.jsonSchema <;> simp
  · -- a request is no response
    intro place inResponses other inRequest same
    obtain ⟨entry, -, rfl⟩ := List.mem_map.mp inResponses
    obtain ⟨schema, -, rfl⟩ := List.mem_map.mp inRequest
    cases same

end Operation

/-- The names of the bodies behind a path are all different. -/
theorem PathItem.nodup_names {item : PathItem} (distinct : item.HasDistinctKeys)
    (template : String) :
    ((item.flatMap fun (method, op) => op.bodies template method).map Prod.fst).Nodup := by
  rw [List.map_flatMap]
  refine List.pairwise_flatMap.mpr ⟨fun entry among => ?_, ?_⟩
  · -- within one operation the places differ
    rw [Operation.map_fst_bodies]
    refine (Operation.nodup_places (distinct.statuses entry among)).map_on ?_
    intro place inside other inside' same
    exact (declarationName_injective (Operation.isDeclarable_of_mem_places inside)
      (Operation.isDeclarable_of_mem_places inside') same).2
  · -- two operations have different methods
    refine (List.pairwise_map.mp distinct.methods).imp ?_
    intro entry entry' apart name inside name' inside' same
    rw [Operation.map_fst_bodies] at inside inside'
    obtain ⟨place, among, rfl⟩ := List.mem_map.mp inside
    obtain ⟨place', among', rfl⟩ := List.mem_map.mp inside'
    exact apart (declarationName_injective (Operation.isDeclarable_of_mem_places among)
      (Operation.isDeclarable_of_mem_places among') same).1

theorem PathItem.length_bodies (template : String) (item : PathItem) :
    (item.flatMap fun (method, op) => op.bodies template method).length =
      (item.map (·.2.bodyCount)).sum := by
  rw [List.length_flatMap]
  congr 1
  refine List.map_congr_left fun entry _ => ?_
  rw [← Operation.length_places, ← List.length_map (f := Prod.fst), Operation.map_fst_bodies,
    List.length_map]

/-- Behind one path, the name of a body that may be declared tells its method and its place. So of
a document with one path and no named schemas, every body that may be declared is selected on its
own, unless paths are not wanted or this one is dropped. Nothing must be described twice, and in a
document that was loaded nothing is. -/
theorem Document.one_path_never_collides (template : String) :
    (∀ (method other : Method) (place place' : Suffix), place.IsDeclarable → place'.IsDeclarable →
      declarationName template method place = declarationName template other place' →
        method = other ∧ place = place') ∧
      (∀ (document : Document) (item : PathItem), document.HasDistinctKeys →
        document.paths = [(template, item)] → document.schemas = [] → ∀ settings : Settings,
          (document.select settings).entries.length =
            if settings.paths.isEnabled ∧ settings.paths.retains template then
              (item.map (·.2.bodyCount)).sum
            else 0) ∧
        ∀ (text : String) (document : Document), Document.load text = .ok document →
          document.HasDistinctKeys := by
  refine ⟨fun _ _ _ _ declarable declarable' => declarationName_injective declarable declarable',
    fun document item distinct paths schemas settings => ?_, fun _ _ => hasDistinctKeys_of_load⟩
  have distinctItem : item.HasDistinctKeys :=
    distinct.items (template, item) (by rw [paths]; exact List.mem_cons_self)
  have declarable : document.declarable settings =
      if settings.paths.isEnabled ∧ settings.paths.retains template then
        item.flatMap fun (method, op) => op.bodies template method
      else [] := by
    rw [Document.declarable, paths, schemas, ite_self, List.nil_append]
    cases settings.paths.isEnabled <;> cases retained : settings.paths.retains template <;>
      simp [retained]
  rw [Document.length_select, declarable]
  split_ifs
  · rw [List.toFinset_card_of_nodup (item.nodup_names distinctItem template), List.length_map,
      item.length_bodies template]
  · rfl

/-- A text with one path. Its tokens and their tree are found by evaluation, and the value of the
tree level by level. -/
theorem Yaml.parseJson_of_pets :
    Yaml.parseJson "paths:\n /pets:\n  get: []\n  put: []" =
      some (.object [("paths", .object [("/pets", .object [("get", .array []),
        ("put", .array [])])])]) := by
  have tokens : Yaml.scanTokens "paths:\n /pets:\n  get: []\n  put: []".toList =
      some [.blockMappingStart, .key, .scalar .plain "paths", .value,
        .blockMappingStart, .key, .scalar .plain "/pets", .value,
        .blockMappingStart, .key, .scalar .plain "get", .value, .flowSequenceStart,
        .flowSequenceEnd, .key, .scalar .plain "put", .value, .flowSequenceStart, .flowSequenceEnd,
        .blockEnd, .blockEnd, .blockEnd] := by
    decide +kernel
  have tree : Yaml.Node.parse "paths:\n /pets:\n  get: []\n  put: []" =
      some (some (.mapping {} [(.scalar {} .plain "paths", .mapping {} [(.scalar {} .plain "/pets",
        .mapping {} [(.scalar {} .plain "get", .sequence {} []),
          (.scalar {} .plain "put", .sequence {} [])])])])) := by
    rw [Yaml.Node.parse, tokens]
    rfl
  have key (text : String) : Yaml.Node.keyText (.scalar {} .plain text) = pure text := rfl
  have sequence (depth : Nat) :
      Yaml.Node.toJson (depth + 1) (.sequence {} []) = pure (.array []) := by
    rw [Yaml.Node.toJson]
    rfl
  have mapping (depth : Nat) (entries : List (Yaml.Node × Yaml.Node)) :
      Yaml.Node.toJson (depth + 1) (.mapping {} entries) =
        (do return .object (Entries.ofList (← entries.mapM fun entry => do
          let name ← entry.1.keyText
          return (name, ← Yaml.Node.toJson depth entry.2)))) := by
    rw [Yaml.Node.toJson]
    rfl
  rw [Yaml.parseJson, tree]
  change StateT.run' (Yaml.Node.toJson 128 _) _ = _
  simp only [mapping, sequence, key, List.mapM_cons, List.mapM_nil, pure_bind]
  rfl

/-- Two methods whose names start alike, a status with a word and others without, and bodies that
do not count: four are left. -/
theorem Document.one_path_never_collides_of_pets :
    let content : Content := [("text/html", none), ("application/json", some (.unsupported none))]
    let item : PathItem :=
      [(.post, ⟨some ⟨content⟩,
          [("201", ⟨some content⟩), ("204", ⟨none⟩), ("404", ⟨some content⟩)]⟩),
        (.put, ⟨none, [("2XX", ⟨some content⟩), ("200", ⟨some content⟩), ("202", ⟨some []⟩)]⟩)]
    let document : Document := ⟨none, [("/pets", item)], []⟩
    let settings : Settings := ⟨.all, true, .bare⟩
    let loaded : Document := ⟨none, [("/pets", [(.get, ⟨none, []⟩), (.put, ⟨none, []⟩)])], []⟩
    document.HasDistinctKeys ∧ (document.select settings).entries.length = 4 ∧
      declarationName "/pets" .put (.response "2XX") ≠ declarationName "/pets" .put .requestBody ∧
      Document.load "paths:\n /pets:\n  get: []\n  put: []" = .ok loaded ∧
      loaded.HasDistinctKeys := by
  intro content item document settings loaded
  obtain ⟨injective, counts, distinct⟩ := one_path_never_collides "/pets"
  have distinctKeys : document.HasDistinctKeys := by
    refine ⟨?_, List.forall_mem_singleton.mpr ⟨?_, ?_⟩, ?_⟩ <;> decide
  have isLoaded : Document.load "paths:\n /pets:\n  get: []\n  put: []" = .ok loaded := by
    rw [Document.load, Yaml.parseJson_of_pets]
    rfl
  refine ⟨distinctKeys, ?_, fun same => ?_, isLoaded, distinct _ loaded isLoaded⟩
  · rw [counts document item distinctKeys rfl rfl settings]
    decide
  · have declarable : (Suffix.response "2XX").IsDeclarable := rfl
    have together := injective .put .put (.response "2XX") .requestBody declarable trivial same
    cases together.2

end ApiTypes
