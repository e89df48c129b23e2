import ApiTypes.Proofs.Declaration.RootProperties
import ApiTypes.Proofs.Schema.Classified
import Mathlib.Logic.Relation

/-!
# The nodes of a schema

Rendering relies on what sorting guarantees, and meets schemas at any depth: in branches,
properties, items and additional properties, and in the objects that combinations and enumerations
keep beside them. None of these nodes escapes the guarantees.

## Main definitions

* `Schema.shape?` — the object that is kept beside a combination or an enumeration
* `Schema.children`, `Schema.HasNode` — the nodes of a schema
* `Schema.IsSorted` — what sorting guarantees of a single node

## Main results

* `Schema.Classified.of_hasNode` — the guarantees reach every node
* `Schema.Written.classify_beside` — what else is written beside a combination or an enumeration
  leaves no trace
* `Schema.nodes_sorted_of_decode` — all nodes of a decoded schema are sorted
-/

namespace ApiTypes.Schema

/-- The object that is kept beside a combination or an enumeration. -/
def shape? : Schema → Option Schema
  | combination _ _ beside | enumeration _ beside => beside.map (object · none false)
  | _ => none

/-- The nodes right inside a schema. -/
def children : Schema → List Schema
  | combination op branches beside => branches ++ (combination op branches beside).shape?.toList
  | enumeration values beside => (enumeration values beside).shape?.toList
  | object properties additional _ => properties.entries.map Prod.snd ++ additional.toList
  | array items _ => items.toList
  | primitive _ _ | unsupported _ => []

/-- The node is the schema itself, or is found inside it, however deep. -/
def HasNode : Schema → Schema → Prop :=
  Relation.ReflTransGen fun schema child => child ∈ schema.children

/-- An object that may stand beside a combination or an enumeration: it declares a property, and
says nothing else. The latter holds of every `shape?`, which is made from a `PropertySet`. -/
def IsShape : Schema → Prop
  | object properties additional isNullable =>
    properties.entries ≠ [] ∧ additional = none ∧ isNullable = false
  | _ => False

/-- What sorting guarantees of one node: a combination has a branch and an enumeration a value, the
object beside them is a shape, additional properties are not left open in two ways, and a type that
is not understood is none of those that are. -/
def IsSorted (node : Schema) : Prop :=
  (∀ shape ∈ node.shape?, shape.IsShape) ∧
    match node with
    | combination _ branches _ => branches ≠ []
    | enumeration values _ => values ≠ []
    | object _ additional _ => ∀ schema ∈ additional, schema ≠ unsupported none
    | unsupported type =>
      ∀ text ∈ type, text ∉ ["string", "integer", "number", "boolean", "object", "array"]
    | primitive _ _ | array _ _ => True

namespace Classified

variable {schema : Schema}

theorem of_mem_shape? (classified : schema.Classified) {shape : Schema}
    (kept : shape ∈ schema.shape?) : shape.Classified ∧ shape.IsShape := by
  cases classified with
  | combination _ _ declares eachBeside =>
    obtain ⟨properties, beside, rfl⟩ := Option.map_eq_some_iff.mp kept
    exact ⟨.object (eachBeside properties beside) (by simp) (by simp),
      declares properties beside, rfl, rfl⟩
  | enumeration _ declares eachBeside =>
    obtain ⟨properties, beside, rfl⟩ := Option.map_eq_some_iff.mp kept
    exact ⟨.object (eachBeside properties beside) (by simp) (by simp),
      declares properties beside, rfl, rfl⟩
  | object | primitive | array | unsupported => simp [shape?] at kept

theorem of_mem_children (classified : schema.Classified) {child : Schema}
    (inside : child ∈ schema.children) : child.Classified := by
  cases classified with
  | combination nonempty each declares eachBeside =>
    rcases List.mem_append.mp inside with branch | kept
    · exact each child branch
    · exact ((Classified.combination nonempty each declares eachBeside).of_mem_shape?
        (Option.mem_toList.mp kept)).1
  | enumeration nonempty declares eachBeside =>
    exact ((Classified.enumeration nonempty declares eachBeside).of_mem_shape?
      (Option.mem_toList.mp inside)).1
  | object each _ eachAdditional =>
    rcases List.mem_append.mp inside with property | additional
    · obtain ⟨entry, among, rfl⟩ := List.mem_map.mp property
      exact each entry among
    · exact eachAdditional child (Option.mem_toList.mp additional)
  | array each => exact each child (Option.mem_toList.mp inside)
  | primitive | unsupported => simp [children] at inside

/-- The guarantees reach every node. -/
theorem of_hasNode (classified : schema.Classified) {node : Schema} (inside : schema.HasNode node) :
    node.Classified := by
  induction inside with
  | refl => exact classified
  | tail _ child ih => exact ih.of_mem_children child

theorem isSorted (classified : schema.Classified) : schema.IsSorted := by
  refine ⟨fun shape kept => (classified.of_mem_shape? kept).2, ?_⟩
  cases classified with
  | combination nonempty => exact nonempty
  | enumeration nonempty => exact nonempty
  | object _ telling => exact telling
  | unsupported unknown =>
    intro text same among
    exact unknown text same (by simpa [understoodTypes, or_comm] using among)
  | primitive | array => trivial

end Classified

/-- A combination with a branch or an enumeration with a value keeps nothing of what is said about
additional properties and null. -/
theorem Written.classify_beside {w : Written}
    (sorted : w.combination?.isSome ∨ ∃ value values, w.values = some (value :: values))
    (additional : Option Additional) (isNullable : Bool) :
    ({ w with additional, isNullable } : Written).classify = w.classify := by
  unfold classify
  have combination : ({ w with additional, isNullable } : Written).combination? = w.combination? :=
    rfl
  have shape : ({ w with additional, isNullable } : Written).shape = w.shape := rfl
  rw [combination, shape]
  cases chosen : w.combination? with
  | some pair => rfl
  | none =>
    obtain ⟨value, values, listed⟩ := sorted.resolve_left (by simp [chosen])
    simp only [listed]

/-- All nodes of a decoded schema are sorted, the objects beside combinations and enumerations
among them; nothing but properties gets from the keywords of such a schema into these objects.

That these objects have no additional properties and do not admit `null` is no more than their type
says. What the decoder does about it is in the second part: beside a combination or an enumeration
it takes no account of `additionalProperties` and `nullable`, so that neither of them could have
got into the object. -/
theorem nodes_sorted_of_decode {value : Json} {schema : Schema}
    (decoded : decode value = .ok schema) :
    (∀ node, schema.HasNode node → node.IsSorted) ∧
      ∀ w, Written.ofJson value = .ok w →
        (w.combination?.isSome ∨ ∃ value values, w.values = some (value :: values)) →
          ∀ additional isNullable,
            ({ w with additional, isNullable } : Written).classify = schema := by
  refine ⟨fun node inside => ((classified_of_decode decoded).of_hasNode inside).isSorted,
    fun w read sorted additional isNullable => ?_⟩
  rw [Written.decode_eq_classify, read] at decoded
  rw [Written.classify_beside sorted]
  exact Except.ok.inj decoded

/-- An enumeration with properties in a combination with properties: a property of either is a node,
and what else is written beside the combination does not count. -/
theorem nodes_sorted_of_pet :
    let tag : Json := .object [("type", .array [.string "string", .string "object"])]
    let branch : Json := .object [("enum", .array [.null]), ("nullable", .bool true),
      ("properties", .object [("tag", tag)])]
    let value : Json := .object [("nullable", .bool true), ("oneOf", .array [branch]),
      ("additionalProperties", .object [("type", .string "string")]),
      ("properties", .object [("rest", .object [("additionalProperties", .object [])])])]
    let schema : Schema := .combination .oneOf
      [.enumeration [.null] (some ⟨[("tag", .unsupported (some "string, object"))], []⟩)]
      (some ⟨[("rest", .unsupported none)], []⟩)
    let w : Written :=
      { isNullable := true, additional := some (.schema (.primitive .string false))
        properties := some [("rest", .unsupported none)]
        oneOf := some [.enumeration [.null]
          (some ⟨[("tag", .unsupported (some "string, object"))], []⟩)] }
    (decode value = .ok schema ∧ schema.HasNode (.unsupported (some "string, object")) ∧
        Written.ofJson value = .ok w ∧ w.combination?.isSome) ∧
      IsSorted (.unsupported (some "string, object")) ∧
        ({ w with additional := none, isNullable := false } : Written).classify = schema := by
  intro tag branch value schema w
  have decoded : decode value = .ok schema := rfl
  have inside : schema.HasNode (.unsupported (some "string, object")) := by
    refine .tail (.tail (.single (List.mem_cons_self ..)) (List.mem_cons_self ..)) ?_
    exact List.mem_cons_self ..
  have read : Written.ofJson value = .ok w := rfl
  have sorted : w.combination?.isSome := rfl
  obtain ⟨nodes, beside⟩ := nodes_sorted_of_decode decoded
  exact ⟨⟨decoded, inside, read, sorted⟩, nodes _ inside, beside w read (.inl sorted) _ _⟩

end ApiTypes.Schema
