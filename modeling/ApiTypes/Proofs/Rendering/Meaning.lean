import ApiTypes.Proofs.Rendering.Diagnostics

/-!
# What rendered types mean

A schema and a type each describe JSON values. The type that is rendered for a schema describes
the same values, unless something was left out; unless an enumeration lists arrays or objects,
which are written as their text; and unless an object has declared properties and a schema for
additional ones, since its type then asks for both of every value.

## Main definitions

* `Json.ConformsTo` — the values that a schema describes
* `Json.Inhabits` — the values that a type describes
* `Schema.ListsScalars`, `Schema.Mixes` — the exceptions

## Main results

* `Schema.inhabits_iff_conformsTo_of_render` — every value of the rendered type conforms to the
  schema, and every value that conforms to the schema is of the rendered type
-/

namespace ApiTypes

/-- The value is neither an array nor an object. -/
def Json.IsScalar : Json → Prop
  | .array _ | .object _ => False
  | _ => True

/-! ### The values of a schema -/

/-- The value is a plain value of the type. Every number counts as an integer. -/
def Primitive.Admits : Primitive → Json → Prop
  | string, .string _ => True
  | integer, .number _ | number, .number _ => True
  | boolean, .bool _ => True
  | _, _ => False

/-- The value is one that the schema describes. Additional properties are asked for only if none
is declared. -/
inductive Json.ConformsTo : Json → Schema → Prop
  | primitive {value : Json} {type : Primitive} {isNullable : Bool} (admitted : type.Admits value) :
      ConformsTo value (.primitive type isNullable)
  | nullPrimitive {type : Primitive} : ConformsTo .null (.primitive type true)
  | enumeration {value : Json} {values : List Json} {beside : Option (PropertySet Schema)}
      (listed : value ∈ values) : ConformsTo value (.enumeration values beside)
  | some {value : Json} {op : Combinator} {branches : List Schema}
      {beside : Option (PropertySet Schema)} {branch : Schema} (alternatives : op ≠ .allOf)
      (among : branch ∈ branches) (conforms : ConformsTo value branch) :
      ConformsTo value (.combination op branches beside)
  | all {value : Json} {branches : List Schema} {beside : Option (PropertySet Schema)}
      (each : ∀ branch ∈ branches, ConformsTo value branch) :
      ConformsTo value (.combination .allOf branches beside)
  | array {elements : List Json} {items : Schema} {isNullable : Bool}
      (each : ∀ element ∈ elements, ConformsTo element items) :
      ConformsTo (.array elements) (.array (some items) isNullable)
  | nullArray {items : Option Schema} : ConformsTo .null (.array items true)
  | object {entries : Entries Json} {properties : PropertySet Schema} {additional : Option Schema}
      {isNullable : Bool}
      (present : ∀ property ∈ properties.entries, properties.isRequired property.1 = true →
        ∃ entry ∈ entries, entry.1 = property.1)
      (each : ∀ property ∈ properties.entries, ∀ entry ∈ entries, entry.1 = property.1 →
        ConformsTo entry.2 property.2)
      (others : properties.entries = [] → ∀ schema ∈ additional, ∀ entry ∈ entries,
        ConformsTo entry.2 schema) :
      ConformsTo (.object entries) (.object properties additional isNullable)
  | nullObject {properties : PropertySet Schema} {additional : Option Schema} :
      ConformsTo .null (.object properties additional true)

/-! ### The values of a type -/

/-- The value is of the type that the word names. Some words name types that no JSON value is of,
such as `bigint` and `undefined`. -/
def Keyword.Admits : Keyword → Json → Prop
  | string, .string _ => True
  | number, .number _ => True
  | boolean, .bool _ => True
  | null, .null => True
  | object, .array _ | object, .object _ => True
  | unknown, _ | any, _ => True
  | _, _ => False

/-- The value that a literal stands for. -/
def Literal.json : Literal → Json
  | string text => .string text
  | number value => .number value
  | bool value => .bool value

/-- The name that a key stands for. -/
def Key.name : Key → String
  | identifier name => name
  | quoted text => text

@[simp] theorem Key.name_ofName (name : String) : (Key.ofName name).name = name := by
  unfold Key.ofName
  split <;> rfl

/-- The value is one that the type describes, by its structure. -/
inductive Json.Inhabits : Json → TypeExpr → Prop
  | keyword {value : Json} {word : Keyword} (admitted : word.Admits value) :
      Inhabits value (.keyword word)
  | literal (literal : Literal) : Inhabits literal.json (.literal literal)
  | union {value : Json} {members : List TypeExpr} {type : TypeExpr} (among : type ∈ members)
      (inhabits : Inhabits value type) : Inhabits value (.union members)
  | intersection {value : Json} {members : List TypeExpr}
      (each : ∀ type ∈ members, Inhabits value type) : Inhabits value (.intersection members)
  | array {elements : List Json} {type : TypeExpr}
      (each : ∀ element ∈ elements, Inhabits element type) :
      Inhabits (.array elements) (.array type)
  | paren {value : Json} {type : TypeExpr} (inhabits : Inhabits value type) :
      Inhabits value (.paren type)
  | null {name : String} {type : TypeExpr} (named : name = "Nullable") :
      Inhabits .null (.generic name [type])
  | nullable {value : Json} {name : String} {type : TypeExpr} (named : name = "Nullable")
      (inhabits : Inhabits value type) : Inhabits value (.generic name [type])
  | record {entries : Entries Json} {name : String} {type : TypeExpr} (named : name = "Record")
      (each : ∀ entry ∈ entries, Inhabits entry.2 type) :
      Inhabits (.object entries) (.generic name [.keyword .string, type])
  | object {entries : Entries Json} {members : List (Member TypeExpr)}
      (present : ∀ member ∈ members, member.optional = false →
        ∃ entry ∈ entries, entry.1 = member.key.name)
      (each : ∀ member ∈ members, ∀ entry ∈ entries, entry.1 = member.key.name →
        Inhabits entry.2 member.type) :
      Inhabits (.object entries) (.object members)

namespace Json

variable {value : Json}

theorem inhabits_keyword {word : Keyword} : value.Inhabits (.keyword word) ↔ word.Admits value :=
  ⟨fun | .keyword admitted => admitted, .keyword⟩

theorem inhabits_union {members : List TypeExpr} :
    value.Inhabits (.union members) ↔ ∃ type ∈ members, value.Inhabits type :=
  ⟨fun | .union among inhabits => ⟨_, among, inhabits⟩,
    fun ⟨_, among, inhabits⟩ => .union among inhabits⟩

theorem inhabits_paren {type : TypeExpr} : value.Inhabits (.paren type) ↔ value.Inhabits type :=
  ⟨fun | .paren inhabits => inhabits, .paren⟩

theorem inhabits_intersection {members : List TypeExpr} :
    value.Inhabits (.intersection members) ↔ ∀ type ∈ members, value.Inhabits type :=
  ⟨fun | .intersection each => each, .intersection⟩

theorem inhabits_intersectionOf {members : List TypeExpr} :
    value.Inhabits (.intersectionOf members) ↔ ∀ type ∈ members, value.Inhabits type := by
  have same (type : TypeExpr) :
      value.Inhabits (if type.isWideUnion then .paren type else type) ↔ value.Inhabits type := by
    split
    · exact inhabits_paren
    · rfl
  rw [TypeExpr.intersectionOf, inhabits_intersection, List.forall_mem_map]
  exact forall₂_congr fun type _ => same type

theorem inhabits_arrayOf {type : TypeExpr} : value.Inhabits (.arrayOf type) ↔
    ∃ elements, value = .array elements ∧ ∀ element ∈ elements, element.Inhabits type := by
  have same (element : Json) :
      element.Inhabits (if type.isCombination then .paren type else type) ↔
        element.Inhabits type := by
    split
    · exact inhabits_paren
    · rfl
  constructor
  · rintro (_ | _ | _ | _ | each)
    exact ⟨_, rfl, fun element among => (same element).mp (each element among)⟩
  · rintro ⟨elements, rfl, each⟩
    exact .array fun element among => (same element).mpr (each element among)

theorem inhabits_nullable {type : TypeExpr} {isNullable : Bool} :
    value.Inhabits (type.nullable isNullable) ↔
      (isNullable = true ∧ value = .null) ∨ value.Inhabits type := by
  cases isNullable with
  | false => simp [TypeExpr.nullable]
  | true =>
    constructor
    · rintro (_ | _ | _ | _ | _ | _ | _ | ⟨-, inhabits⟩)
      · exact .inl ⟨rfl, rfl⟩
      · exact .inr inhabits
    · rintro (⟨-, rfl⟩ | inhabits)
      · exact .null rfl
      · exact .nullable rfl inhabits

theorem inhabits_record {type : TypeExpr} : value.Inhabits (.record type) ↔
    ∃ entries, value = .object entries ∧ ∀ entry ∈ entries, entry.2.Inhabits type := by
  constructor
  · rintro (_ | _ | _ | _ | _ | _ | _ | _ | ⟨-, each⟩)
    exact ⟨_, rfl, each⟩
  · rintro ⟨entries, rfl, each⟩
    exact .record rfl each

theorem inhabits_object {members : List (Member TypeExpr)} : value.Inhabits (.object members) ↔
    ∃ entries, value = .object entries ∧
      (∀ member ∈ members, member.optional = false → ∃ entry ∈ entries, entry.1 = member.key.name) ∧
      ∀ member ∈ members, ∀ entry ∈ entries, entry.1 = member.key.name →
        entry.2.Inhabits member.type :=
  ⟨fun | .object present each => ⟨_, rfl, present, each⟩,
    fun ⟨_, same, present, each⟩ => same ▸ .object present each⟩

theorem inhabits_ofJson {listed : Json} (scalar : listed.IsScalar) :
    value.Inhabits (.ofJson listed) ↔ value = listed := by
  have literal (literal : Literal) : value.Inhabits (.literal literal) ↔ value = literal.json :=
    ⟨fun | .literal _ => rfl, fun same => same ▸ .literal literal⟩
  cases listed with
  | null =>
    refine inhabits_keyword.trans ?_
    cases value <;> simp [Keyword.Admits]
  | bool b => exact literal (.bool b)
  | number n => exact literal (.number n)
  | string s => exact literal (.string s)
  | array | object => exact scalar.elim

theorem admits_typeExpr {type : Primitive} :
    value.Inhabits type.typeExpr ↔ type.Admits value := by
  cases type <;> refine inhabits_keyword.trans ?_ <;> cases value <;> rfl

end Json

/-! ### Some or all -/

/-- The property holds of all that is joined, or of some of it. -/
def Combinator.Asks (op : Combinator) {α : Type} (P : α → Prop) (list : List α) : Prop :=
  match op with
  | oneOf | anyOf => ∃ a ∈ list, P a
  | allOf => ∀ a ∈ list, P a

theorem Combinator.Asks.transfer {op : Combinator} {α β : Type} {P : α → Prop} {Q : β → Prop}
    {list : List α} {list' : List β} (left : ∀ a ∈ list, ∃ b ∈ list', P a → Q b)
    (right : ∀ b ∈ list', ∃ a ∈ list, P a → Q b) (asks : op.Asks P list) : op.Asks Q list' := by
  cases op with
  | oneOf | anyOf =>
    obtain ⟨a, among, holds⟩ := asks
    obtain ⟨b, among', transfer⟩ := left a among
    exact ⟨b, among', transfer holds⟩
  | allOf =>
    intro b among'
    obtain ⟨a, among, transfer⟩ := right b among'
    exact transfer (asks a among)

theorem Json.inhabits_join {value : Json} {op : Combinator} {types : List TypeExpr} :
    value.Inhabits (op.join types) ↔ op.Asks value.Inhabits types := by
  cases op with
  | oneOf | anyOf => exact inhabits_union
  | allOf => exact inhabits_intersectionOf

theorem Json.conformsTo_combination {value : Json} {op : Combinator} {branches : List Schema}
    {beside : Option (PropertySet Schema)} :
    value.ConformsTo (.combination op branches beside) ↔ op.Asks value.ConformsTo branches := by
  cases op with
  | oneOf | anyOf =>
    exact ⟨fun | .some _ among conforms => ⟨_, among, conforms⟩,
      fun ⟨_, among, conforms⟩ => .some (by simp) among conforms⟩
  | allOf => exact ⟨fun | .some differs _ _ => absurd rfl differs | .all each => each, .all⟩

/-- The required properties are among the entries, and those that are conform to their schemas. -/
structure PropertySet.Describes (properties : PropertySet Schema) (entries : Entries Json) :
    Prop where
  present : ∀ property ∈ properties.entries, properties.isRequired property.1 = true →
    ∃ entry ∈ entries, entry.1 = property.1
  each : ∀ property ∈ properties.entries, ∀ entry ∈ entries, entry.1 = property.1 →
    entry.2.ConformsTo property.2

theorem Json.conformsTo_object {value : Json} {properties : PropertySet Schema}
    {additional : Option Schema} {isNullable : Bool} :
    value.ConformsTo (.object properties additional isNullable) ↔
      (isNullable = true ∧ value = .null) ∨ ∃ entries, value = .object entries ∧
        properties.Describes entries ∧ (properties.entries = [] →
          ∀ schema ∈ additional, ∀ entry ∈ entries, entry.2.ConformsTo schema) := by
  constructor
  · rintro (_ | _ | _ | _ | _ | _ | _ | ⟨present, each, others⟩ | _)
    · exact .inr ⟨_, rfl, ⟨present, each⟩, others⟩
    · exact .inl ⟨rfl, rfl⟩
  · rintro (⟨rfl, rfl⟩ | ⟨entries, rfl, ⟨present, each⟩, others⟩)
    · exact .nullObject
    · exact .object present each others

namespace Schema

/-- Nothing but scalars is listed, if the schema is an enumeration. -/
def ListsScalars : Schema → Prop
  | enumeration values _ => ∀ value ∈ values, value.IsScalar
  | _ => True

/-- The schema has declared properties and a schema for additional ones. -/
def Mixes : Schema → Prop
  | object properties additional _ => properties.entries ≠ [] ∧ additional.isSome
  | _ => False

/-- Every value of the type conforms to the schema, and under the condition the type has all the
values that do. -/
structure Matches (condition : Prop) (schema : Schema) (type : TypeExpr) : Prop where
  sound : ∀ value : Json, value.Inhabits type → value.ConformsTo schema
  complete : condition → ∀ value : Json, value.ConformsTo schema → value.Inhabits type

namespace Matches

variable {condition : Prop} {type : TypeExpr} {isNullable : Bool}

theorem mono {condition' : Prop} {schema : Schema} (weaker : condition → condition')
    (same : Matches condition' schema type) : Matches condition schema type :=
  ⟨same.sound, fun holds => same.complete (weaker holds)⟩

theorem of_iff {schema : Schema}
    (same : ∀ value : Json, value.Inhabits type ↔ value.ConformsTo schema) :
    Matches condition schema type :=
  ⟨fun value => (same value).mp, fun _ value => (same value).mpr⟩

theorem combination {op : Combinator} {branches : List Schema} {types : List TypeExpr}
    {beside : Option (PropertySet Schema)} {typeOf : Schema × Nat → Option TypeExpr}
    (all : types.map some = branches.zipIdx.map typeOf)
    (matched : ∀ branch ∈ branches.zipIdx, ∀ type, typeOf branch = some type →
      Matches condition branch.1 type) :
    Matches condition (.combination op branches beside) (.paren (op.join types)) := by
  obtain ⟨ofBranch, ofType⟩ := exists_of_map_some_eq all
  have each : ∀ branch ∈ branches, ∃ type ∈ types, Matches condition branch type := by
    intro branch among
    rw [← List.zipIdx_map_fst 0 branches] at among
    obtain ⟨indexed, inside, rfl⟩ := List.mem_map.mp among
    obtain ⟨type, among', typed⟩ := ofBranch indexed inside
    exact ⟨type, among', matched indexed inside type typed⟩
  have each' : ∀ type ∈ types, ∃ branch ∈ branches, Matches condition branch type := by
    intro type among
    obtain ⟨indexed, inside, typed⟩ := ofType type among
    exact ⟨indexed.1, List.fst_mem_of_mem_zipIdx inside, matched indexed inside type typed⟩
  constructor
  · intro value inhabits
    rw [Json.inhabits_paren, Json.inhabits_join] at inhabits
    refine Json.conformsTo_combination.mpr (inhabits.transfer (fun type among => ?_) ?_)
    · exact (each' type among).imp fun _ => .imp_right fun same => same.sound value
    · intro branch among
      exact (each branch among).imp fun _ => .imp_right fun same => same.sound value
  · intro holds value conforms
    rw [Json.conformsTo_combination] at conforms
    rw [Json.inhabits_paren, Json.inhabits_join]
    refine conforms.transfer (fun branch among => ?_) fun type among => ?_
    · exact (each branch among).imp fun _ => .imp_right fun same => same.complete holds value
    · exact (each' type among).imp fun _ => .imp_right fun same => same.complete holds value

theorem enumeration {values : List Json} {beside : Option (PropertySet Schema)}
    (scalars : ∀ value ∈ values, value.IsScalar) :
    Matches condition (.enumeration values beside) (.union (values.map .ofJson)) := by
  refine of_iff fun value => Json.inhabits_union.trans ?_
  constructor
  · rintro ⟨type, among, inhabits⟩
    obtain ⟨listed, among', rfl⟩ := List.mem_map.mp among
    obtain rfl := (Json.inhabits_ofJson (scalars listed among')).mp inhabits
    exact .enumeration among'
  · rintro (_ | _ | listed)
    exact ⟨_, List.mem_map_of_mem listed, (Json.inhabits_ofJson (scalars value listed)).mpr rfl⟩

theorem primitive (plain : Primitive) :
    Matches condition (.primitive plain isNullable) (plain.typeExpr.nullable isNullable) := by
  refine of_iff fun value => Json.inhabits_nullable.trans ?_
  rw [Json.admits_typeExpr]
  constructor
  · rintro (⟨rfl, rfl⟩ | admitted)
    · exact .nullPrimitive
    · exact .primitive admitted
  · rintro (admitted | _)
    · exact .inr admitted
    · exact .inl ⟨rfl, rfl⟩

theorem array {items : Schema} (element : Matches condition items type) :
    Matches condition (.array (some items) isNullable)
      ((TypeExpr.arrayOf type).nullable isNullable) := by
  constructor
  · intro value inhabits
    rcases Json.inhabits_nullable.mp inhabits with ⟨rfl, rfl⟩ | inhabits
    · exact .nullArray
    · obtain ⟨elements, rfl, each⟩ := Json.inhabits_arrayOf.mp inhabits
      exact .array fun item among => element.sound item (each item among)
  · intro holds value conforms
    refine Json.inhabits_nullable.mpr ?_
    cases conforms with
    | array each =>
      refine .inr (Json.inhabits_arrayOf.mpr ⟨_, rfl, fun item among => ?_⟩)
      exact element.complete holds item (each item among)
    | nullArray => exact .inl ⟨rfl, rfl⟩

theorem inhabits_rest {value : Json} {rest : Option TypeExpr} :
    value.Inhabits ((rest.map TypeExpr.record).getD (.record (.keyword .unknown))) ↔
      ∃ entries, value = .object entries ∧
        ∀ type ∈ rest, ∀ entry ∈ entries, entry.2.Inhabits type := by
  cases rest with
  | none =>
    refine Json.inhabits_record.trans (exists_congr fun entries => and_congr_right fun _ => ?_)
    exact ⟨fun _ => by simp, fun _ entry _ => Json.inhabits_keyword.mpr trivial⟩
  | some type =>
    refine Json.inhabits_record.trans (exists_congr fun entries => and_congr_right fun _ => ?_)
    simp

/-- An object without declared properties. -/
theorem uniform {properties : PropertySet Schema} {additional : Option Schema}
    {rest : Option TypeExpr} (undeclared : properties.entries = [])
    (others : Option.Rel (Matches condition) additional rest) :
    Matches condition (.object properties additional isNullable)
      (((rest.map TypeExpr.record).getD (.record (.keyword .unknown))).nullable isNullable) := by
  constructor
  · intro value inhabits
    refine Json.conformsTo_object.mpr ((Json.inhabits_nullable.mp inhabits).imp_right ?_)
    intro inhabits
    obtain ⟨entries, rfl, each⟩ := inhabits_rest.mp inhabits
    refine ⟨entries, rfl, ⟨by simp [undeclared], by simp [undeclared]⟩, fun _ schema given => ?_⟩
    cases others with
    | none => simp at given
    | some same =>
      obtain rfl := Option.some.inj given
      exact fun entry inside => same.sound _ (each _ rfl entry inside)
  · intro holds value conforms
    refine Json.inhabits_nullable.mpr ((Json.conformsTo_object.mp conforms).imp_right ?_)
    rintro ⟨entries, rfl, -, each⟩
    refine inhabits_rest.mpr ⟨entries, rfl, fun type given => ?_⟩
    cases others with
    | none => simp at given
    | some same =>
      obtain rfl := Option.some.inj given
      exact fun entry inside => same.complete holds _ (each undeclared _ rfl entry inside)

section Object

variable {properties : PropertySet Schema} {members : List (Member TypeExpr)}
  {typeOf : String × Schema → Option TypeExpr}
  (all : members.map some = properties.entries.map fun property =>
    (typeOf property).map (Member.named property.1 (!properties.isRequired property.1)))
  (matched : ∀ property ∈ properties.entries, ∀ type, typeOf property = some type →
    Matches condition property.2 type)

include all matched

theorem describes_of_inhabits {value : Json} (inhabits : value.Inhabits (.object members)) :
    ∃ entries, value = .object entries ∧ properties.Describes entries := by
  obtain ⟨entries, rfl, present, eachEntry⟩ := Json.inhabits_object.mp inhabits
  have each : ∀ property ∈ properties.entries, ∃ type, Matches condition property.2 type ∧
      .named property.1 (!properties.isRequired property.1) type ∈ members := by
    intro property among
    obtain ⟨member, among', named⟩ := (exists_of_map_some_eq all).1 property among
    obtain ⟨type, typed, rfl⟩ := Option.map_eq_some_iff.mp named
    exact ⟨type, matched property among type typed, among'⟩
  refine ⟨entries, rfl, fun property among required => ?_,
    fun property among entry inside same => ?_⟩
  · obtain ⟨type, -, among'⟩ := each property among
    simpa [Member.named] using present _ among' (by simp [Member.named, required])
  · obtain ⟨type, element, among'⟩ := each property among
    exact element.sound _ (eachEntry _ among' entry inside (by simpa [Member.named] using same))

theorem inhabits_of_describes (holds : condition) {entries : Entries Json}
    (describes : properties.Describes entries) :
    (Json.object entries).Inhabits (.object members) := by
  have each : ∀ member ∈ members, ∃ property ∈ properties.entries, ∃ type,
      Matches condition property.2 type ∧
        member = .named property.1 (!properties.isRequired property.1) type := by
    intro member among
    obtain ⟨property, among', named⟩ := (exists_of_map_some_eq all).2 member among
    obtain ⟨type, typed, rfl⟩ := Option.map_eq_some_iff.mp named
    exact ⟨property, among', type, matched property among' type typed, rfl⟩
  refine Json.inhabits_object.mpr ⟨entries, rfl, fun member among necessary => ?_,
    fun member among entry inside same => ?_⟩
  · obtain ⟨property, among', type, -, rfl⟩ := each member among
    simpa [Member.named] using
      describes.present property among' (by simpa [Member.named] using necessary)
  · obtain ⟨property, among', type, element, rfl⟩ := each member among
    exact element.complete holds _
      (describes.each property among' entry inside (by simpa [Member.named] using same))

/-- An object with declared properties. Under the condition there are no additional ones. -/
theorem declared {additional : Option Schema} {rest : Option TypeExpr}
    (declares : properties.entries ≠ [])
    (others : Option.Rel (Matches condition) additional rest)
    (apart : condition → ¬ (Schema.object properties additional isNullable).Mixes) :
    Matches condition (.object properties additional isNullable)
      (objectType isNullable true members (rest.map .record)) := by
  constructor
  · intro value inhabits
    -- additional properties can only take values away from those of the body
    have inBody : value.Inhabits ((TypeExpr.object members).nullable isNullable) := by
      cases rest with
      | none => exact inhabits
      | some type => exact Json.inhabits_intersectionOf.mp inhabits _ List.mem_cons_self
    refine Json.conformsTo_object.mpr ((Json.inhabits_nullable.mp inBody).imp_right ?_)
    intro inhabits
    obtain ⟨entries, rfl, describes⟩ := describes_of_inhabits all matched inhabits
    exact ⟨entries, rfl, describes, fun none => absurd none declares⟩
  · intro holds value conforms
    -- and under the condition there are none
    cases others with
    | some _ => exact absurd ⟨declares, rfl⟩ (apart holds)
    | none =>
      refine Json.inhabits_nullable.mpr ((Json.conformsTo_object.mp conforms).imp_right ?_)
      rintro ⟨entries, rfl, describes, -⟩
      exact inhabits_of_describes all matched holds describes

theorem object {additional : Option Schema} {rest : Option TypeExpr}
    (others : Option.Rel (Matches condition) additional rest)
    (apart : condition → ¬ (Schema.object properties additional isNullable).Mixes) :
    Matches condition (.object properties additional isNullable)
      (objectType isNullable (!properties.entries.isEmpty) members (rest.map .record)) := by
  by_cases undeclared : properties.entries = []
  · simpa [undeclared, objectType] using uniform undeclared others
  · have shown : (!properties.entries.isEmpty) = true := by simpa using undeclared
    rw [shown]
    exact declared all matched undeclared others apart

end Object

end Matches

/-- The type of a schema of which nothing is reported matches the schema. -/
theorem matches_of_silent {schema : Schema} (classified : schema.Classified) {path : SchemaPath}
    {type : TypeExpr} (silent : (schema.render path).diagnostics = [])
    (rendered : (schema.render path).value = some type)
    (scalars : ∀ visit ∈ schema.visits, visit.2.ListsScalars) :
    Matches (∀ visit ∈ schema.visits, ¬ visit.2.Mixes) schema type := by
  induction schema using parts_induction generalizing path type with
  | whole schema ih =>
    have complete := rendersParts_of_silent classified silent
    have matched : ∀ part ∈ schema.parts, ∀ inner,
        (part.2.render (path.child part.1)).value = some inner →
          Matches (∀ visit ∈ schema.visits, ¬ visit.2.Mixes) part.2 inner := by
      intro part among inner rendered
      have same := ih part among (classified.of_mem_parts among)
        ((silent_iff.mp silent).2 part among) rendered
        fun visit visited => scalars (part.1 :: visit.1, visit.2) (cons_mem_visits among visited)
      -- what is visited from a part is visited from the whole
      refine .mono (fun unmixed visit visited => ?_) same
      exact unmixed (part.1 :: visit.1, visit.2) (cons_mem_visits among visited)
    cases classified with
    | @combination op branches beside nonempty _ _ _ =>
      obtain ⟨types, all, rendered'⟩ := value_render_combination nonempty complete
      obtain rfl := Option.some.inj (rendered.symm.trans rendered')
      refine .combination all fun branch among => ?_
      exact matched (.branch op branch.2, branch.1) (List.mem_map_of_mem among)
    | enumeration =>
      obtain rfl := Option.some.inj rendered
      exact .enumeration (scalars _ (self_mem_visits _))
    | primitive plain isNullable =>
      obtain rfl := Option.some.inj rendered
      exact .primitive plain
    | @object properties additional isNullable _ _ _ =>
      obtain ⟨members, rest, all, allRest, rendered'⟩ := value_render_object complete
      obtain rfl := Option.some.inj (rendered.symm.trans rendered')
      refine .object all (fun property among => ?_) ?_ fun unmixed => unmixed _ (self_mem_visits _)
      · exact matched (.property property.1, property.2)
          (List.mem_append_left _ (List.mem_map_of_mem among))
      · cases additional with
        | none =>
          obtain rfl : rest = none := by simpa using allRest
          exact .none
        | some values =>
          obtain ⟨type, rfl, renderedValues⟩ := Option.map_eq_some_iff.mp allRest
          exact .some (matched (.additionalProperties, values)
            (List.mem_append_right _ (List.mem_singleton_self _)) type renderedValues.symm)
    | @array items isNullable _ =>
      cases items with
      | none => simp [render] at rendered
      | some items =>
        obtain ⟨element, renderedItems, rendered'⟩ := value_render_array complete
        obtain rfl := Option.some.inj (rendered.symm.trans rendered')
        exact .array (matched (.items, items) (List.mem_singleton_self _) element renderedItems)
    | unsupported => simp [render] at rendered

/-- Let a schema be rendered without anything being reported, and let its enumerations list
scalars. Every value of the type conforms to the schema. If no object in it has both declared and
additional properties, then every value that conforms to the schema is also of the type. -/
theorem inhabits_iff_conformsTo_of_render {source : Json} {schema : Schema} {path : SchemaPath}
    {type : TypeExpr} (decoded : decode source = .ok schema)
    (rendered : schema.render path = ⟨some type, []⟩)
    (scalars : ∀ visit ∈ schema.visits, visit.2.ListsScalars) :
    (∀ value : Json, value.Inhabits type → value.ConformsTo schema) ∧
      ((∀ visit ∈ schema.visits, ¬ visit.2.Mixes) →
        ∀ value : Json, value.Inhabits type ↔ value.ConformsTo schema) := by
  have same := matches_of_silent (classified_of_decode decoded) (by rw [rendered])
    (by rw [rendered]) scalars
  exact ⟨same.sound, fun unmixed value => ⟨same.sound value, same.complete unmixed value⟩⟩

/-- The meaning of a required enumeration beside an optional array that admits `null`. -/
theorem inhabits_iff_conformsTo_of_pet :
    let value : Json := .object [("type", .string "object"), ("required", .array [.string "kind"]),
      ("properties", .object [
        ("kind", .object [("enum", .array [.string "cat", .null])]),
        ("sizes", .object [("type", .string "array"), ("nullable", .bool true),
          ("items", .object [("additionalProperties", .object [("type", .string "integer")])])])])]
    let schema : Schema := .object ⟨[("kind", .enumeration [.string "cat", .null] none),
      ("sizes", .array (some (.object ⟨[], []⟩ (some (.primitive .integer false)) false)) true)],
        ["kind"]⟩ none false
    let type : TypeExpr := .object
      [⟨.identifier "kind", false, .union [.literal (.string "cat"), .keyword .null]⟩,
        ⟨.identifier "sizes", true, .generic "Nullable"
          [.array (.generic "Record" [.keyword .string, .keyword .number])]⟩]
    decode value = .ok schema ∧ schema.render (.root "Pet") = ⟨some type, []⟩ ∧
      (∀ visit ∈ schema.visits, visit.2.ListsScalars) ∧
        ∀ value : Json, value.Inhabits type ↔ value.ConformsTo schema := by
  intro value schema type
  have decoded : decode value = .ok schema := rfl
  have rendered : schema.render (.root "Pet") = ⟨some type, []⟩ := by rfl
  have scalars : ∀ visit ∈ schema.visits, visit.2.ListsScalars := by
    simp [schema, visits_eq (object _ _ _), visits_eq (array _ _), visits_eq (enumeration _ _),
      visits_eq (primitive _ _), parts, ListsScalars, Json.IsScalar]
  have unmixed : ∀ visit ∈ schema.visits, ¬ visit.2.Mixes := by
    simp [schema, visits_eq (object _ _ _), visits_eq (array _ _), visits_eq (enumeration _ _),
      visits_eq (primitive _ _), parts, Mixes]
  exact ⟨decoded, rendered, scalars,
    (inhabits_iff_conformsTo_of_render decoded rendered scalars).2 unmixed⟩

/-- `null` conforms to a schema that admits it, but not to the type once additional properties are
given beside declared ones; and the text of an array is no array. -/
theorem meaning_differs_of_mixed_object_or_listed_array :
    (let value : Json := .object [("type", .string "object"), ("nullable", .bool true),
      ("properties", .object [("a", .object [("type", .string "string")])]),
      ("additionalProperties", .object [("type", .string "boolean")])]
    let schema : Schema := .object ⟨[("a", .primitive .string false)], []⟩
      (some (.primitive .boolean false)) true
    let type : TypeExpr := .intersection
      [.generic "Nullable" [.object [⟨.identifier "a", true, .keyword .string⟩]],
        .generic "Record" [.keyword .string, .keyword .boolean]]
    decode value = .ok schema ∧ schema.render (.root "Root") = ⟨some type, []⟩ ∧
      Json.null.ConformsTo schema ∧ ¬ Json.null.Inhabits type) ∧
    let value : Json := .object [("enum", .array [.array [.bool true]])]
    let schema : Schema := .enumeration [.array [.bool true]] none
    let type : TypeExpr := .union [.literal (.string "[true]")]
    decode value = .ok schema ∧ schema.render (.root "Root") = ⟨some type, []⟩ ∧
      (Json.string "[true]").Inhabits type ∧ ¬ (Json.string "[true]").ConformsTo schema := by
  constructor
  · refine ⟨rfl, rfl, .nullObject, ?_⟩
    intro inhabits
    have inRecord := Json.inhabits_intersection.mp inhabits (.record (.keyword .boolean))
      (List.mem_cons_of_mem _ (List.mem_singleton_self _))
    simp [Json.inhabits_record] at inRecord
  · refine ⟨rfl, rfl, .union List.mem_cons_self (.literal (.string "[true]")), ?_⟩
    rintro (_ | _ | listed)
    simp at listed

end Schema

end ApiTypes
