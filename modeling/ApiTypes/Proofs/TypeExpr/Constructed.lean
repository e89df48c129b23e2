import ApiTypes.Proofs.TypeExpr.Weight
import ApiTypes.Proofs.TypeExpr.Within

/-!
# Which constructed types are read as they were built

The constructors put parentheses around a union that is a member of an intersection if it has
several members of its own. A union or an intersection of a single member is written as that
member, so that it may be a wider union in disguise, and this one gets no parentheses. It falls
apart if the intersection has further members, and only then.

## Main definitions

* `TypeExpr.Constructed` — the types that the constructors make, without empty combinations
* `TypeExpr.Parseable` — the types of which the tokens can be read at all
* `TypeExpr.isOpenUnion` — the type is written as a union of several members, with nothing around it
* `TypeExpr.Spills` — an open union is a member of an intersection of several members

## Main results

* `Parseable.closed` — a type that does not spill fits its place
* `Parseable.weighed` — a type that spills is read as one of less weight
* `Constructed.read_alike_iff` — a constructed type is read in one way, and as a type alike just if
  it does not spill
-/

namespace ApiTypes

namespace TypeExpr

/-- The types that the constructors make. No union, no intersection and no list of arguments is
empty. -/
inductive Constructed : TypeExpr → Prop
  | keyword (word : Keyword) : Constructed (.keyword word)
  | ofJson (value : Json) : Constructed (.ofJson value)
  | union {members : List TypeExpr} (nonempty : members ≠ [])
      (each : ∀ type ∈ members, Constructed type) : Constructed (.union members)
  | intersectionOf {members : List TypeExpr} (nonempty : members ≠ [])
      (each : ∀ type ∈ members, Constructed type) : Constructed (.intersectionOf members)
  | arrayOf {element : TypeExpr} (inside : Constructed element) : Constructed (.arrayOf element)
  | paren {inner : TypeExpr} (inside : Constructed inner) : Constructed (.paren inner)
  | generic {name : String} (identifier : isIdentifier name) {arguments : List TypeExpr}
      (nonempty : arguments ≠ []) (each : ∀ type ∈ arguments, Constructed type) :
      Constructed (.generic name arguments)
  | nullable {type : TypeExpr} (inside : Constructed type) (isNullable : Bool) :
      Constructed (type.nullable isNullable)
  | record {value : TypeExpr} (inside : Constructed value) : Constructed (.record value)
  | object {members : List (Member TypeExpr)}
      (names : ∀ member ∈ members, ∃ name optional type, member = .named name optional type)
      (each : ∀ member ∈ members, Constructed member.type) : Constructed (.object members)

/-- No combination and no list of arguments is empty, and no combination is an element without
parentheses. -/
inductive Parseable : TypeExpr → Prop
  | keyword (word : Keyword) : Parseable (.keyword word)
  | literal (value : Literal) : Parseable (.literal value)
  | combine (connective : Connective) {members : List TypeExpr} (nonempty : members ≠ [])
      (each : ∀ type ∈ members, Parseable type) : Parseable (connective.combine members)
  | array {element : TypeExpr} (tight : element.isCombination = false)
      (inside : Parseable element) : Parseable (.array element)
  | paren {inner : TypeExpr} (inside : Parseable inner) : Parseable (.paren inner)
  | generic {name : String} {arguments : List TypeExpr} (nonempty : arguments ≠ [])
      (each : ∀ type ∈ arguments, Parseable type) : Parseable (.generic name arguments)
  | object {members : List (Member TypeExpr)}
      (each : ∀ member ∈ members, Parseable member.type) : Parseable (.object members)

theorem Constructed.parseable {type : TypeExpr} (h : Constructed type) : Parseable type := by
  induction h with
  | keyword word => exact .keyword word
  | ofJson value =>
    -- all but `null` are literals, arrays and objects by their text
    cases value
    case null => exact .keyword .null
    all_goals exact .literal _
  | union nonempty _ ih => exact .combine .union nonempty ih
  | intersectionOf nonempty _ ih =>
    -- parentheses or not, the member is inside
    refine .combine .intersection (by simpa using nonempty) fun type among => ?_
    obtain ⟨member, inside, rfl⟩ := List.mem_map.mp among
    split
    · exact .paren (ih member inside)
    · exact ih member inside
  | arrayOf _ ih =>
    unfold TypeExpr.arrayOf
    split
    · exact .array rfl (.paren ih)
    · next tight => exact .array (by simpa using tight) ih
  | paren _ ih => exact .paren ih
  | generic _ nonempty _ ih => exact .generic nonempty ih
  | nullable _ isNullable ih =>
    cases isNullable with
    | false => exact ih
    | true => exact .generic (List.cons_ne_nil _ _) (List.forall_mem_singleton.mpr ih)
  | record _ ih =>
    refine .generic (List.cons_ne_nil _ _) (List.forall_mem_cons.mpr ⟨.keyword .string, ?_⟩)
    exact List.forall_mem_singleton.mpr ih
  | object _ _ ih => exact .object ih

/-! ### Open unions -/

/-- Whether the type is written as a union of several members without parentheses around it.
Combinations of a single member are written as that member. -/
def isOpenUnion : TypeExpr → Bool
  | .union [member] | .intersection [member] => member.isOpenUnion
  | .union (_ :: _ :: _) => true
  | _ => false

theorem isOpenUnion_combine_singleton (connective : Connective) (member : TypeExpr) :
    (connective.combine [member]).isOpenUnion = member.isOpenUnion := by
  cases connective <;> simp only [Connective.combine, isOpenUnion]

theorem isOpenUnion_eq_false {type : TypeExpr} (tight : type.isCombination = false) :
    type.isOpenUnion = false := by
  cases type with
  | union | intersection => cases tight
  | _ => simp only [isOpenUnion]

/-- The type is an intersection of several members, and one of them is an open union. -/
def SpillsHere : TypeExpr → Prop
  | .intersection members => 2 ≤ members.length ∧ ∃ member ∈ members, member.isOpenUnion
  | _ => False

/-- Somewhere in the type an open union is a member of an intersection of several members. -/
def Spills (type : TypeExpr) : Prop :=
  ∃ inner, Within inner type ∧ inner.SpillsHere

theorem spills_iff {type : TypeExpr} :
    type.Spills ↔ type.SpillsHere ∨ ∃ part ∈ type.parts, part.Spills := by
  constructor
  · rintro ⟨inner, within, here⟩
    rcases within_iff.mp within with rfl | ⟨part, among, inside⟩
    · exact .inl here
    · exact .inr ⟨part, among, inner, inside, here⟩
  · rintro (here | ⟨part, among, inner, inside, here⟩)
    · exact ⟨type, .refl type, here⟩
    · exact ⟨inner, within_iff.mpr (.inr ⟨part, among, inside⟩), here⟩

/-- What spills without being a combination spills inside. -/
theorem Spills.exists_part {type : TypeExpr} (spills : type.Spills)
    (tight : type.isCombination = false) : ∃ part ∈ type.parts, part.Spills := by
  refine (spills_iff.mp spills).resolve_left fun here => ?_
  cases type with
  | intersection => cases tight
  | _ => cases here

theorem not_spills {type : TypeExpr} (here : ¬ type.SpillsHere)
    (each : ∀ part ∈ type.parts, ¬ part.Spills) : ¬ type.Spills := by
  rw [spills_iff, not_or]
  exact ⟨here, fun ⟨part, among, spills⟩ => each part among spills⟩

theorem not_spills_of_mem_parts {type part : TypeExpr} (kept : ¬ type.Spills)
    (among : part ∈ type.parts) : ¬ part.Spills :=
  fun spills => kept (spills_iff.mpr (.inr ⟨part, among, spills⟩))

theorem not_spills_keyword (word : Keyword) : ¬ (keyword word).Spills :=
  not_spills id (by simp [parts])

theorem not_spills_literal (value : Literal) : ¬ (literal value).Spills :=
  not_spills id (by simp [parts])

@[simp] theorem parts_combine (connective : Connective) (members : List TypeExpr) :
    (connective.combine members).parts = members := by
  cases connective <;> rfl

theorem spills_combine {connective : Connective} {members : List TypeExpr} :
    (connective.combine members).Spills ↔
      (connective.combine members).SpillsHere ∨ ∃ member ∈ members, member.Spills := by
  rw [spills_iff, parts_combine]

/-! ### Types that do not spill -/

/-- The type fits the place of any type; that of a member of an intersection, unless it is an open
union; and that of an element, unless it is a union or an intersection. -/
structure Closed (type : TypeExpr) : Prop where
  loose : Fits (.chain .union) type
  asMember : type.isOpenUnion = false → Fits (.chain .intersection) type
  asElement : type.isCombination = false → Fits .suffixed type

namespace Closed

theorem of_fits {type : TypeExpr} (fits : ∀ strength, Fits strength type) : Closed type :=
  ⟨fits _, fun _ => fits _, fun _ => fits _⟩

theorem single (connective : Connective) {member : TypeExpr} (h : Closed member) :
    Closed (connective.combine [member]) := by
  refine ⟨.single connective h.loose, fun narrow => ?_, fun tight => ?_⟩
  · exact .single connective (h.asMember (isOpenUnion_combine_singleton connective member ▸ narrow))
  · cases connective <;> cases tight

theorem combine (connective : Connective) {members : List TypeExpr} (nonempty : members ≠ [])
    (each : ∀ type ∈ members, Closed type) (kept : ¬ (connective.combine members).SpillsHere) :
    Closed (connective.combine members) := by
  match members with
  | [] => exact absurd rfl nonempty
  | [member] => exact single connective (each member (List.mem_singleton_self _))
  | first :: second :: rest =>
    cases connective with
    | union =>
      refine ⟨Fits.chain nonempty fun type among => (each type among).loose, fun narrow => ?_,
        fun tight => ?_⟩
      · cases narrow
      · cases tight
    | intersection =>
      -- a member that is an open union would spill here
      have fits : Fits (.chain .intersection) (.intersection (first :: second :: rest)) := by
        refine Fits.chain nonempty fun type among => (each type among).asMember ?_
        refine Bool.eq_false_iff.mpr fun isOpen => kept ⟨by simp, type, among, isOpen⟩
      refine ⟨fits.loosen, fun _ => fits, fun tight => ?_⟩
      cases tight

end Closed

/-- A type that does not spill fits its place. -/
theorem Parseable.closed {type : TypeExpr} (h : Parseable type) (kept : ¬ type.Spills) :
    Closed type := by
  have inside {part outer : TypeExpr} (kept : ¬ outer.Spills) (among : part ∈ outer.parts)
      (ih : ¬ part.Spills → Closed part) : Closed part :=
    ih (not_spills_of_mem_parts kept among)
  induction h with
  | keyword word => exact .of_fits fun strength => .keyword strength word
  | literal value => exact .of_fits fun strength => .literal strength value
  | combine connective nonempty _ ih =>
    refine .combine connective nonempty (fun type among => ?_)
      fun here => kept (spills_iff.mpr (.inl here))
    exact inside kept (by simpa using among) (ih type among)
  | array tight _ ih =>
    have closed := inside kept (List.mem_singleton_self _) ih
    exact .of_fits fun strength => .array strength (closed.asElement tight)
  | paren _ ih =>
    have closed := inside kept (List.mem_singleton_self _) ih
    exact .of_fits fun strength => .paren strength closed.loose
  | generic nonempty _ ih =>
    refine .of_fits fun strength => .generic strength nonempty fun type among => ?_
    exact (inside kept among (ih type among)).loose
  | object _ ih =>
    refine .of_fits fun strength => .object strength fun member among => ?_
    exact (inside kept (List.mem_map_of_mem among) (ih member among)).loose

/-! ### Types that spill -/

/-- The tree is read from the tokens of the type. It weighs as much as the type at most, and less
if the type spills. -/
structure Lighter {strength : Strength} (type : TypeExpr) (tree : SyntaxTree (.type strength)) :
    Prop where
  sameTokens : tree.tokens = type.tokens
  le : tree.weight ≤ type.weight
  lt : type.Spills → tree.weight < type.weight

namespace Lighter

variable {type : TypeExpr} {connective : Connective}

theorem single {tree : SyntaxTree (.type (.chain .union))} (h : Lighter type tree) :
    Lighter (connective.combine [type]) tree := by
  refine ⟨?_, ?_, fun spills => ?_⟩
  · rw [h.sameTokens, tokens_combine]
    simp
  · rw [weight_combine_singleton]
    exact h.le
  · rw [weight_combine_singleton]
    rcases spills_combine.mp spills with here | ⟨_, among, spills⟩
    · cases connective with
      | union => cases here
      | intersection => exact absurd here.1 (by simp)
    · exact h.lt (List.mem_singleton.mp among ▸ spills)

/-- Something is lost where two trees are joined if one of them spills, or has several alternatives
and an ampersand beside them. -/
theorem join {rest : List TypeExpr} (several : rest ≠ [])
    {tree tree' : SyntaxTree (.type (.chain .union))} (h : Lighter type tree)
    (h' : Lighter (connective.combine rest) tree')
    (wide : (∃ member ∈ type :: rest, member.isOpenUnion) → tree.IsWide ∨ tree'.IsWide) :
    Lighter (connective.combine (type :: rest)) (.join connective tree tree') := by
  have heavy : 0 < tree.weight := (tree.two_le_weight (by simp)).trans_lt' (by simp)
  have heavy' : 0 < tree'.weight := (tree'.two_le_weight (by simp)).trans_lt' (by simp)
  have together := SyntaxTree.weight_join_le connective tree tree'
  refine ⟨?_, ?_, fun spills => ?_⟩
  · rw [SyntaxTree.tokens_join, h.sameTokens, h'.sameTokens, tokens_combine, tokens_combine]
    obtain ⟨next, rest, rfl⟩ := List.exists_cons_of_ne_nil several
    simp
  · rw [weight_combine_cons]
    exact together.trans (Connective.total_le h.le h'.le)
  · rw [weight_combine_cons]
    -- either the ampersand draws an alternative away, or a member has lost weight already
    rcases spills_combine.mp spills with here | ⟨member, among, spilled⟩
    · cases connective with
      | union => cases here
      | intersection =>
        exact (SyntaxTree.weight_join_lt (wide here.2)).trans_le (Connective.total_le h.le h'.le)
    · refine together.trans_lt ?_
      rcases List.mem_cons.mp among with rfl | inRest
      · exact Connective.total_lt_left (h.lt spilled) h'.le heavy'
      · exact Connective.total_lt_right h.le
          (h'.lt (spills_combine.mpr (.inr ⟨member, inRest, spilled⟩))) heavy

/-- Types one after another lose weight if one of them does. -/
theorem sum {trees : List (SyntaxTree (.type (.chain .union)))} {types : List TypeExpr}
    (each : List.Forall₂ (fun tree type => Lighter type tree) trees types) :
    (trees.map SyntaxTree.weight).sum ≤ (types.map weight).sum ∧
      ((∃ type ∈ types, type.Spills) →
        (trees.map SyntaxTree.weight).sum < (types.map weight).sum) := by
  induction each with
  | nil => exact ⟨le_rfl, by simp⟩
  | @cons tree type trees types lighter _ ih =>
    simp only [List.map_cons, List.sum_cons]
    refine ⟨Nat.add_le_add lighter.le ih.1, ?_⟩
    rintro ⟨member, among, spills⟩
    rcases List.mem_cons.mp among with rfl | inRest
    · exact Nat.add_lt_add_of_lt_of_le (lighter.lt spills) ih.1
    · exact Nat.add_lt_add_of_le_of_lt lighter.le (ih.2 ⟨member, inRest, spills⟩)

end Lighter

/-- The type is read in the place of any type, with several alternatives if it is an open union; and
in that of an element, unless it is a union or an intersection. -/
structure Weighed (type : TypeExpr) : Prop where
  loose : ∃ tree : SyntaxTree (.type (.chain .union)),
    Lighter type tree ∧ (type.isOpenUnion → tree.IsWide)
  asElement : type.isCombination = false →
    ∃ tree : SyntaxTree (.type .suffixed), Lighter type tree

namespace Weighed

variable {type : TypeExpr}

theorem of_suffixed (tight : type.isCombination = false) {tree : SyntaxTree (.type .suffixed)}
    (lighter : Lighter type tree) : Weighed type := by
  obtain ⟨sameTokens, le, lt⟩ := lighter
  refine ⟨⟨tree.lift (.chain .union), ⟨?_, ?_, ?_⟩, ?_⟩, fun _ => ⟨tree, sameTokens, le, lt⟩⟩
  · rw [SyntaxTree.tokens_lift, sameTokens]
  · rwa [SyntaxTree.weight_lift]
  · rwa [SyntaxTree.weight_lift]
  · simp [isOpenUnion_eq_false tight]

theorem of_primary (tight : type.isCombination = false) {primary : SyntaxTree .primary}
    (sameTokens : primary.tokens = type.tokens) (le : primary.weight ≤ type.weight)
    (lt : type.Spills → primary.weight < type.weight) : Weighed type := by
  have bare : (SyntaxTree.suffixed primary 0).tokens = type.tokens := by
    rw [SyntaxTree.tokens, SyntaxTree.brackets, List.append_nil, sameTokens]
  exact of_suffixed tight ⟨bare, le, lt⟩

/-- The members of a combination are read one after another. -/
theorem exists_joined (connective : Connective) {members : List TypeExpr}
    (nonempty : members ≠ []) (each : ∀ type ∈ members, Weighed type) :
    ∃ tree : SyntaxTree (.type (.chain .union)), Lighter (connective.combine members) tree ∧
      ((connective.combine members).isOpenUnion ∨ (∃ type ∈ members, type.isOpenUnion) →
        tree.IsWide) := by
  -- what is read so far may be wide because of one member, so the width goes through the induction
  induction members with
  | nil => exact absurd rfl nonempty
  | cons type rest ih =>
    obtain ⟨tree, lighter, wide⟩ := (each type List.mem_cons_self).loose
    cases rest with
    | nil =>
      refine ⟨tree, lighter.single, ?_⟩
      rw [isOpenUnion_combine_singleton]
      rintro (isOpen | ⟨_, among, isOpen⟩)
      · exact wide isOpen
      · exact wide (List.mem_singleton.mp among ▸ isOpen)
    | cons next rest =>
      obtain ⟨tree', lighter', wide'⟩ :=
        ih (List.cons_ne_nil _ _) fun other among => each other (List.mem_cons_of_mem _ among)
      have eitherWide : (∃ member ∈ type :: next :: rest, member.isOpenUnion) →
          tree.IsWide ∨ tree'.IsWide := by
        rintro ⟨member, among, isOpen⟩
        rcases List.mem_cons.mp among with rfl | inRest
        · exact .inl (wide isOpen)
        · exact .inr (wide' (.inr ⟨member, inRest, isOpen⟩))
      refine ⟨.join connective tree tree', lighter.join (List.cons_ne_nil _ _) lighter' eitherWide,
        fun isOpen => SyntaxTree.isWide_join ?_⟩
      cases connective with
      | union => exact .inl rfl
      | intersection => exact .inr (eitherWide (isOpen.resolve_left nofun))

theorem combine (connective : Connective) {members : List TypeExpr} (nonempty : members ≠ [])
    (each : ∀ type ∈ members, Weighed type) : Weighed (connective.combine members) := by
  obtain ⟨tree, lighter, wide⟩ := exists_joined connective nonempty each
  refine ⟨⟨tree, lighter, fun isOpen => wide (.inl isOpen)⟩, fun tight => ?_⟩
  cases connective <;> cases tight

theorem exists_lighter (h : Weighed type) : ∃ tree : SyntaxTree (.type (.chain .union)),
    tree.tokens = type.tokens ∧ Lighter type tree := by
  obtain ⟨tree, lighter, -⟩ := h.loose
  exact ⟨tree, lighter.sameTokens, lighter⟩

end Weighed

/-- A type is read as one that weighs no more, and less if the type spills. -/
theorem Parseable.weighed {type : TypeExpr} (h : Parseable type) : Weighed type := by
  induction h with
  | keyword word =>
    have sameTokens : (SyntaxTree.keyword word).tokens = (TypeExpr.keyword word).tokens := rfl
    exact .of_primary rfl sameTokens le_rfl fun spills => absurd spills (not_spills_keyword word)
  | literal value =>
    have sameTokens : (SyntaxTree.literal value).tokens = (TypeExpr.literal value).tokens := rfl
    exact .of_primary rfl sameTokens le_rfl fun spills => absurd spills (not_spills_literal value)
  | combine connective nonempty _ ih => exact .combine connective nonempty ih
  | @array element tight _ ih =>
    obtain ⟨tree, sameTokens, le, lt⟩ := ih.asElement tight
    cases tree with
    | suffixed primary suffixes =>
      -- one more pair of brackets after the same primary
      have sameTokens' : (SyntaxTree.suffixed primary (suffixes + 1)).tokens =
          (TypeExpr.array element).tokens := by
        rw [SyntaxTree.tokens_suffixed_succ, sameTokens, tokens_array]
      refine .of_suffixed rfl ⟨sameTokens', le, fun spills => ?_⟩
      obtain ⟨_, among, spilled⟩ := spills.exists_part rfl
      exact lt (List.mem_singleton.mp among ▸ spilled)
  | @paren inner _ ih =>
    obtain ⟨tree, ⟨sameTokens, le, lt⟩, -⟩ := ih.loose
    have sameTokens' : (SyntaxTree.paren tree).tokens = (TypeExpr.paren inner).tokens := by
      rw [SyntaxTree.tokens, sameTokens, tokens_paren]
    refine .of_primary rfl sameTokens' le fun spills => ?_
    obtain ⟨_, among, spilled⟩ := spills.exists_part rfl
    exact lt (List.mem_singleton.mp among ▸ spilled)
  | @generic name arguments nonempty _ ih =>
    obtain ⟨tree, sameTokens, lighter⟩ :=
      SyntaxTree.exists_arguments nonempty fun type among => (ih type among).exists_lighter
    have sameTokens' : (SyntaxTree.generic name tree).tokens =
        (TypeExpr.generic name arguments).tokens := by
      rw [SyntaxTree.tokens, sameTokens, tokens_generic]
    obtain ⟨le, lt⟩ := Lighter.sum lighter
    refine .of_primary rfl sameTokens' ?_ fun spills => ?_
    all_goals rw [weight_generic, SyntaxTree.weight, SyntaxTree.weight_items]
    · exact Nat.add_le_add_left le 2
    · exact Nat.add_lt_add_left (lt (spills.exists_part rfl)) 2
  | @object members _ ih =>
    obtain ⟨tree, sameTokens, lighter⟩ := SyntaxTree.exists_members
      (R := fun tree type => Lighter type tree) fun member among => (ih member among).exists_lighter
    have sameTokens' : (SyntaxTree.object tree).tokens = (TypeExpr.object members).tokens := by
      rw [SyntaxTree.tokens, sameTokens, tokens_object]
    have types : List.Forall₂ (fun tree type => Lighter type tree)
        (tree.properties.map (·.type)) (members.map (·.type)) := by
      rw [List.forall₂_map_left_iff, List.forall₂_map_right_iff]
      exact lighter.imp fun _ _ related => related.2.2
    obtain ⟨le, lt⟩ := Lighter.sum types
    rw [List.map_map, List.map_map] at le lt
    refine .of_primary rfl sameTokens' ?_ fun spills => ?_
    all_goals rw [weight_object, SyntaxTree.weight, SyntaxTree.weight_properties]
    · exact Nat.add_le_add_left le 2
    · exact Nat.add_lt_add_left (lt (spills.exists_part rfl)) 2

/-- A constructed type is read from its tokens in one way. What is read is a type alike just if no
union of several members, written without parentheses around it, is a member of an intersection of
several members. -/
theorem Constructed.read_alike_iff {type : TypeExpr} (constructed : Constructed type) :
    ∃ tree : SyntaxTree (.type (.chain .union)), tree.tokens = type.tokens ∧
      (∀ other : SyntaxTree (.type (.chain .union)),
        other.tokens = type.tokens → other = tree) ∧
        (Alike tree.meaning type ↔ ¬ type.Spills) := by
  obtain ⟨tree, ⟨sameTokens, -, lt⟩, -⟩ := constructed.parseable.weighed.loose
  have unique (other : SyntaxTree (.type (.chain .union)))
      (sameTokens' : other.tokens = type.tokens) : other = tree :=
    SyntaxTree.tokens_injective (sameTokens'.trans sameTokens.symm)
  refine ⟨tree, sameTokens, unique, fun alike spills => ?_, fun kept => ?_⟩
  · -- the reading would weigh less than itself
    have sameWeight : tree.weight = type.weight := tree.weigh_meaning.symm.trans alike.weight_eq
    exact absurd (lt spills) sameWeight.ge.not_gt
  · -- a type that fits its place is read as a type alike, and this is the only reading
    obtain ⟨read, sameTokens', -, alike⟩ :=
      (constructed.parseable.closed kept).loose.exists_unique_tree
    exact unique read sameTokens' ▸ alike

/-- The parentheses of `string & ("a" | null)` are those that are needed, and none are around the
union of one member. -/
theorem Constructed.read_alike_of_narrow_union :
    let type : TypeExpr := .intersectionOf
      [.union [.keyword .string], .union [.ofJson (.string "a"), .ofJson .null]]
    Constructed type ∧ ¬ type.Spills ∧ type.text = "string & (\"a\" | null)" ∧
      ∃ tree : SyntaxTree (.type (.chain .union)), tree.tokens = type.tokens ∧
        (∀ other : SyntaxTree (.type (.chain .union)),
          other.tokens = type.tokens → other = tree) ∧ Alike tree.meaning type := by
  intro type
  have single (word : Keyword) : Constructed (.union [.keyword word]) :=
    .union (List.cons_ne_nil _ _) (List.forall_mem_singleton.mpr (.keyword word))
  have pair : Constructed (.union [.ofJson (.string "a"), .ofJson .null]) :=
    .union (List.cons_ne_nil _ _) (List.forall_mem_cons.mpr ⟨.ofJson _,
      List.forall_mem_singleton.mpr (.ofJson _)⟩)
  have constructed : Constructed type :=
    .intersectionOf (List.cons_ne_nil _ _) (List.forall_mem_cons.mpr ⟨single .string,
      List.forall_mem_singleton.mpr pair⟩)
  have kept : ¬ type.Spills := by
    refine not_spills (fun here => ?_) (List.forall_mem_cons.mpr
      ⟨not_spills id (List.forall_mem_singleton.mpr (not_spills_keyword .string)),
        List.forall_mem_singleton.mpr (not_spills id (List.forall_mem_singleton.mpr ?_))⟩)
    · obtain ⟨-, member, among, isOpen⟩ := here
      have narrow : ∀ member ∈ type.parts, member.isOpenUnion = false := by decide
      exact absurd isOpen (by simp [narrow member among])
    · exact not_spills id (List.forall_mem_cons.mpr
        ⟨not_spills_literal _, List.forall_mem_singleton.mpr (not_spills_keyword .null)⟩)
  obtain ⟨tree, sameTokens, unique, alike⟩ := constructed.read_alike_iff
  exact ⟨constructed, kept, rfl, tree, sameTokens, unique, alike.mpr kept⟩

/-- `"a" | "b" & string` is written for an intersection of a union with `string`: the union has a
single member, which is a union of two. -/
theorem Constructed.not_read_alike_of_disguised_union :
    let type : TypeExpr := .intersectionOf
      [.union [.union [.ofJson (.string "a"), .ofJson (.string "b")]], .keyword .string]
    Constructed type ∧ type.text = "\"a\" | \"b\" & string" ∧
      ∀ tree : SyntaxTree (.type (.chain .union)), tree.tokens = type.tokens →
        tree.meaning = .union [.ofJson (.string "a"),
            .intersection [.ofJson (.string "b"), .keyword .string]] ∧
          ¬ Alike tree.meaning type := by
  intro type
  have pair : Constructed (.union [.ofJson (.string "a"), .ofJson (.string "b")]) :=
    .union (List.cons_ne_nil _ _) (List.forall_mem_cons.mpr ⟨.ofJson _,
      List.forall_mem_singleton.mpr (.ofJson _)⟩)
  have disguised : Constructed (.union [.union [.ofJson (.string "a"), .ofJson (.string "b")]]) :=
    .union (List.cons_ne_nil _ _) (List.forall_mem_singleton.mpr pair)
  have constructed : Constructed type :=
    .intersectionOf (List.cons_ne_nil _ _) (List.forall_mem_cons.mpr ⟨disguised,
      List.forall_mem_singleton.mpr (.keyword .string)⟩)
  have read : ∃ tree : SyntaxTree (.type (.chain .union)), tree.tokens = type.tokens ∧
      tree.meaning = .union [.ofJson (.string "a"),
        .intersection [.ofJson (.string "b"), .keyword .string]] :=
    ⟨.more (.last (.suffixed (.literal (.string "a")) 0))
      (.last (.more (.suffixed (.literal (.string "b")) 0)
        (.last (.suffixed (.keyword .string) 0)))), rfl, rfl⟩
  refine ⟨constructed, rfl, fun tree sameTokens => ?_⟩
  obtain ⟨found, sameTokens', meaning⟩ := read
  obtain rfl := SyntaxTree.tokens_injective (sameTokens.trans sameTokens'.symm)
  refine ⟨meaning, fun alike => ?_⟩
  have sameWeight := alike.weight_eq
  rw [meaning] at sameWeight
  exact absurd sameWeight (by decide)

end TypeExpr

end ApiTypes
