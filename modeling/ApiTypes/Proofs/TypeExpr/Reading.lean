import ApiTypes.Proofs.TypeExpr.Grammar
import Mathlib.Data.List.Forall2

/-!
# Which types are read as they were written

A printed type is read back as the type itself if its parentheses keep every member of a chain
and every element of an array as tightly bound as its place asks for. What is read may differ
from what was written in the parentheses themselves, in combinations of a single member, and in
unions within unions and intersections within intersections.

## Main definitions

* `TypeExpr.Alike` — equality up to those differences
* `TypeExpr.Fits` — the type can stand in a place of the given strength

## Main results

* `Fits.exists_tree` — a type that fits is read as a type alike
* `Fits.exists_unique_tree` — and in no other way
-/

namespace ApiTypes.TypeExpr

/-! ### The tokens of each form of type -/

/-- The tokens of a property. -/
def memberTokens (member : Member TypeExpr) : List Token :=
  member.key.token :: (SyntaxTree.optionalMark member.optional ++
    .colon :: (member.type.tokens ++ [.semicolon]))

theorem filterMap_opening {τ : Type} (member : Member τ) :
    member.opening.filterMap Piece.token? =
      member.key.token :: (SyntaxTree.optionalMark member.optional ++ [.colon]) := by
  obtain ⟨key, optional, type⟩ := member
  cases optional <;> rfl

theorem filterMap_separated (separator : List Piece) (parts : List (List Piece)) :
    (separated separator parts).filterMap Piece.token? =
      (separator.filterMap Piece.token?).intercalate
        (parts.map fun part => part.filterMap Piece.token?) := by
  fun_induction separated separator parts with
  | case1 => simp
  | case2 part => simp
  | case3 part rest nonempty ih =>
    cases rest with
    | nil => exact absurd rfl nonempty
    | cons next rest => simp [ih]

mutual

/-- The indentation has no part in the tokens. -/
theorem filterMap_layout (depth : Nat) : ∀ type : TypeExpr,
    (layout depth type).filterMap Piece.token? = type.tokens
  | keyword _ | literal _ => by simp only [layout, tokens]
  | union members => by
    rw [tokens, layout, layout, filterMap_separated, filterMap_separated,
      map_filterMap_layoutAll depth members, map_filterMap_layoutAll 0 members]
  | intersection members => by
    rw [tokens, layout, layout, filterMap_separated, filterMap_separated,
      map_filterMap_layoutAll depth members, map_filterMap_layoutAll 0 members]
  | array element => by
    rw [tokens, layout, layout, List.filterMap_append, List.filterMap_append,
      filterMap_layout depth element, filterMap_layout 0 element]
  | paren inner => by
    simp only [tokens, layout, List.filterMap_append, List.filterMap_cons, List.cons_append]
    rw [filterMap_layout depth inner, filterMap_layout 0 inner]
  | generic name arguments => by
    simp only [tokens, layout, List.filterMap_append, List.filterMap_cons, List.cons_append,
      filterMap_separated]
    rw [map_filterMap_layoutAll depth arguments, map_filterMap_layoutAll 0 arguments]
  | object members => by
    simp only [tokens, layout, List.filterMap_append, List.filterMap_cons, List.cons_append]
    rw [filterMap_layoutMembers (depth + 1) members, filterMap_layoutMembers (0 + 1) members]
    rfl

theorem map_filterMap_layoutAll (depth : Nat) : ∀ types : List TypeExpr,
    (layoutAll depth types).map (fun part => part.filterMap Piece.token?) = types.map tokens
  | [] => rfl
  | type :: rest => by
    rw [layoutAll, List.map_cons, List.map_cons, filterMap_layout depth type,
      map_filterMap_layoutAll depth rest]

theorem filterMap_layoutMembers (depth : Nat) : ∀ members : List (Member TypeExpr),
    (layoutMembers depth members).filterMap Piece.token? = members.flatMap memberTokens
  | [] => rfl
  | ⟨key, optional, type⟩ :: rest => by
    simp [layoutMembers, List.filterMap_cons, filterMap_opening, memberTokens,
      filterMap_layout depth type, filterMap_layoutMembers depth rest]

end

theorem tokens_combine (connective : Connective) (members : List TypeExpr) :
    (connective.combine members).tokens =
      [connective.mark].intercalate (members.map tokens) := by
  cases connective <;>
    simp [Connective.combine, Connective.mark, tokens, layout, filterMap_separated,
      map_filterMap_layoutAll, List.filterMap_cons]

theorem tokens_array (element : TypeExpr) :
    (array element).tokens = element.tokens ++ [.openBracket, .closeBracket] := by
  simp [tokens, layout]

theorem tokens_paren (inner : TypeExpr) :
    (paren inner).tokens = .openParen :: (inner.tokens ++ [.closeParen]) := by
  simp [tokens, layout]

theorem tokens_generic (name : String) (arguments : List TypeExpr) :
    (generic name arguments).tokens = .name name :: .openAngle ::
      ([Token.comma].intercalate (arguments.map tokens) ++ [.closeAngle]) := by
  simp [tokens, layout, filterMap_separated, map_filterMap_layoutAll, List.filterMap_cons]

theorem tokens_object (members : List (Member TypeExpr)) :
    (object members).tokens =
      .openBrace :: (members.flatMap memberTokens ++ [.closeBrace]) := by
  simp [tokens, layout, filterMap_layoutMembers, List.filterMap_cons]

/-! ### Types that differ in nothing that a reader could tell apart -/

/-- The types are equal up to parentheses, combinations of a single member, and combinations
within combinations of their own kind. -/
inductive Alike : TypeExpr → TypeExpr → Prop
  | refl (type : TypeExpr) : Alike type type
  | symm {type other : TypeExpr} : Alike type other → Alike other type
  | trans {type other third : TypeExpr} : Alike type other → Alike other third → Alike type third
  | unparen (inner : TypeExpr) : Alike (.paren inner) inner
  | single (connective : Connective) (type : TypeExpr) : Alike (connective.combine [type]) type
  | flatten (connective : Connective) (before inner after : List TypeExpr) :
      Alike (connective.combine (before ++ connective.combine inner :: after))
        (connective.combine (before ++ inner ++ after))
  | member (connective : Connective) (before after : List TypeExpr) {type other : TypeExpr} :
      Alike type other → Alike (connective.combine (before ++ type :: after))
        (connective.combine (before ++ other :: after))
  | element {type other : TypeExpr} : Alike type other → Alike (.array type) (.array other)
  | argument (name : String) (before after : List TypeExpr) {type other : TypeExpr} :
      Alike type other → Alike (.generic name (before ++ type :: after))
        (.generic name (before ++ other :: after))
  | property (before after : List (Member TypeExpr)) (key : Key) (optional : Bool)
      {type other : TypeExpr} :
      Alike type other → Alike (.object (before ++ ⟨key, optional, type⟩ :: after))
        (.object (before ++ ⟨key, optional, other⟩ :: after))

namespace Alike

variable {connective : Connective} {type other : TypeExpr}

instance : Trans Alike Alike Alike := ⟨trans⟩

theorem paren (h : Alike type other) : Alike (.paren type) (.paren other) :=
  (unparen type).trans (h.trans (unparen other).symm)

/-- The members of a type at the end of a chain stand for the type. -/
theorem combine_cons_members (connective : Connective) (first type : TypeExpr) :
    Alike (connective.combine (first :: connective.members type))
      (connective.combine [first, type]) := by
  have flat (inner : List TypeExpr) := (flatten connective [first] inner []).symm
  cases connective with
  | union =>
    cases type with
    | union members => simpa [Connective.members, Connective.combine] using flat members
    | _ => exact .refl _
  | intersection =>
    cases type with
    | intersection members => simpa [Connective.members, Connective.combine] using flat members
    | _ => exact .refl _

theorem combine_cons_combine (connective : Connective) (first : TypeExpr)
    (rest : List TypeExpr) :
    Alike (connective.combine [first, connective.combine rest])
      (connective.combine (first :: rest)) := by
  simpa using flatten connective [first] rest []

theorem combine_pair {first first' second second' : TypeExpr} (connective : Connective)
    (h : Alike first first') (h' : Alike second second') :
    Alike (connective.combine [first, second]) (connective.combine [first', second']) :=
  (member connective [] [second] h).trans (member connective [first'] [] h')

/-- A relation between lists that holds when one element is replaced holds when all are. -/
theorem of_forall₂ {α : Type} {R : α → α → Prop} (form : List α → TypeExpr)
    (replace : ∀ before after a b, R a b →
      Alike (form (before ++ a :: after)) (form (before ++ b :: after)))
    {xs ys : List α} (each : List.Forall₂ R xs ys) : Alike (form xs) (form ys) := by
  suffices h : ∀ before, Alike (form (before ++ xs)) (form (before ++ ys)) from h []
  induction each with
  | nil => exact fun before => .refl _
  | @cons a b xs ys head _ ih =>
    intro before
    -- the elements that come before have been replaced already
    have := ih (before ++ [b])
    rw [List.append_assoc, List.append_assoc] at this
    exact (replace before xs a b head).trans this

theorem arguments {name : String} {types others : List TypeExpr}
    (each : List.Forall₂ Alike types others) :
    Alike (.generic name types) (.generic name others) :=
  of_forall₂ (.generic name) (fun before after _ _ => argument name before after) each

/-- Two properties that differ in nothing but types that are alike. -/
def Property (m m' : Member TypeExpr) : Prop :=
  m.key = m'.key ∧ m.optional = m'.optional ∧ Alike m.type m'.type

theorem properties {members others : List (Member TypeExpr)}
    (each : List.Forall₂ Property members others) :
    Alike (.object members) (.object others) := by
  refine of_forall₂ .object ?_ each
  rintro before after ⟨key, optional, type⟩ ⟨_, _, other⟩ ⟨rfl, rfl, alike⟩
  exact property before after key optional alike

end Alike

/-! ### Types that fit their places -/

/-- The type can stand in a place of the given strength: it is bound together at least as
tightly as the place asks for, and so is everything inside it. -/
inductive Fits : Strength → TypeExpr → Prop
  | keyword (strength : Strength) (word : Keyword) : Fits strength (.keyword word)
  | literal (strength : Strength) (value : Literal) : Fits strength (.literal value)
  | paren (strength : Strength) {inner : TypeExpr} (fits : Fits (.chain .union) inner) :
      Fits strength (.paren inner)
  | array (strength : Strength) {element : TypeExpr} (fits : Fits .suffixed element) :
      Fits strength (.array element)
  | generic (strength : Strength) {name : String} {arguments : List TypeExpr}
      (nonempty : arguments ≠ []) (each : ∀ type ∈ arguments, Fits (.chain .union) type) :
      Fits strength (.generic name arguments)
  | object (strength : Strength) {members : List (Member TypeExpr)}
      (each : ∀ member ∈ members, Fits (.chain .union) member.type) :
      Fits strength (.object members)
  | single {strength : Strength} (connective : Connective) {type : TypeExpr}
      (fits : Fits strength type) : Fits strength (connective.combine [type])
  | chain {connective : Connective} {members : List TypeExpr} (nonempty : members ≠ [])
      (each : ∀ type ∈ members, Fits (.chain connective) type) :
      Fits (.chain connective) (connective.combine members)
  | loosen {type : TypeExpr} (fits : Fits (.chain .intersection) type) :
      Fits (.chain .union) type

theorem Fits.ofJson (strength : Strength) (value : Json) :
    Fits strength (TypeExpr.ofJson value) := by
  cases value
  case null => exact .keyword strength .null
  all_goals exact .literal strength _

/-- The tree is read from the tokens of the type, as a type alike. -/
def ReadAs {strength : Strength} (type : TypeExpr) (tree : SyntaxTree (.type strength)) : Prop :=
  tree.tokens = type.tokens ∧ Alike tree.meaning type

end ApiTypes.TypeExpr

namespace ApiTypes.SyntaxTree

open TypeExpr

/-- A type with suffixes in a place of any strength. -/
def lift (tree : SyntaxTree (.type .suffixed)) :
    (strength : Strength) → SyntaxTree (.type strength)
  | .suffixed => tree
  | .chain .intersection => last tree
  | .chain .union => last (last tree)

theorem tokens_lift (tree : SyntaxTree (.type .suffixed)) (strength : Strength) :
    (tree.lift strength).tokens = tree.tokens := by
  fun_cases lift tree strength <;> rfl

theorem meaning_lift (tree : SyntaxTree (.type .suffixed)) (strength : Strength) :
    (tree.lift strength).meaning = tree.meaning := by
  fun_cases lift tree strength <;> rfl

theorem brackets_succ (n : Nat) : brackets (n + 1) = brackets n ++ brackets 1 := by
  induction n with
  | zero => rfl
  | succ n ih => exact congrArg ([Token.openBracket, .closeBracket] ++ ·) ih

theorem tokens_suffixed_succ (primary : SyntaxTree .primary) (suffixes : Nat) :
    (suffixed primary (suffixes + 1)).tokens =
      (suffixed primary suffixes).tokens ++ [.openBracket, .closeBracket] := by
  rw [tokens, tokens, brackets_succ, List.append_assoc]
  rfl

/-- One chain after another. -/
def chain {connective : Connective} :
    SyntaxTree (.type (.chain connective)) → SyntaxTree (.type (.chain connective)) →
      SyntaxTree (.type (.chain connective))
  | last part, tree => more part tree
  | more part rest, tree => more part (chain rest tree)

variable {connective : Connective}

theorem tokens_chain (tree tree' : SyntaxTree (.type (.chain connective))) :
    (tree.chain tree').tokens = tree.tokens ++ connective.mark :: tree'.tokens := by
  fun_induction chain tree tree' with
  | case1 => rfl
  | case2 part rest tree' ih => simp [tokens, ih]

theorem meaning_chain (tree tree' : SyntaxTree (.type (.chain connective))) :
    Alike (tree.chain tree').meaning
      (connective.combine [tree.meaning, tree'.meaning]) := by
  fun_induction chain tree tree' with
  | case1 part tree' => exact .combine_cons_members connective _ _
  | case2 part rest tree' ih =>
    have whole : Alike (more part rest).meaning
        (connective.combine [part.meaning, rest.meaning]) :=
      .combine_cons_members connective _ _
    calc
      Alike (more part (rest.chain tree')).meaning
          (connective.combine [part.meaning, (rest.chain tree').meaning]) :=
        .combine_cons_members connective _ _
      Alike _ (connective.combine [part.meaning,
          connective.combine [rest.meaning, tree'.meaning]]) :=
        .combine_pair connective (.refl _) ih
      Alike _ (connective.combine [part.meaning, rest.meaning, tree'.meaning]) :=
        .combine_cons_combine connective _ _
      Alike _ (connective.combine [connective.combine [part.meaning, rest.meaning],
          tree'.meaning]) :=
        (Alike.flatten connective [] [part.meaning, rest.meaning] [tree'.meaning]).symm
      Alike _ (connective.combine [(more part rest).meaning, tree'.meaning]) :=
        .combine_pair connective whole.symm (.refl _)

theorem exists_chain {members : List TypeExpr} (nonempty : members ≠ [])
    (each : ∀ type ∈ members, ∃ tree : SyntaxTree (.type (.chain connective)), ReadAs type tree) :
    ∃ tree : SyntaxTree (.type (.chain connective)),
      ReadAs (connective.combine members) tree := by
  induction members with
  | nil => exact absurd rfl nonempty
  | cons type rest ih =>
    obtain ⟨tree, sameTokens, alike⟩ := each type (List.mem_cons_self ..)
    cases rest with
    | nil =>
      refine ⟨tree, ?_, alike.trans (Alike.single connective type).symm⟩
      simp [tokens_combine, sameTokens]
    | cons next rest =>
      obtain ⟨tree', sameTokens', alike'⟩ :=
        ih (List.cons_ne_nil _ _) fun other member => each other (List.mem_cons_of_mem _ member)
      refine ⟨tree.chain tree', ?_, ?_⟩
      · rw [tokens_chain, sameTokens, sameTokens', tokens_combine, tokens_combine]
        simp
      · calc
          Alike (tree.chain tree').meaning
              (connective.combine [tree.meaning, tree'.meaning]) := meaning_chain tree tree'
          Alike _ (connective.combine [type, connective.combine (next :: rest)]) :=
            .combine_pair connective alike alike'
          Alike _ (connective.combine (type :: next :: rest)) :=
            .combine_cons_combine connective _ _

/-! ### Trees of lists -/

/-- The types in a list of arguments. -/
def items : SyntaxTree .arguments → List (SyntaxTree (.type (.chain .union)))
  | lastArgument type => [type]
  | argument type rest => type :: rest.items

/-- The properties in a list of members. -/
def properties : SyntaxTree .members → List (Member (SyntaxTree (.type (.chain .union))))
  | noMember => []
  | member key optional type rest => ⟨key, optional, type⟩ :: rest.properties

theorem meaning_items (tree : SyntaxTree .arguments) : tree.meaning = tree.items.map meaning := by
  fun_induction items tree with
  | case1 type => rfl
  | case2 type rest ih => exact congrArg (List.cons type.meaning) ih

theorem meaning_properties (tree : SyntaxTree .members) :
    tree.meaning = tree.properties.map fun property =>
      ⟨property.key, property.optional, property.type.meaning⟩ := by
  fun_induction properties tree with
  | case1 => rfl
  | case2 key optional type rest ih => exact congrArg (List.cons ⟨key, optional, type.meaning⟩) ih

/-- Two properties that differ in nothing but types that are related. -/
def MemberRelated {τ σ : Type} (R : τ → σ → Prop) (m : Member τ) (m' : Member σ) : Prop :=
  m.key = m'.key ∧ m.optional = m'.optional ∧ R m.type m'.type

variable {R : SyntaxTree (.type (.chain .union)) → TypeExpr → Prop}

/-- Types of which each is read, as whatever, are read as a list of arguments. -/
theorem exists_arguments {types : List TypeExpr} (nonempty : types ≠ [])
    (each : ∀ type ∈ types, ∃ tree, tree.tokens = type.tokens ∧ R tree type) :
    ∃ tree : SyntaxTree .arguments,
      tree.tokens = [Token.comma].intercalate (types.map TypeExpr.tokens) ∧
        List.Forall₂ R tree.items types := by
  induction types with
  | nil => exact absurd rfl nonempty
  | cons type rest ih =>
    obtain ⟨tree, sameTokens, related⟩ := each type (List.mem_cons_self ..)
    cases rest with
    | nil =>
      refine ⟨lastArgument tree, ?_, ?_⟩
      · simp [tokens, sameTokens]
      · rw [items]
        exact .cons related .nil
    | cons next rest =>
      obtain ⟨tree', sameTokens', related'⟩ :=
        ih (List.cons_ne_nil _ _) fun other member => each other (List.mem_cons_of_mem _ member)
      refine ⟨argument tree tree', ?_, ?_⟩
      · rw [tokens, sameTokens, sameTokens']
        simp
      · rw [items]
        exact .cons related related'

/-- Properties of which each type is read, as whatever, are read as members. -/
theorem exists_members {members : List (Member TypeExpr)}
    (each : ∀ member ∈ members, ∃ tree, tree.tokens = member.type.tokens ∧ R tree member.type) :
    ∃ tree : SyntaxTree .members, tree.tokens = members.flatMap memberTokens ∧
      List.Forall₂ (MemberRelated R) tree.properties members := by
  induction members with
  | nil =>
    refine ⟨noMember, rfl, ?_⟩
    rw [properties]
    exact .nil
  | cons first rest ih =>
    obtain ⟨tree, sameTokens, related⟩ := each first (List.mem_cons_self ..)
    obtain ⟨tree', sameTokens', related'⟩ :=
      ih fun other among => each other (List.mem_cons_of_mem _ among)
    refine ⟨member first.key first.optional tree tree', ?_, ?_⟩
    · rw [tokens, sameTokens, sameTokens', List.flatMap_cons, memberTokens]
      simp
    · rw [properties]
      exact .cons ⟨rfl, rfl, related⟩ related'

/-- A primary that is read in a place of any strength. -/
theorem exists_lift {type : TypeExpr} (primary : SyntaxTree .primary)
    (sameTokens : primary.tokens = type.tokens) (alike : Alike primary.meaning type)
    (strength : Strength) : ∃ tree : SyntaxTree (.type strength), ReadAs type tree := by
  refine ⟨(suffixed primary 0).lift strength, ?_, ?_⟩
  · rw [tokens_lift, tokens, brackets, List.append_nil, sameTokens]
  · rw [meaning_lift]
    exact alike

end ApiTypes.SyntaxTree

namespace ApiTypes.TypeExpr

open SyntaxTree

/-- A type that fits a place is read there as a type alike. -/
theorem Fits.exists_tree {strength : Strength} {type : TypeExpr} (h : Fits strength type) :
    ∃ tree : SyntaxTree (.type strength), ReadAs type tree := by
  induction h with
  | keyword strength word => exact exists_lift (.keyword word) rfl (.refl _) strength
  | literal strength value => exact exists_lift (.literal value) rfl (.refl _) strength
  | paren strength _ ih =>
    obtain ⟨tree, sameTokens, alike⟩ := ih
    refine exists_lift (.paren tree) ?_ alike.paren strength
    rw [SyntaxTree.tokens, sameTokens, tokens_paren]
  | array strength _ ih =>
    obtain ⟨tree, sameTokens, alike⟩ := ih
    cases tree with
    | suffixed primary suffixes =>
      -- the element is read with its own suffixes, and one more makes the array
      refine ⟨(suffixed primary (suffixes + 1)).lift strength, ?_, ?_⟩
      · rw [tokens_lift, tokens_suffixed_succ, sameTokens, tokens_array]
      · rw [meaning_lift]
        exact alike.element
  | @generic strength name arguments nonempty _ ih =>
    obtain ⟨tree, sameTokens, related⟩ := exists_arguments nonempty ih
    have alike : List.Forall₂ Alike tree.meaning arguments := by
      rw [meaning_items]
      exact List.forall₂_map_left_iff.mpr related
    refine exists_lift (.generic name tree) ?_ (.arguments alike) strength
    rw [SyntaxTree.tokens, sameTokens, tokens_generic]
  | @object strength members _ ih =>
    obtain ⟨tree, sameTokens, related⟩ := exists_members ih
    have alike : List.Forall₂ Alike.Property tree.meaning members := by
      rw [meaning_properties]
      exact List.forall₂_map_left_iff.mpr related
    refine exists_lift (.object tree) ?_ (.properties alike) strength
    rw [SyntaxTree.tokens, sameTokens, tokens_object]
  | single connective _ ih =>
    obtain ⟨tree, sameTokens, alike⟩ := ih
    refine ⟨tree, ?_, alike.trans (Alike.single connective _).symm⟩
    simp [tokens_combine, sameTokens]
  | chain nonempty _ ih => exact exists_chain nonempty ih
  | loosen _ ih =>
    -- a union of this one member
    obtain ⟨tree, sameTokens, alike⟩ := ih
    exact ⟨last tree, sameTokens, alike⟩

/-- A type that fits a place is read there in exactly one way, as a type alike. -/
theorem Fits.exists_unique_tree {strength : Strength} {type : TypeExpr}
    (h : Fits strength type) :
    ∃ tree : SyntaxTree (.type strength), tree.tokens = type.tokens ∧
      (∀ other : SyntaxTree (.type strength), other.tokens = type.tokens → other = tree) ∧
        Alike tree.meaning type := by
  obtain ⟨tree, sameTokens, alike⟩ := h.exists_tree
  refine ⟨tree, sameTokens, fun other sameTokens' => ?_, alike⟩
  exact tokens_injective (sameTokens'.trans sameTokens.symm)

end ApiTypes.TypeExpr
