import ApiTypes.Proofs.TypeExpr.Reading
import Mathlib.Algebra.BigOperators.Group.List.Basic
import Mathlib.Tactic.Linarith

/-!
# A weight that grouping determines

The members of a union weigh as much as their sum, those of an intersection as much as their
product, and words and literals weigh two. Parentheses, combinations of a single member and
combinations within combinations of their own kind do not count. But a union that falls apart,
because a member of it is drawn to a member of an intersection beside it, loses weight: for
numbers of two and more, `x + y * z` is less than `(x + y) * z`.

## Main definitions

* `TypeExpr.weight`, `SyntaxTree.weight` — the weight of a type, and of what a tree stands for
* `SyntaxTree.IsWide` — the tree has several alternatives
* `SyntaxTree.glue` — two trees with an ampersand between their tokens

## Main results

* `TypeExpr.Alike.weight_eq` — types alike have the same weight
* `SyntaxTree.weigh_meaning` — the weight of a tree is that of its meaning
* `SyntaxTree.weight_glue` — gluing loses weight if one of the trees is wide
-/

namespace ApiTypes

/-- What a combination makes of the weights of its members. -/
def Connective.total : Connective → List Nat → Nat
  | union => List.sum
  | intersection => List.prod

theorem Connective.total_singleton (connective : Connective) (n : Nat) :
    connective.total [n] = n := by
  cases connective <;> simp [total]

theorem Connective.total_flatten (connective : Connective) (before inner after : List Nat) :
    connective.total (before ++ connective.total inner :: after) =
      connective.total (before ++ inner ++ after) := by
  cases connective with
  | union => simp [total]
  | intersection => simp [total]

theorem Connective.total_cons (connective : Connective) (first : Nat) (rest : List Nat) :
    connective.total (first :: rest) = connective.total [first, connective.total rest] := by
  simpa using (connective.total_flatten [first] rest []).symm

section Total

variable {connective : Connective} {m n m' n' : Nat}

theorem Connective.total_le (left : m ≤ m') (right : n ≤ n') :
    connective.total [m, n] ≤ connective.total [m', n'] := by
  cases connective with
  | union => simpa [total] using Nat.add_le_add left right
  | intersection => simpa [total] using Nat.mul_le_mul left right

theorem Connective.total_lt_left (left : m < m') (right : n ≤ n') (pos : 0 < n) :
    connective.total [m, n] < connective.total [m', n'] := by
  cases connective with
  | union => simpa [total] using Nat.add_lt_add_of_lt_of_le left right
  | intersection => simpa [total] using Nat.mul_lt_mul_of_lt_of_le left right (pos.trans_le right)

theorem Connective.total_lt_right (left : m ≤ m') (right : n < n') (pos : 0 < m) :
    connective.total [m, n] < connective.total [m', n'] := by
  cases connective with
  | union => simpa [total] using Nat.add_lt_add_of_le_of_lt left right
  | intersection => simpa [total] using Nat.mul_lt_mul_of_le_of_lt left right (pos.trans_le left)

end Total

namespace TypeExpr

mutual

/-- The weight of a type. -/
def weight : TypeExpr → Nat
  | keyword _ | literal _ => 2
  | union members => Connective.union.total (weights members)
  | intersection members => Connective.intersection.total (weights members)
  | array element => weight element
  | paren inner => weight inner
  | generic _ arguments => 2 + (weights arguments).sum
  | object members => 2 + (memberWeights members).sum

/-- The weight of each type. -/
def weights : List TypeExpr → List Nat
  | [] => []
  | type :: rest => weight type :: weights rest

/-- The weight of the type of each property. -/
def memberWeights : List (Member TypeExpr) → List Nat
  | [] => []
  | ⟨_, _, type⟩ :: rest => weight type :: memberWeights rest

end

theorem weights_eq (types : List TypeExpr) : weights types = types.map weight := by
  induction types with
  | nil => rfl
  | cons type rest ih => rw [weights, ih, List.map_cons]

theorem memberWeights_eq (members : List (Member TypeExpr)) :
    memberWeights members = members.map (·.type.weight) := by
  induction members with
  | nil => rfl
  | cons member rest ih => rw [memberWeights, ih, List.map_cons]

theorem weight_combine (connective : Connective) (members : List TypeExpr) :
    (connective.combine members).weight = connective.total (members.map weight) := by
  cases connective <;> rw [Connective.combine, weight, weights_eq]

theorem weight_combine_singleton (connective : Connective) (type : TypeExpr) :
    (connective.combine [type]).weight = type.weight := by
  rw [weight_combine, List.map_singleton, Connective.total_singleton]

theorem weight_combine_cons (connective : Connective) (type : TypeExpr) (rest : List TypeExpr) :
    (connective.combine (type :: rest)).weight =
      connective.total [type.weight, (connective.combine rest).weight] := by
  rw [weight_combine, weight_combine, List.map_cons, Connective.total_cons]

theorem weight_generic (name : String) (arguments : List TypeExpr) :
    (generic name arguments).weight = 2 + (arguments.map weight).sum := by
  rw [weight, weights_eq]

theorem weight_object (members : List (Member TypeExpr)) :
    (object members).weight = 2 + (members.map (·.type.weight)).sum := by
  rw [weight, memberWeights_eq]

/-- What a reader cannot tell apart has the same weight. -/
theorem Alike.weight_eq {type other : TypeExpr} (h : Alike type other) :
    type.weight = other.weight := by
  induction h with
  | refl => rfl
  | symm _ ih => exact ih.symm
  | trans _ _ ih ih' => exact ih.trans ih'
  | unparen inner => rw [weight]
  | single connective type => exact weight_combine_singleton connective type
  | flatten connective before inner after =>
    simp only [weight_combine, List.map_append, List.map_cons, Connective.total_flatten]
  | member connective before after _ ih =>
    simp only [weight_combine, List.map_append, List.map_cons, ih]
  | element _ ih => rw [weight, weight, ih]
  | argument name before after _ ih =>
    simp only [weight_generic, List.map_append, List.map_cons, ih]
  | property before after key optional _ ih =>
    simp only [weight_object, List.map_append, List.map_cons, ih]

end TypeExpr

namespace SyntaxTree

open TypeExpr

/-! ### The weight of a tree -/

/-- The weight of what a tree stands for. -/
def weight {category : Category} : SyntaxTree category → Nat
  | last part => part.weight
  | @more connective part rest => connective.total [part.weight, rest.weight]
  | suffixed primary _ => primary.weight
  | keyword _ | literal _ => 2
  | paren inner => inner.weight
  | generic _ arguments => 2 + arguments.weight
  | object members => 2 + members.weight
  | lastArgument type => type.weight
  | argument type rest => type.weight + rest.weight
  | noMember => 0
  | member _ _ type rest => type.weight + rest.weight

/-- The weight of a meaning: that of a type, or of all types in a list together. -/
def Category.weigh : (category : Category) → category.Meaning → Nat
  | type _, meaning | primary, meaning => TypeExpr.weight meaning
  | arguments, meaning => (meaning.map TypeExpr.weight).sum
  | members, meaning => (meaning.map (·.type.weight)).sum

theorem weight_suffix (type : TypeExpr) (suffixes : Nat) :
    (suffix type suffixes).weight = type.weight := by
  induction suffixes with
  | zero => rfl
  | succ n ih => rw [suffix, TypeExpr.weight, ih]

theorem weigh_meaning {category : Category} (tree : SyntaxTree category) :
    category.weigh tree.meaning = tree.weight := by
  induction tree with
  | last part ih => exact ih
  | @more connective part rest ih ihRest =>
    -- the members of the rest weigh as much as the rest itself
    have whole := Alike.combine_cons_members connective part.meaning rest.meaning
    calc
      (connective.combine (part.meaning :: connective.members rest.meaning)).weight
        = (connective.combine [part.meaning, rest.meaning]).weight := whole.weight_eq
      _ = connective.total [part.meaning.weight, rest.meaning.weight] :=
        weight_combine connective _
      _ = connective.total [part.weight, rest.weight] :=
        congrArg₂ (fun m n => connective.total [m, n]) ih ihRest
  | suffixed primary suffixes ih => exact (weight_suffix _ _).trans ih
  | keyword | literal => rfl
  | paren inner ih => exact ih
  | generic name arguments ih => exact (weight_generic name _).trans (congrArg _ ih)
  | object members ih => exact (weight_object _).trans (congrArg _ ih)
  | lastArgument type ih => exact ih
  | argument type rest ih ihRest => exact congrArg₂ _ ih ihRest
  | noMember => rfl
  | member key optional type rest ih ihRest => exact congrArg₂ _ ih ihRest

theorem weight_items (tree : SyntaxTree .arguments) :
    tree.weight = (tree.items.map weight).sum := by
  fun_induction items tree with
  | case1 type => exact (List.sum_singleton).symm
  | case2 type rest ih => exact (congrArg (type.weight + ·) ih).trans List.sum_cons.symm

theorem weight_properties (tree : SyntaxTree .members) :
    tree.weight = (tree.properties.map (·.type.weight)).sum := by
  fun_induction properties tree with
  | case1 => rfl
  | case2 key optional type rest ih =>
    exact (congrArg (type.weight + ·) ih).trans List.sum_cons.symm

theorem two_le_weight {category : Category} (tree : SyntaxTree category)
    (some : category ≠ .members) : 2 ≤ tree.weight := by
  induction tree with
  | last part ih => exact ih (by simp)
  | @more connective part rest ih ihRest =>
    -- neither a sum nor a product of such numbers is below one of them
    have left : 2 ≤ part.weight := ih (by simp)
    have right : 2 ≤ rest.weight := ihRest (by simp)
    cases connective with
    | union => simpa [weight, Connective.total] using left.trans (Nat.le_add_right _ rest.weight)
    | intersection =>
      simpa [weight, Connective.total] using left.trans (Nat.le_mul_of_pos_right _ (by omega))
  | suffixed primary suffixes ih => exact ih (by simp)
  | keyword | literal => exact le_rfl
  | paren inner ih => exact ih (by simp)
  | generic | object => exact Nat.le_add_right 2 _
  | lastArgument type ih => exact ih (by simp)
  | argument type rest ih _ => exact (ih (by simp)).trans (Nat.le_add_right _ _)
  | noMember | member => exact absurd rfl some

/-! ### Trees next to an ampersand -/

/-- The tree has several alternatives. -/
def IsWide : SyntaxTree (.type (.chain .union)) → Prop
  | last _ => False
  | more _ _ => True

/-- The members of two alternatives in one. -/
def joinParts (part part' : SyntaxTree (.type Connective.union.inner)) :
    SyntaxTree (.type Connective.union.inner) :=
  chain part part'

/-- Draws the part to the first alternative. -/
def glueFirst (part : SyntaxTree (.type Connective.union.inner)) :
    SyntaxTree (.type (.chain .union)) → SyntaxTree (.type (.chain .union))
  | last first => last (part.joinParts first)
  | more first rest => more (part.joinParts first) rest

/-- Draws the last alternative of one tree and the first one of another together. -/
def glue : SyntaxTree (.type (.chain .union)) → SyntaxTree (.type (.chain .union)) →
    SyntaxTree (.type (.chain .union))
  | last part, tree => glueFirst part tree
  | more part rest, tree => more part (glue rest tree)

theorem tokens_joinParts (part part' : SyntaxTree (.type Connective.union.inner)) :
    (part.joinParts part').tokens = part.tokens ++ .ampersand :: part'.tokens :=
  tokens_chain part part'

theorem tokens_glue (tree tree' : SyntaxTree (.type (.chain .union))) :
    (tree.glue tree').tokens = tree.tokens ++ .ampersand :: tree'.tokens := by
  fun_induction glue tree tree' with
  | case1 part tree' => cases tree' <;> simp [glueFirst, tokens, tokens_joinParts]
  | case2 part rest tree' ih => simp [tokens, ih]

theorem isWide_glue {tree tree' : SyntaxTree (.type (.chain .union))} :
    (tree.glue tree').IsWide ↔ tree.IsWide ∨ tree'.IsWide := by
  cases tree with
  | last part => cases tree' <;> simp [glue, glueFirst, IsWide]
  | more part rest => simp [glue, IsWide]

theorem weight_chain {connective : Connective}
    (tree tree' : SyntaxTree (.type (.chain connective))) :
    (tree.chain tree').weight = connective.total [tree.weight, tree'.weight] := by
  fun_induction chain tree tree' with
  | case1 part tree' => rfl
  | case2 part rest tree' ih =>
    have assoc := connective.total_flatten [part.weight] [rest.weight, tree'.weight] []
    have assoc' := connective.total_flatten [] [part.weight, rest.weight] [tree'.weight]
    rw [weight, ih, weight]
    exact assoc.trans assoc'.symm

theorem weight_last (part : SyntaxTree (.type Connective.union.inner)) :
    (last part).weight = part.weight := rfl

theorem weight_more (part : SyntaxTree (.type Connective.union.inner))
    (rest : SyntaxTree (.type (.chain .union))) :
    (more part rest).weight = part.weight + rest.weight := by
  simp [weight, Connective.total]

theorem weight_joinParts (part part' : SyntaxTree (.type Connective.union.inner)) :
    (part.joinParts part').weight = part.weight * part'.weight :=
  (weight_chain part part').trans List.prod_pair

/-- Only the first of several alternatives is drawn to the part; multiplied out, the others would
count as well. -/
theorem weight_glueFirst (part : SyntaxTree (.type Connective.union.inner))
    (tree : SyntaxTree (.type (.chain .union))) :
    (glueFirst part tree).weight ≤ part.weight * tree.weight ∧
      (tree.IsWide → (glueFirst part tree).weight < part.weight * tree.weight) := by
  cases tree with
  | last first =>
    simp only [glueFirst, weight_last, weight_joinParts]
    exact ⟨le_rfl, False.elim⟩
  | more first rest =>
    have heavy : 2 ≤ part.weight := two_le_weight part (by simp)
    have heavyRest : 2 ≤ rest.weight := two_le_weight rest (by simp)
    have less : (glueFirst part (more first rest)).weight <
        part.weight * (more first rest).weight := by
      -- `x * y + z` against `x * (y + z)`
      simp only [glueFirst, weight_more, weight_joinParts]
      nlinarith
    exact ⟨less.le, fun _ => less⟩

/-- Gluing trees loses weight if one of them has several alternatives. -/
theorem weight_glue (tree tree' : SyntaxTree (.type (.chain .union))) :
    (tree.glue tree').weight ≤ tree.weight * tree'.weight ∧
      (tree.IsWide ∨ tree'.IsWide → (tree.glue tree').weight < tree.weight * tree'.weight) := by
  fun_induction glue tree tree' with
  | case1 part tree' =>
    obtain ⟨le, lt⟩ := weight_glueFirst part tree'
    refine ⟨le, ?_⟩
    rintro (⟨⟨⟩⟩ | wide)
    exact lt wide
  | case2 part rest tree' ih =>
    have heavy : 2 ≤ part.weight := two_le_weight part (by simp)
    have heavy' : 2 ≤ tree'.weight := two_le_weight tree' (by simp)
    have less : (more part (rest.glue tree')).weight < (more part rest).weight * tree'.weight := by
      -- `x + g` against `(x + y) * z`, where `g` is at most `y * z`
      rw [weight_more, weight_more]
      nlinarith [ih.1]
    exact ⟨less.le, fun _ => less⟩

/-! ### Trees one after another -/

theorem weight_lift (tree : SyntaxTree (.type .suffixed)) (strength : Strength) :
    (tree.lift strength).weight = tree.weight := by
  fun_cases lift tree strength <;> rfl

theorem isWide_chain (tree tree' : SyntaxTree (.type (.chain .union))) :
    (tree.chain tree').IsWide := by
  cases tree <;> simp [chain, IsWide]

/-- One tree after another, with the mark of the connective between their tokens. -/
def join : Connective → SyntaxTree (.type (.chain .union)) →
    SyntaxTree (.type (.chain .union)) → SyntaxTree (.type (.chain .union))
  | .union => chain
  | .intersection => glue

theorem tokens_join (connective : Connective) (tree tree' : SyntaxTree (.type (.chain .union))) :
    (join connective tree tree').tokens = tree.tokens ++ connective.mark :: tree'.tokens := by
  cases connective with
  | union => exact tokens_chain tree tree'
  | intersection => exact tokens_glue tree tree'

theorem weight_join_le (connective : Connective)
    (tree tree' : SyntaxTree (.type (.chain .union))) :
    (join connective tree tree').weight ≤ connective.total [tree.weight, tree'.weight] := by
  cases connective with
  | union => exact (weight_chain tree tree').le
  | intersection => exact (weight_glue tree tree').1.trans_eq List.prod_pair.symm

theorem weight_join_lt {tree tree' : SyntaxTree (.type (.chain .union))}
    (wide : tree.IsWide ∨ tree'.IsWide) :
    (join .intersection tree tree').weight <
      Connective.intersection.total [tree.weight, tree'.weight] :=
  ((weight_glue tree tree').2 wide).trans_eq List.prod_pair.symm

theorem isWide_join {connective : Connective} {tree tree' : SyntaxTree (.type (.chain .union))}
    (wide : connective = .union ∨ tree.IsWide ∨ tree'.IsWide) :
    (join connective tree tree').IsWide := by
  cases connective with
  | union => exact isWide_chain tree tree'
  | intersection => exact isWide_glue.mpr (wide.resolve_left (by simp))

end SyntaxTree

end ApiTypes
