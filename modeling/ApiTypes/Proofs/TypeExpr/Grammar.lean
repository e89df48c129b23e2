import ApiTypes.TypeExpr.Printer
import Mathlib.Data.List.Basic

/-!
# A grammar of type expressions

The grammar by which a printed type is read: `[]` binds tighter than `&`, and `&` tighter than
`|`. A syntax tree is what a stretch of tokens is read as; the tokens determine the tree.

## Main definitions

* `TypeExpr.tokens` — the tokens that are printed for a type
* `Connective` — union and intersection
* `Strength` — how tightly a type is bound together
* `SyntaxTree` — syntax trees, by the category that they are read as
* `SyntaxTree.tokens` — the tokens of a tree, `SyntaxTree.meaning` the type that it stands for

## Main results

* `SyntaxTree.eq_of_tokens_append` — a tree is determined by its tokens and where they end
* `SyntaxTree.tokens_injective` — the grammar is unambiguous
-/

namespace ApiTypes

/-- The token of a piece, if it has one. -/
def Piece.token? : Piece → Option Token
  | token t => some t
  | _ => none

@[simp] theorem Piece.token?_token (t : Token) : (token t).token? = some t := rfl

@[simp] theorem Piece.token?_space : space.token? = none := rfl

@[simp] theorem Piece.token?_line (depth : Nat) : (line depth).token? = none := rfl

/-- The tokens that are printed for a type. -/
def TypeExpr.tokens (type : TypeExpr) : List Token :=
  (layout 0 type).filterMap Piece.token?

/-- What joins the members of a combination. -/
inductive Connective where
  | union
  | intersection
deriving DecidableEq, Repr

namespace Connective

/-- The mark between two members. -/
def mark : Connective → Token
  | union => .bar
  | intersection => .ampersand

/-- The combination of the members. -/
def combine : Connective → List TypeExpr → TypeExpr
  | union => .union
  | intersection => .intersection

/-- The members of a type as a combination: its own ones, or the type itself. -/
def members : Connective → TypeExpr → List TypeExpr
  | union, .union members => members
  | intersection, .intersection members => members
  | _, type => [type]

end Connective

/-- How tightly a type is bound together: a chain of members between marks, or a type with
suffixes. -/
inductive Strength where
  | chain (connective : Connective)
  | suffixed
deriving DecidableEq, Repr

/-- The strength of the members of a chain. -/
def Connective.inner : Connective → Strength
  | union => .chain .intersection
  | intersection => .suffixed

theorem Literal.token_injective : Function.Injective Literal.token := by
  intro value value' same
  cases value <;> cases value' <;> simp_all [Literal.token]

theorem Key.token_injective : Function.Injective Key.token := by
  intro key key' same
  cases key <;> cases key' <;> simp_all [Key.token]

namespace SyntaxTree

/-- What a stretch of tokens can be read as. -/
inductive Category where
  | type (strength : Strength)
  | primary
  | arguments
  | members
deriving DecidableEq, Repr

/-- What a tree of a category stands for. -/
abbrev Category.Meaning : Category → Type
  | type _ | primary => TypeExpr
  | arguments => List TypeExpr
  | members => List (Member TypeExpr)

end SyntaxTree

open SyntaxTree (Category)

/-- A syntax tree. A chain has a member or more, a list of arguments is not empty. -/
inductive SyntaxTree : Category → Type where
  | last {connective : Connective} (part : SyntaxTree (.type connective.inner)) :
      SyntaxTree (.type (.chain connective))
  | more {connective : Connective} (part : SyntaxTree (.type connective.inner))
      (rest : SyntaxTree (.type (.chain connective))) : SyntaxTree (.type (.chain connective))
  | suffixed (primary : SyntaxTree .primary) (suffixes : Nat) : SyntaxTree (.type .suffixed)
  | keyword (word : Keyword) : SyntaxTree .primary
  | literal (value : Literal) : SyntaxTree .primary
  | paren (inner : SyntaxTree (.type (.chain .union))) : SyntaxTree .primary
  | generic (name : String) (arguments : SyntaxTree .arguments) : SyntaxTree .primary
  | object (members : SyntaxTree .members) : SyntaxTree .primary
  | lastArgument (type : SyntaxTree (.type (.chain .union))) : SyntaxTree .arguments
  | argument (type : SyntaxTree (.type (.chain .union))) (rest : SyntaxTree .arguments) :
      SyntaxTree .arguments
  | noMember : SyntaxTree .members
  | member (key : Key) (optional : Bool) (type : SyntaxTree (.type (.chain .union)))
      (rest : SyntaxTree .members) : SyntaxTree .members

namespace SyntaxTree

/-- The tokens of so many `[]`. -/
def brackets : Nat → List Token
  | 0 => []
  | n + 1 => .openBracket :: .closeBracket :: brackets n

/-- The tokens of an optional property's mark. -/
def optionalMark (optional : Bool) : List Token :=
  if optional then [.question] else []

/-- The tokens of a tree. -/
def tokens {category : Category} : SyntaxTree category → List Token
  | last part => part.tokens
  | @more connective part rest => part.tokens ++ connective.mark :: rest.tokens
  | suffixed primary suffixes => primary.tokens ++ brackets suffixes
  | keyword word => [.keyword word]
  | literal value => [value.token]
  | paren inner => .openParen :: (inner.tokens ++ [.closeParen])
  | generic name arguments => .name name :: .openAngle :: (arguments.tokens ++ [.closeAngle])
  | object members => .openBrace :: (members.tokens ++ [.closeBrace])
  | lastArgument type => type.tokens
  | argument type rest => type.tokens ++ .comma :: rest.tokens
  | noMember => []
  | member key optional type rest =>
    key.token :: (optionalMark optional ++ .colon :: (type.tokens ++ .semicolon :: rest.tokens))

/-- The type with so many suffixes. -/
def suffix (type : TypeExpr) : Nat → TypeExpr
  | 0 => type
  | n + 1 => .array (suffix type n)

/-- What a tree stands for. Parentheses are kept, and the members of a chain stand side by
side. -/
def meaning {category : Category} : SyntaxTree category → category.Meaning
  | last part => part.meaning
  | @more connective part rest =>
    connective.combine (part.meaning :: connective.members rest.meaning)
  | suffixed primary suffixes => suffix primary.meaning suffixes
  | keyword word => TypeExpr.keyword word
  | literal value => TypeExpr.literal value
  | paren inner => TypeExpr.paren inner.meaning
  | generic name arguments => TypeExpr.generic name arguments.meaning
  | object members => TypeExpr.object members.meaning
  | lastArgument type => [type.meaning]
  | argument type rest => List.cons type.meaning rest.meaning
  | noMember => ([] : List (Member TypeExpr))
  | member key optional type rest => List.cons (Member.mk key optional type.meaning) rest.meaning

/-! ### The grammar is unambiguous -/

/-- Whether a token could be read as part of what stands before it. -/
@[simp] def Category.Continues : Category → Token → Prop
  | type (.chain .union), t => t = .bar ∨ t = .ampersand ∨ t = .openBracket
  | type (.chain .intersection), t => t = .ampersand ∨ t = .openBracket
  | type .suffixed, t => t = .openBracket
  | primary, _ => False
  | arguments, t => t = .comma ∨ t = .bar ∨ t = .ampersand ∨ t = .openBracket
  | members, t => (∃ text, t = .name text) ∨ ∃ text, t = .string text

/-- The rest of the tokens cannot be read as part of what stands before it. -/
def Stops (category : Category) (rest : List Token) : Prop :=
  ∀ t ∈ rest.head?, ¬ category.Continues t

section Stops

variable {t : Token} {rest : List Token} {connective : Connective}

@[simp] theorem stops_nil {category : Category} : Stops category [] := by simp [Stops]

@[simp] theorem stops_cons {category : Category} :
    Stops category (t :: rest) ↔ ¬ category.Continues t := by simp [Stops]

theorem not_stops_key {key : Key} : ¬ Stops .members (key.token :: rest) := by
  cases key <;> simp [Key.token]

theorem Stops.of_primary : Stops .primary rest := by
  intro t _ continues
  exact continues

theorem Stops.inner (h : Stops (.type (.chain connective)) rest) :
    Stops (.type connective.inner) rest := by
  intro t head continues
  refine h t head ?_
  cases connective
  · exact .inr continues
  · exact .inr continues

theorem Stops.mark : Stops (.type connective.inner) (connective.mark :: rest) := by
  cases connective <;> simp [Connective.inner, Connective.mark]

theorem not_stops_mark : ¬ Stops (.type (.chain connective)) (connective.mark :: rest) := by
  cases connective <;> simp [Connective.mark]

theorem Stops.argument (h : Stops .arguments rest) : Stops (.type (.chain .union)) rest :=
  fun t head continues => h t head (.inr continues)

end Stops

theorem eq_of_brackets_append {m n : Nat} {rest rest' : List Token}
    (stops : Stops (.type .suffixed) rest) (stops' : Stops (.type .suffixed) rest')
    (same : brackets m ++ rest = brackets n ++ rest') : m = n ∧ rest = rest' := by
  induction m generalizing n with
  | zero =>
    cases n with
    | zero => exact ⟨rfl, same⟩
    | succ n =>
      obtain rfl : rest = _ := same
      simp [brackets] at stops
  | succ m ih =>
    cases n with
    | zero =>
      obtain rfl : _ = rest' := same
      simp [brackets] at stops'
    | succ n =>
      simp only [brackets, List.cons_append, List.cons.injEq, true_and] at same
      obtain ⟨rfl, sameRest⟩ := ih same
      exact ⟨rfl, sameRest⟩

theorem eq_of_optionalMark_append {optional optional' : Bool} {rest rest' : List Token}
    (same : optionalMark optional ++ .colon :: rest = optionalMark optional' ++ .colon :: rest') :
    optional = optional' ∧ rest = rest' := by
  cases optional <;> cases optional' <;> simp_all [optionalMark]

/-- A tree is determined by its tokens, whatever tokens come after it that cannot be read as part
of it. -/
theorem eq_of_tokens_append {category : Category} (tree tree' : SyntaxTree category)
    {rest rest' : List Token} (stops : Stops category rest) (stops' : Stops category rest')
    (same : tree.tokens ++ rest = tree'.tokens ++ rest') : tree = tree' ∧ rest = rest' := by
  induction tree generalizing rest rest' with
  | last part ih =>
    cases tree' with
    | last part' =>
      obtain ⟨rfl, sameRest⟩ := ih part' stops.inner stops'.inner same
      exact ⟨rfl, sameRest⟩
    | more part' tail' =>
      -- one chain ends where the other goes on, so a mark comes after the first
      simp only [tokens, List.append_assoc, List.cons_append] at same
      obtain ⟨-, rfl⟩ := ih part' stops.inner .mark same
      exact absurd stops not_stops_mark
  | more part tail ih ihTail =>
    cases tree' with
    | last part' =>
      simp only [tokens, List.append_assoc, List.cons_append] at same
      obtain ⟨-, rfl⟩ := ih part' .mark stops'.inner same
      exact absurd stops' not_stops_mark
    | more part' tail' =>
      simp only [tokens, List.append_assoc, List.cons_append] at same
      obtain ⟨rfl, sameTail⟩ := ih part' .mark .mark same
      obtain ⟨rfl, sameRest⟩ := ihTail tail' stops stops' (List.cons.inj sameTail).2
      exact ⟨rfl, sameRest⟩
  | suffixed primary suffixes ih =>
    cases tree' with
    | suffixed primary' suffixes' =>
      -- a primary is closed: whatever comes after it is not part of it
      simp only [tokens, List.append_assoc] at same
      obtain ⟨rfl, sameTail⟩ := ih primary' .of_primary .of_primary same
      obtain ⟨rfl, sameRest⟩ := eq_of_brackets_append stops stops' sameTail
      exact ⟨rfl, sameRest⟩
  -- a primary is told by its first token
  | keyword word =>
    cases tree' with
    | keyword word' => simpa [tokens] using same
    | literal value' => cases value' <;> simp [tokens, Literal.token] at same
    | paren _ | generic _ _ | object _ => simp [tokens] at same
  | literal value =>
    cases tree' with
    | literal value' =>
      simp only [tokens, List.cons_append, List.nil_append, List.cons.injEq] at same
      exact ⟨congrArg literal (Literal.token_injective same.1), same.2⟩
    | keyword _ | paren _ | generic _ _ | object _ =>
      cases value <;> simp [tokens, Literal.token] at same
  | paren inner ih =>
    cases tree' with
    | paren inner' =>
      simp only [tokens, List.cons_append, List.append_assoc, List.cons.injEq, true_and] at same
      obtain ⟨rfl, sameRest⟩ := ih inner' (by simp) (by simp) same
      exact ⟨rfl, (List.cons.inj sameRest).2⟩
    | literal value' => cases value' <;> simp [tokens, Literal.token] at same
    | keyword _ | generic _ _ | object _ => simp [tokens] at same
  | generic name arguments ih =>
    cases tree' with
    | generic name' arguments' =>
      simp only [tokens, List.cons_append, List.append_assoc, List.cons.injEq, Token.name.injEq,
        true_and] at same
      obtain ⟨rfl, same⟩ := same
      obtain ⟨rfl, sameRest⟩ := ih arguments' (by simp) (by simp) same
      exact ⟨rfl, (List.cons.inj sameRest).2⟩
    | literal value' => cases value' <;> simp [tokens, Literal.token] at same
    | keyword _ | paren _ | object _ => simp [tokens] at same
  | object members ih =>
    cases tree' with
    | object members' =>
      simp only [tokens, List.cons_append, List.append_assoc, List.cons.injEq, true_and] at same
      obtain ⟨rfl, sameRest⟩ := ih members' (by simp) (by simp) same
      exact ⟨rfl, (List.cons.inj sameRest).2⟩
    | literal value' => cases value' <;> simp [tokens, Literal.token] at same
    | keyword _ | paren _ | generic _ _ => simp [tokens] at same
  | lastArgument type ih =>
    cases tree' with
    | lastArgument type' =>
      obtain ⟨rfl, sameRest⟩ := ih type' stops.argument stops'.argument same
      exact ⟨rfl, sameRest⟩
    | argument type' tail' =>
      -- likewise, a comma comes after the shorter list
      simp only [tokens, List.append_assoc, List.cons_append] at same
      obtain ⟨-, rfl⟩ := ih type' stops.argument (by simp) same
      simp at stops
  | argument type tail ih ihTail =>
    cases tree' with
    | lastArgument type' =>
      simp only [tokens, List.append_assoc, List.cons_append] at same
      obtain ⟨-, rfl⟩ := ih type' (by simp) stops'.argument same
      simp at stops'
    | argument type' tail' =>
      simp only [tokens, List.append_assoc, List.cons_append] at same
      obtain ⟨rfl, sameTail⟩ := ih type' (by simp) (by simp) same
      obtain ⟨rfl, sameRest⟩ := ihTail tail' stops stops' (List.cons.inj sameTail).2
      exact ⟨rfl, sameRest⟩
  | noMember =>
    cases tree' with
    | noMember => exact ⟨rfl, same⟩
    | member key' _ _ _ =>
      -- and a key after the shorter list of members
      obtain rfl : rest = _ := same
      exact absurd stops not_stops_key
  | member key optional type tail ih ihTail =>
    cases tree' with
    | noMember =>
      obtain rfl : _ = rest' := same
      exact absurd stops' not_stops_key
    | member key' optional' type' tail' =>
      simp only [tokens, List.cons_append, List.append_assoc, List.cons.injEq] at same
      obtain ⟨sameKey, same⟩ := same
      obtain rfl := Key.token_injective sameKey
      obtain ⟨rfl, sameType⟩ := eq_of_optionalMark_append same
      obtain ⟨rfl, sameTail⟩ := ih type' (by simp) (by simp) sameType
      obtain ⟨rfl, sameRest⟩ := ihTail tail' stops stops' (List.cons.inj sameTail).2
      exact ⟨rfl, sameRest⟩

/-- No two trees of a category have the same tokens. -/
theorem tokens_injective {category : Category} :
    Function.Injective (tokens : SyntaxTree category → List Token) := by
  intro tree tree' same
  exact (eq_of_tokens_append tree tree' stops_nil stops_nil (congrArg (· ++ []) same)).1

end SyntaxTree

end ApiTypes
