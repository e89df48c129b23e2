import ApiTypes.Proofs.Rendering.Shape
import ApiTypes.Proofs.TypeExpr.Braces
import ApiTypes.Proofs.TypeExpr.Context

/-!
# Lines and the object types around them

A printed type breaks its line in front of a key and in front of the brace that closes an object
type, and the line that starts there is indented by two spaces for each object type around it. No
token breaks a line. So a type that stands further inside is printed as it is alone, with more
spaces behind each break.

## Main definitions

* `Aligned` — pieces whose lines are as deep as there are object types around them
* `Text.shifted` — a text with more spaces behind each line break
* `Text.indentation`, `BraceReader.openAround` — the spaces that a line starts with, and the object
  types that it lies in
* `Indents` — a text whose lines are indented by two spaces for each of these

## Main results

* `TypeExpr.Rendered.aligned_layout` — the layout of a rendered type is aligned
* `Aligned.indents_append` — aligned pieces are indented as their lines ask for
* `Aligned.flatMap_deepen` — further inside, their text is shifted
-/

namespace ApiTypes

/-- Pieces with the numbers of object types that are open in front of them and behind them. A line
starts with a key, or with the brace that closes the innermost object type. -/
inductive Aligned : Nat → List Piece → Nat → Prop where
  | nil (opened : Nat) : Aligned opened [] opened
  | space {opened final : Nat} {rest : List Piece} (behind : Aligned opened rest final) :
    Aligned opened (.space :: rest) final
  | token {opened final : Nat} {rest : List Piece} {t : Token} (ordinary : t.Ordinary)
    (behind : Aligned opened rest final) : Aligned opened (.token t :: rest) final
  | openBrace {opened final : Nat} {rest : List Piece} (behind : Aligned (opened + 1) rest final) :
    Aligned opened (.token .openBrace :: rest) final
  | closeBrace {opened final : Nat} {rest : List Piece} (behind : Aligned opened rest final) :
    Aligned (opened + 1) (.line opened :: .token .closeBrace :: rest) final
  | key {opened final : Nat} {rest : List Piece} (name : String)
    (behind : Aligned (opened + 1) rest final) :
    Aligned (opened + 1) (.line (opened + 1) :: .token (Key.ofName name).token :: rest) final

namespace Aligned

variable {opened middle final : Nat} {pieces other : List Piece}

theorem append (h : Aligned opened pieces middle) (h' : Aligned middle other final) :
    Aligned opened (pieces ++ other) final := by
  induction h with
  | nil => exact h'
  | space _ ih => exact .space (ih h')
  | token ordinary _ ih => exact .token ordinary (ih h')
  | openBrace _ ih => exact .openBrace (ih h')
  | closeBrace _ ih => exact .closeBrace (ih h')
  | key name _ ih => exact .key name (ih h')

theorem single {t : Token} (ordinary : t.Ordinary) : Aligned opened [.token t] opened :=
  .token ordinary (.nil opened)

theorem flatMap {α : Type} {list : List α} {f : α → List Piece}
    (each : ∀ a ∈ list, Aligned opened (f a) opened) : Aligned opened (list.flatMap f) opened := by
  induction list with
  | nil => exact .nil opened
  | cons a list ih =>
    obtain ⟨here, there⟩ := List.forall_mem_cons.mp each
    exact here.append (ih there)

/-- The line of a property, up to its type. -/
theorem opening (name : String) (optional : Bool) :
    Aligned (opened + 1)
      (.line (opened + 1) :: (Member.mk (Key.ofName name) optional ()).opening) (opened + 1) := by
  have ending : Aligned (opened + 1) [.token .colon, .space] (opened + 1) :=
    .token (.mark (by decide)) (.space (.nil _))
  cases optional with
  | true => exact .key name (.token (.mark (by decide)) ending)
  | false => exact .key name ending

end Aligned

/-! ### Layouts of rendered types -/

namespace TypeExpr

theorem aligned_list {opened : Nat} {separator : List Piece} {types : List TypeExpr}
    (between : Aligned opened separator opened)
    (each : ∀ type ∈ types, Aligned opened (layout opened type) opened) :
    Aligned opened (separated separator (layoutAll opened types)) opened := by
  cases types with
  | nil => exact .nil opened
  | cons type rest =>
    obtain ⟨first, others⟩ := List.forall_mem_cons.mp each
    rw [layoutAll_eq_map, List.map_cons, separated_cons, List.flatMap_map]
    exact first.append (.flatMap fun other among => between.append (others other among))

theorem aligned_generic {opened : Nat} {name : String} {arguments : List TypeExpr}
    (identifier : isIdentifier name)
    (each : ∀ type ∈ arguments, Aligned opened (layout opened type) opened) :
    Aligned opened (layout opened (.generic name arguments)) opened := by
  have comma : Aligned opened [.token .comma, .space] opened :=
    .token (.mark (by decide)) (.space (.nil opened))
  rw [layout]
  refine .token (.name identifier) (.token (.mark (by decide)) ?_)
  exact (aligned_list comma each).append (.single (.mark (by decide)))

theorem aligned_layoutMembers {opened : Nat} {members : List (Member TypeExpr)}
    (names : ∀ member ∈ members, ∃ name, member.key = Key.ofName name)
    (each : ∀ member ∈ members,
      Aligned (opened + 1) (layout (opened + 1) member.type) (opened + 1)) :
    Aligned (opened + 1) (layoutMembers (opened + 1) members) (opened + 1) := by
  induction members with
  | nil => exact .nil _
  | cons member rest ih =>
    obtain ⟨key, optional, type⟩ := member
    obtain ⟨⟨name, rfl⟩, otherNames⟩ := List.forall_mem_cons.mp names
    obtain ⟨first, others⟩ := List.forall_mem_cons.mp each
    -- a line up to the type of the property, the type, and the lines of the other properties
    rw [layoutMembers]
    exact ((Aligned.opening name optional).append first).append
      (.token (.mark (by decide)) (ih otherNames others))

/-- Behind a type, as many object types are open as in front of it. -/
theorem Rendered.aligned_layout {type : TypeExpr} (h : Rendered type) (opened : Nat) :
    Aligned opened (layout opened type) opened := by
  have between {mark : Token} (ordinary : mark.Ordinary) (opened : Nat) :
      Aligned opened [.space, .token mark, .space] opened :=
    .space (.token ordinary (.space (.nil opened)))
  induction h generalizing opened with
  | keyword word =>
    rw [layout]
    exact .single (.keyword word)
  | literal value =>
    rw [layout]
    exact .single (.literal value)
  | union _ ih | intersection _ ih =>
    rw [layout]
    exact aligned_list (between (.mark (by decide)) opened) fun type among => ih type among opened
  | array _ ih =>
    rw [layout]
    exact (ih opened).append (.token (.mark (by decide)) (.single (.mark (by decide))))
  | paren _ ih =>
    rw [layout]
    exact .token (.mark (by decide)) ((ih opened).append (.single (.mark (by decide))))
  | orNull _ ih =>
    exact aligned_generic (by decide +kernel) fun type among =>
      List.mem_singleton.mp among ▸ ih opened
  | record _ ih =>
    refine aligned_generic (by decide +kernel) fun type among => ?_
    rcases List.mem_cons.mp among with rfl | isValue
    · rw [layout]
      exact .single (.keyword .string)
    · exact List.mem_singleton.mp isValue ▸ ih opened
  | object names _ ih =>
    have members := aligned_layoutMembers names fun member among => ih member among (opened + 1)
    rw [layout]
    exact .openBrace (members.append (.closeBrace (.nil opened)))

end TypeExpr

/-! ### The text of aligned pieces -/

theorem Piece.chars_token (t : Token) : (Piece.token t).chars = t.chars := rfl

namespace Text

/-- The text with so many more spaces behind each line break. -/
def shifted (columns : Nat) (text : List Char) : List Char :=
  text.flatMap fun c => if c = '\n' then '\n' :: List.replicate columns ' ' else [c]

theorem shifted_append (columns : Nat) (text other : List Char) :
    shifted columns (text ++ other) = shifted columns text ++ shifted columns other :=
  List.flatMap_append

theorem shifted_newline_cons (columns : Nat) (text : List Char) :
    shifted columns ('\n' :: text) =
      '\n' :: (List.replicate columns ' ' ++ shifted columns text) := rfl

theorem shifted_of_not_mem {columns : Nat} {text : List Char} (oneLine : '\n' ∉ text) :
    shifted columns text = text := by
  induction text with
  | nil => rfl
  | cons c text ih =>
    obtain ⟨goesOn, inRest⟩ := not_or.mp (List.mem_cons.not.mp oneLine)
    rw [shifted, List.flatMap_cons, if_neg (Ne.symm goesOn)]
    exact congrArg (c :: ·) (ih inRest)

/-- The number of spaces that the line in front starts with. -/
def indentation (text : List Char) : Nat :=
  (text.takeWhile (· == ' ')).length

/-- Whether the line in front starts, behind its spaces, with the brace that closes an object
type. -/
def startsClosing (text : List Char) : Bool :=
  (text.dropWhile (· == ' ')).head? == some '\x7d'

section Spaces

variable {c : Char} (visible : c ≠ ' ') (columns : Nat) (rest : List Char)

include visible

theorem indentation_replicate_append :
    indentation (List.replicate columns ' ' ++ c :: rest) = columns := by
  rw [indentation, List.takeWhile_append_of_pos (by simp), List.takeWhile_cons_of_neg (by simpa)]
  simp

theorem startsClosing_replicate_append :
    startsClosing (List.replicate columns ' ' ++ c :: rest) = (c == '\x7d') := by
  rw [startsClosing, List.dropWhile_append_of_pos (by simp), List.dropWhile_cons_of_neg (by simpa)]
  rfl

end Spaces

end Text

/-- How many object types the line behind the reader lies in. One that the line itself closes first
does not count. -/
def BraceReader.openAround (reader : BraceReader) (line : List Char) : Nat :=
  reader.opened - if Text.startsClosing line then 1 else 0

/-- Every line that starts in the text is indented by two spaces for each object type it lies in. -/
def Indents (reader : BraceReader) (text : List Char) : Prop :=
  ∀ before after, text = before ++ '\n' :: after →
    Text.indentation after = 2 * (reader.read before).openAround after

namespace Indents

variable {reader : BraceReader} {front rest : List Char}

theorem append_of_not_mem (oneLine : '\n' ∉ front) (h : Indents (reader.read front) rest) :
    Indents reader (front ++ rest) := by
  intro before after whole
  rcases List.append_eq_append_iff.mp whole with ⟨middle, rfl, split⟩ | ⟨middle, rfl, split⟩
  · rw [BraceReader.read_append]
    exact h middle after split
  · cases middle with
    | nil =>
      rw [List.append_nil] at h
      exact h [] after split.symm
    | cons c middle =>
      -- the break would stand in the text in front
      obtain ⟨rfl, -⟩ := List.cons.inj split
      exact absurd (List.mem_append_right _ List.mem_cons_self) oneLine

theorem newline (starts : Text.indentation rest = 2 * reader.openAround rest)
    (same : reader.next '\n' = reader) (h : Indents reader rest) :
    Indents reader ('\n' :: rest) := by
  intro before after whole
  cases before with
  | nil =>
    obtain ⟨-, rfl⟩ := List.cons.inj whole
    exact starts
  | cons c before =>
    obtain ⟨rfl, split⟩ := List.cons.inj whole
    rw [BraceReader.read, List.foldl_cons, same]
    exact h before after split

/-- A line that starts with anything but a space. -/
theorem line {opened depth : Nat} {c : Char} (visible : c ≠ ' ')
    (deep : depth = opened - if c == '\x7d' then 1 else 0)
    (h : Indents ⟨opened, .code⟩ (c :: rest)) :
    Indents ⟨opened, .code⟩ ((Piece.line depth).chars ++ c :: rest) := by
  have spaces : BraceReader.read ⟨opened, .code⟩ (List.replicate (2 * depth) ' ') =
      ⟨opened, .code⟩ := BraceReader.read_of_not_mem (by simp) (by simp)
  have behind : Indents ⟨opened, .code⟩ (List.replicate (2 * depth) ' ' ++ c :: rest) := by
    refine append_of_not_mem (by simp) ?_
    rwa [spaces]
  refine newline ?_ rfl behind
  change Text.indentation (List.replicate (2 * depth) ' ' ++ c :: rest) =
    2 * BraceReader.openAround _ (List.replicate (2 * depth) ' ' ++ c :: rest)
  rw [Text.indentation_replicate_append visible, BraceReader.openAround,
    Text.startsClosing_replicate_append visible, ← deep]

end Indents

/-- In front of lines that are indented as they should be, aligned pieces are so, too. -/
theorem Aligned.indents_append {opened final : Nat} {pieces : List Piece}
    (aligned : Aligned opened pieces final) {text : List Char} (h : Indents ⟨final, .code⟩ text) :
    Indents ⟨opened, .code⟩ (pieces.flatMap Piece.chars ++ text) := by
  -- what follows is indented for as many object types as the pieces in front leave open
  induction aligned with
  | nil => exact h
  | space _ ih | openBrace _ ih =>
    rw [List.flatMap_cons, List.append_assoc]
    exact .append_of_not_mem (by decide) (ih h)
  | token ordinary _ ih =>
    rw [List.flatMap_cons, List.append_assoc]
    refine Indents.append_of_not_mem ordinary.oneLine ?_
    rw [Piece.chars, ordinary.read]
    exact ih h
  | @closeBrace opened final rest _ ih =>
    have brace : Indents ⟨opened + 1, .code⟩ (['\x7d'] ++ (rest.flatMap Piece.chars ++ text)) :=
      .append_of_not_mem (by decide) (ih h)
    rw [List.flatMap_cons, List.append_assoc]
    exact .line (by decide) rfl brace
  | @key opened final rest name _ ih =>
    have ordinary := Key.ordinary_ofName name
    have behind : Indents ⟨opened + 1, .code⟩
        ((Key.ofName name).token.chars ++ (rest.flatMap Piece.chars ++ text)) := by
      refine .append_of_not_mem ordinary.oneLine ?_
      rw [ordinary.read]
      exact ih h
    -- the line starts with the key, which is no brace, so no object type is closed in front of it
    obtain ⟨c, first, visible, notBrace⟩ := Key.exists_head?_ofName name
    obtain ⟨more, characters⟩ := List.head?_eq_some_iff.mp first
    rw [List.flatMap_cons, List.flatMap_cons, List.append_assoc, List.append_assoc,
      Piece.chars_token]
    rw [characters] at behind ⊢
    exact .line visible (by simp [notBrace]) behind

/-! ### Further inside -/

theorem Piece.chars_deepen_line (more depth : Nat) :
    ((Piece.line depth).deepen more).chars = Text.shifted (2 * more) (Piece.line depth).chars := by
  have spaces : Text.shifted (2 * more) (List.replicate (2 * depth) ' ') =
      List.replicate (2 * depth) ' ' := Text.shifted_of_not_mem (by simp)
  have total : 2 * (depth + more) = 2 * more + 2 * depth := by omega
  rw [Piece.deepen, Piece.chars, Piece.chars, Text.shifted_newline_cons, spaces, total,
    List.replicate_append_replicate]

/-- What stands further inside is the same text, shifted. -/
theorem Aligned.flatMap_deepen {opened final : Nat} {pieces : List Piece}
    (aligned : Aligned opened pieces final) (more : Nat) :
    (pieces.map (Piece.deepen more)).flatMap Piece.chars =
      Text.shifted (2 * more) (pieces.flatMap Piece.chars) := by
  have step {piece : Piece} {rest : List Piece}
      (here : (piece.deepen more).chars = Text.shifted (2 * more) piece.chars)
      (there : (rest.map (Piece.deepen more)).flatMap Piece.chars =
        Text.shifted (2 * more) (rest.flatMap Piece.chars)) :
      ((piece :: rest).map (Piece.deepen more)).flatMap Piece.chars =
        Text.shifted (2 * more) ((piece :: rest).flatMap Piece.chars) := by
    rw [List.map_cons, List.flatMap_cons, List.flatMap_cons, Text.shifted_append, here, there]
  have space : (Piece.space.deepen more).chars = Text.shifted (2 * more) Piece.space.chars := rfl
  have line (depth : Nat) := Piece.chars_deepen_line more depth
  have token {t : Token} (oneLine : '\n' ∉ t.chars) :
      ((Piece.token t).deepen more).chars = Text.shifted (2 * more) (Piece.token t).chars :=
    (Text.shifted_of_not_mem oneLine).symm
  -- tokens have no break behind which there could be more spaces
  induction aligned with
  | nil => rfl
  | space _ ih => exact step space ih
  | token ordinary _ ih => exact step (token ordinary.oneLine) ih
  | openBrace _ ih => exact step (token (by decide)) ih
  | closeBrace _ ih => exact step (line _) (step (token (by decide)) ih)
  | key name _ ih => exact step (line _) (step (token (Key.ordinary_ofName name).oneLine) ih)

end ApiTypes
