import ApiTypes.Proofs.TypeExpr.Grammar
import ApiTypes.Proofs.TypeExpr.Within

/-!
# Types in their places

A context is a type with a hole. What it prints around the hole does not depend on what the hole
is filled with, and that is laid out as it is alone, but for the indentation of its lines.

## Main definitions

* `TypeExpr.Frame`, `TypeExpr.Context` — what stands around a type, right around it and as a whole
* `Frame.fill`, `Context.fill` — the type with the hole filled
* `Context.depth` — the number of object types around the hole
* `TypeExpr.StandsAt` — a type fills a hole of another one at that depth
* `Piece.deepen` — a piece that stands further inside

## Main results

* `TypeExpr.within_iff_exists_context` — a type is inside another one if it fills a hole of it
* `Context.layout_fill` — a filled context is laid out as the context and what it is filled with
* `TypeExpr.layout_add` — the depth of a type only moves its lines
-/

namespace ApiTypes

namespace TypeExpr

/-- A place right inside a type, with what stands around it. -/
inductive Frame where
  | member (connective : Connective) (before after : List TypeExpr)
  | element
  | inner
  | argument (name : String) (before after : List TypeExpr)
  | property (before : List (Member TypeExpr)) (key : Key) (optional : Bool)
      (after : List (Member TypeExpr))

namespace Frame

/-- The type that has the given one at the place. -/
def fill : Frame → TypeExpr → TypeExpr
  | member connective before after, type => connective.combine (before ++ type :: after)
  | element, type => .array type
  | inner, type => .paren type
  | argument name before after, type => .generic name (before ++ type :: after)
  | property before key optional after, type => .object (before ++ ⟨key, optional, type⟩ :: after)

/-- How many object types the frame puts around the place. -/
def depth : Frame → Nat
  | property .. => 1
  | _ => 0

end Frame

theorem mem_parts_iff_exists_frame {part outer : TypeExpr} :
    part ∈ outer.parts ↔ ∃ frame : Frame, frame.fill part = outer := by
  constructor
  · intro among
    cases outer with
    | keyword | literal => cases among
    | union members =>
      obtain ⟨before, after, rfl⟩ := List.append_of_mem among
      exact ⟨.member .union before after, rfl⟩
    | intersection members =>
      obtain ⟨before, after, rfl⟩ := List.append_of_mem among
      exact ⟨.member .intersection before after, rfl⟩
    | array element => exact ⟨.element, List.mem_singleton.mp among ▸ rfl⟩
    | paren inner => exact ⟨.inner, List.mem_singleton.mp among ▸ rfl⟩
    | generic name arguments =>
      obtain ⟨before, after, rfl⟩ := List.append_of_mem among
      exact ⟨.argument name before after, rfl⟩
    | object members =>
      obtain ⟨⟨key, optional, type⟩, isMember, rfl⟩ := List.mem_map.mp among
      obtain ⟨before, after, rfl⟩ := List.append_of_mem isMember
      exact ⟨.property before key optional after, rfl⟩
  · rintro ⟨frame, rfl⟩
    cases frame with
    | member connective => cases connective <;> simp [Frame.fill, Connective.combine, parts]
    | element | inner | argument | property => simp [Frame.fill, parts]

/-- A place anywhere inside a type: the frames around it, the outermost one first. -/
abbrev Context := List Frame

namespace Context

/-- The type that has the given one at the place. -/
def fill (context : Context) (type : TypeExpr) : TypeExpr :=
  context.foldr Frame.fill type

/-- The number of object types around the place. -/
def depth : Context → Nat
  | [] => 0
  | frame :: context => depth context + frame.depth

end Context

theorem within_iff_exists_context {inner outer : TypeExpr} :
    Within inner outer ↔ ∃ context : Context, context.fill inner = outer := by
  constructor
  · intro inside
    induction inside with
    | refl => exact ⟨[], rfl⟩
    | tail _ isPart ih =>
      obtain ⟨context, rfl⟩ := ih
      obtain ⟨frame, rfl⟩ := mem_parts_iff_exists_frame.mp isPart
      exact ⟨frame :: context, rfl⟩
  · rintro ⟨context, rfl⟩
    induction context with
    | nil => exact .refl inner
    | cons frame context ih =>
      exact ih.trans (.part (mem_parts_iff_exists_frame.mpr ⟨frame, rfl⟩))

/-- The type fills a hole of the other one that lies in so many of its object types. -/
def StandsAt (depth : Nat) (inner outer : TypeExpr) : Prop :=
  ∃ context : Context, context.depth = depth ∧ context.fill inner = outer

namespace StandsAt

theorem refl (type : TypeExpr) : StandsAt 0 type type := ⟨[], rfl, rfl⟩

variable {depth : Nat} {inner type : TypeExpr}

theorem into (frame : Frame) (h : StandsAt depth inner type) :
    StandsAt (depth + frame.depth) inner (frame.fill type) := by
  obtain ⟨context, rfl, rfl⟩ := h
  exact ⟨frame :: context, rfl, rfl⟩

/-- Only an object type adds to the depth. -/
theorem flat (frame : Frame) (level : frame.depth = 0) (h : StandsAt depth inner type) :
    StandsAt depth inner (frame.fill type) := by
  have inFrame := h.into frame
  rwa [level] at inFrame

theorem property {members : List (Member TypeExpr)} {key : Key} {optional : Bool}
    (among : ⟨key, optional, type⟩ ∈ members) (h : StandsAt depth inner type) :
    StandsAt (depth + 1) inner (.object members) := by
  obtain ⟨before, after, rfl⟩ := List.append_of_mem among
  exact h.into (.property before key optional after)

theorem member (connective : Connective) {members : List TypeExpr} (among : type ∈ members)
    (h : StandsAt depth inner type) : StandsAt depth inner (connective.combine members) := by
  obtain ⟨before, after, rfl⟩ := List.append_of_mem among
  exact h.flat (.member connective before after) rfl

theorem paren (h : StandsAt depth inner type) : StandsAt depth inner (.paren type) :=
  h.flat .inner rfl

theorem nullable (h : StandsAt depth inner type) (isNullable : Bool) :
    StandsAt depth inner (type.nullable isNullable) := by
  cases isNullable
  · exact h
  · exact h.flat (.argument nullableName [] []) rfl

theorem record (h : StandsAt depth inner type) : StandsAt depth inner (.record type) :=
  h.flat (.argument "Record" [.keyword .string] []) rfl

theorem arrayOf (h : StandsAt depth inner type) : StandsAt depth inner (.arrayOf type) := by
  refine flat .element rfl ?_
  split
  · exact h.paren
  · exact h

theorem intersectionOf {members : List TypeExpr} (among : type ∈ members)
    (h : StandsAt depth inner type) : StandsAt depth inner (.intersectionOf members) := by
  refine member .intersection (List.mem_map_of_mem among) ?_
  split
  · exact h.paren
  · exact h

end StandsAt

/-! ### What stands around a place -/

theorem separated_cons (separator part : List Piece) (after : List (List Piece)) :
    separated separator (part :: after) = part ++ after.flatMap (separator ++ ·) := by
  induction after generalizing part with
  | nil => simp [separated]
  | cons next after ih =>
    have more : next :: after ≠ [] := List.cons_ne_nil next after
    rw [separated, ih, List.flatMap_cons, List.append_assoc, List.append_assoc]
    exact more

/-- What a list is printed with around one of its parts. -/
theorem exists_separated_eq (separator : List Piece) (before after : List (List Piece)) :
    ∃ front back, ∀ part,
      separated separator (before ++ part :: after) = front ++ part ++ back := by
  cases before with
  | nil =>
    refine ⟨[], after.flatMap (separator ++ ·), fun part => ?_⟩
    rw [List.nil_append, List.nil_append, separated_cons]
  | cons first before =>
    refine ⟨first ++ before.flatMap (separator ++ ·) ++ separator,
      after.flatMap (separator ++ ·), fun part => ?_⟩
    rw [List.cons_append, separated_cons, List.flatMap_append, List.flatMap_cons]
    simp only [List.append_assoc]

theorem layoutAll_eq_map (depth : Nat) (types : List TypeExpr) :
    layoutAll depth types = types.map (layout depth) := by
  induction types with
  | nil => rfl
  | cons type rest ih => rw [layoutAll, ih, List.map_cons]

theorem layoutMembers_append (depth : Nat) (before after : List (Member TypeExpr)) :
    layoutMembers depth (before ++ after) =
      layoutMembers depth before ++ layoutMembers depth after := by
  induction before with
  | nil => rfl
  | cons member before ih =>
    obtain ⟨key, optional, type⟩ := member
    rw [List.cons_append, layoutMembers, layoutMembers, ih]
    simp only [List.append_assoc, List.cons_append]

theorem exists_layout_list_eq (separator : List Piece) (depth : Nat)
    (before after : List TypeExpr) :
    ∃ front back, ∀ type, separated separator (layoutAll depth (before ++ type :: after)) =
      front ++ layout depth type ++ back := by
  obtain ⟨front, back, around⟩ :=
    exists_separated_eq separator (before.map (layout depth)) (after.map (layout depth))
  refine ⟨front, back, fun type => ?_⟩
  rw [layoutAll_eq_map, List.map_append, List.map_cons, around]

/-- A frame is printed around what it is filled with. -/
theorem Frame.layout_fill (frame : Frame) (depth : Nat) :
    ∃ front back, ∀ type, layout depth (frame.fill type) =
      front ++ layout (depth + frame.depth) type ++ back := by
  cases frame with
  | member connective before after =>
    obtain ⟨front, back, around⟩ :=
      exists_layout_list_eq [.space, .token connective.mark, .space] depth before after
    refine ⟨front, back, fun type => ?_⟩
    cases connective <;> exact around type
  | element => exact ⟨[], [.token .openBracket, .token .closeBracket], fun type => rfl⟩
  | inner => exact ⟨[.token .openParen], [.token .closeParen], fun type => rfl⟩
  | argument name before after =>
    obtain ⟨front, back, around⟩ :=
      exists_layout_list_eq [.token .comma, .space] depth before after
    refine ⟨.token (.name name) :: .token .openAngle :: front, back ++ [.token .closeAngle],
      fun type => ?_⟩
    rw [fill, layout, around type]
    simp [Frame.depth]
  | property before key optional after =>
    -- the properties in front, the line up to the type, and the properties behind
    refine ⟨.token .openBrace :: layoutMembers (depth + 1) before ++
        .line (depth + 1) :: (Member.mk key optional ()).opening,
      .token .semicolon :: layoutMembers (depth + 1) after ++ [.line depth, .token .closeBrace],
      fun type => ?_⟩
    rw [fill, layout, layoutMembers_append, layoutMembers]
    simp [Frame.depth]

theorem Context.layout_fill (context : Context) (depth : Nat) :
    ∃ front back, ∀ type, layout depth (context.fill type) =
      front ++ layout (depth + context.depth) type ++ back := by
  induction context generalizing depth with
  | nil => exact ⟨[], [], fun type => by simp [fill, Context.depth]⟩
  | cons frame context ih =>
    -- the outermost frame prints around what the others print
    obtain ⟨front, back, around⟩ := frame.layout_fill depth
    obtain ⟨front', back', inside⟩ := ih (depth + frame.depth)
    refine ⟨front ++ front', back' ++ back, fun type => ?_⟩
    have whole :
        Context.fill (frame :: context) type = frame.fill (Context.fill context type) := rfl
    have total : depth + Context.depth (frame :: context) =
        depth + frame.depth + Context.depth context := by
      rw [Context.depth]
      omega
    rw [whole, around, inside, total]
    simp only [List.append_assoc]

end TypeExpr

/-! ### Standing further inside -/

/-- The piece where it stands inside so many more object types. -/
def Piece.deepen (more : Nat) : Piece → Piece
  | line depth => line (depth + more)
  | piece => piece

theorem Member.map_deepen_opening {τ : Type} (member : Member τ) (more : Nat) :
    member.opening.map (Piece.deepen more) = member.opening := by
  obtain ⟨key, optional, type⟩ := member
  cases optional <;> rfl

namespace TypeExpr

theorem map_separated (f : Piece → Piece) (separator : List Piece) (parts : List (List Piece)) :
    (separated separator parts).map f =
      separated (separator.map f) (parts.map (List.map f)) := by
  cases parts with
  | nil => rfl
  | cons part after =>
    rw [List.map_cons, separated_cons, separated_cons, List.map_append, List.map_flatMap,
      List.flatMap_map]
    simp only [List.map_append]

mutual

/-- The depth at which a type stands shows in its lines only. -/
theorem layout_add (depth more : Nat) : ∀ type : TypeExpr,
    layout (depth + more) type = (layout depth type).map (Piece.deepen more)
  | keyword _ | literal _ => by simp only [layout, List.map_cons, List.map_nil, Piece.deepen]
  | union members | intersection members => by
    rw [layout, layout, map_separated, layoutAll_add depth more members]
    rfl
  | array element => by
    rw [layout, layout, List.map_append, layout_add depth more element]
    rfl
  | paren inner => by
    rw [layout, layout, List.map_append, List.map_cons, layout_add depth more inner]
    rfl
  | generic name arguments => by
    rw [layout, layout, List.map_append, List.map_cons, List.map_cons, map_separated,
      layoutAll_add depth more arguments]
    rfl
  | object members => by
    -- the braces stand at the depth of the type, and the properties one further inside
    have deeper : depth + more + 1 = (depth + 1) + more := by omega
    rw [layout, layout, List.map_append, List.map_cons, deeper,
      layoutMembers_add (depth + 1) more members]
    rfl

theorem layoutAll_add (depth more : Nat) : ∀ types : List TypeExpr,
    layoutAll (depth + more) types = (layoutAll depth types).map (List.map (Piece.deepen more))
  | [] => rfl
  | type :: rest => by
    rw [layoutAll, layoutAll, List.map_cons, layout_add depth more type,
      layoutAll_add depth more rest]

theorem layoutMembers_add (depth more : Nat) : ∀ members : List (Member TypeExpr),
    layoutMembers (depth + more) members = (layoutMembers depth members).map (Piece.deepen more)
  | [] => rfl
  | ⟨key, optional, type⟩ :: rest => by
    rw [layoutMembers, layoutMembers, layout_add depth more type,
      layoutMembers_add depth more rest]
    simp only [List.map_append, List.map_cons, Member.map_deepen_opening, Piece.deepen]

end

end TypeExpr

end ApiTypes
