import ApiTypes.Proofs.Text.Split

/-!
# The lines and blocks of a text

A text is cut into its lines without losing anything, so the lines keep the breaks that end them.
An empty line is a break alone. It parts the text into blocks.

## Main definitions

* `Text.lines` — the lines of a text
* `Text.blocks` — the parts of a text between its empty lines
* `Text.IsParagraph` — whole lines, none of which is empty

## Main results

* `Text.flatten_lines` — nothing is lost
* `Text.lines_append_newline` — a text can be cut behind any break
* `Text.exists_of_lines_eq_append` — every line but the first stands behind a break
* `Text.blocks_paragraphs` — paragraphs with empty lines between them are found again
-/

namespace ApiTypes.Text

/-- The lines of a text, each with the line break that ends it. -/
def lines : List Char → List (List Char)
  | [] => []
  | c :: rest =>
    if c = '\n' then ['\n'] :: lines rest
    else
      match lines rest with
      | [] => [[c]]
      | line :: others => (c :: line) :: others

theorem lines_newline_cons (rest : List Char) : lines ('\n' :: rest) = ['\n'] :: lines rest := rfl

theorem lines_eq_nil_iff {text : List Char} : lines text = [] ↔ text = [] := by
  cases text with
  | nil => simp [lines]
  | cons c rest =>
    rw [lines]
    split
    · simp
    · split <;> simp

/-- A character goes on with the first line of what follows it, unless it is a break. -/
theorem lines_cons_of_ne {c : Char} (goesOn : c ≠ '\n') {rest line : List Char}
    {others : List (List Char)} (split : lines rest = line :: others) :
    lines (c :: rest) = (c :: line) :: others := by
  rw [lines, if_neg goesOn, split]

theorem flatten_lines (text : List Char) : (lines text).flatten = text := by
  induction text with
  | nil => rfl
  | cons c rest ih =>
    rw [lines]
    split
    · next isBreak => rw [List.flatten_cons, ih, isBreak, List.singleton_append]
    · split
      · next none => rw [lines_eq_nil_iff.mp none, List.flatten_singleton]
      · next split => rw [← ih, split, List.flatten_cons, List.flatten_cons, List.cons_append]

theorem lines_append_newline (left right : List Char) :
    lines (left ++ '\n' :: right) = lines (left ++ ['\n']) ++ lines right := by
  induction left with
  | nil => rfl
  | cons c left ih =>
    rw [List.cons_append, List.cons_append]
    by_cases isBreak : c = '\n'
    · rw [isBreak, lines_newline_cons, lines_newline_cons, ih, List.cons_append]
    · -- the first line of the rest takes the character, and it is the same in both texts
      have some : lines (left ++ ['\n']) ≠ [] := by simp [lines_eq_nil_iff]
      obtain ⟨line, others, split⟩ := List.exists_cons_of_ne_nil some
      rw [split, List.cons_append] at ih
      rw [lines_cons_of_ne isBreak ih, lines_cons_of_ne isBreak split, List.cons_append]

theorem lines_of_not_mem {line : List Char} (oneLine : '\n' ∉ line) :
    lines (line ++ ['\n']) = [line ++ ['\n']] := by
  induction line with
  | nil => rfl
  | cons c line ih =>
    obtain ⟨goesOn, inRest⟩ := not_or.mp (List.mem_cons.not.mp oneLine)
    exact lines_cons_of_ne (Ne.symm goesOn) (ih inRest)

/-- What stands in front of a line ends with a break. -/
theorem exists_of_lines_eq_append {text line : List Char} {earlier later : List (List Char)}
    (split : lines text = earlier ++ line :: later) (notFirst : earlier ≠ []) :
    ∃ before, earlier.flatten = before ++ ['\n'] := by
  induction text generalizing earlier with
  | nil => simp [lines] at split
  | cons c rest ih =>
    obtain ⟨first, earlier, rfl⟩ := List.exists_cons_of_ne_nil notFirst
    rw [List.cons_append] at split
    by_cases isBreak : c = '\n'
    · rw [isBreak, lines_newline_cons] at split
      obtain ⟨rfl, splitRest⟩ := List.cons.inj split
      by_cases alone : earlier = []
      · exact ⟨[], by rw [alone]; rfl⟩
      · obtain ⟨before, ends⟩ := ih splitRest alone
        exact ⟨'\n' :: before, by rw [List.flatten_cons, ends]; rfl⟩
    · cases pieces : lines rest with
      | nil =>
        rw [lines, if_neg isBreak, pieces] at split
        simp at split
      | cons start others =>
        rw [lines_cons_of_ne isBreak pieces] at split
        obtain ⟨rfl, rfl⟩ := List.cons.inj split
        -- the line that the character starts is one that ends with a break
        obtain ⟨before, ends⟩ := ih pieces (List.cons_ne_nil start earlier)
        refine ⟨c :: before, ?_⟩
        rw [List.flatten_cons, List.cons_append, ← List.flatten_cons, ends, List.cons_append]

/-! ### Blocks -/

/-- The parts of a text between its empty lines. -/
def blocks (text : List Char) : List (List Char) :=
  ((lines text).splitOn ['\n']).map List.flatten

/-- Whole lines, none of which is empty. -/
structure IsParagraph (text : List Char) : Prop where
  ends : ∃ body, text = body ++ ['\n']
  noEmptyLine : ['\n'] ∉ lines text

theorem isParagraph_of_not_mem {line : List Char} (oneLine : '\n' ∉ line) (nonempty : line ≠ []) :
    IsParagraph (line ++ ['\n']) := by
  refine ⟨⟨line, rfl⟩, ?_⟩
  rw [lines_of_not_mem oneLine, List.mem_singleton, eq_comm, List.append_left_eq_self]
  exact nonempty

namespace IsParagraph

variable {paragraph : List Char} (whole : IsParagraph paragraph)

include whole

theorem blocks_eq : blocks paragraph = [paragraph] := by
  rw [blocks, List.splitOn_eq_singleton whole.noEmptyLine, List.map_singleton, flatten_lines]

/-- An empty line ends the block that stands in front of it. -/
theorem blocks_append_newline (rest : List Char) :
    blocks (paragraph ++ '\n' :: rest) = paragraph :: blocks rest := by
  have cut : lines (paragraph ++ '\n' :: rest) = lines paragraph ++ ['\n'] :: lines rest := by
    obtain ⟨body, rfl⟩ := whole.ends
    rw [List.append_assoc, List.singleton_append, lines_append_newline, lines_newline_cons]
  rw [blocks, cut, List.splitOn_append_cons_self, List.splitOn_eq_singleton whole.noEmptyLine,
    List.singleton_append, List.map_cons, flatten_lines, blocks]

end IsParagraph

/-- Paragraphs that are parted by empty lines are the blocks of their text. -/
theorem blocks_paragraphs {first : List Char} {others : List (List Char)}
    (whole : ∀ paragraph ∈ first :: others, IsParagraph paragraph) :
    blocks (first ++ others.flatMap ('\n' :: ·)) = first :: others := by
  induction others generalizing first with
  | nil =>
    rw [List.flatMap_nil, List.append_nil]
    exact (whole first List.mem_cons_self).blocks_eq
  | cons next others ih =>
    obtain ⟨isFirst, later⟩ := List.forall_mem_cons.mp whole
    rw [List.flatMap_cons, List.cons_append, isFirst.blocks_append_newline, ih later]

end ApiTypes.Text
