import ApiTypes.PathTemplate
import ApiTypes.Proofs.Text.Percent
import ApiTypes.Proofs.Text.Split
import Mathlib.Data.List.Chain
import Mathlib.Data.List.Forall2

/-!
# Reading path templates

A piece of a template is cut into parameters in braces and runs of other characters. There is at
most one way to do so in which no two runs meet, and reading a piece finds it; a piece that cannot
be cut at all is kept as it is. Any list of fragments in which no two literals meet can be written
so that it is read back.

## Main definitions

* `PathTemplate.Part` — a part of a piece, as it is written
* `PathTemplate.IsCut`, `PathTemplate.IsMaximalCut` — the ways to cut a piece into parts
* `PathTemplate.Reads` — what the fragments of a piece should be
* `PathTemplate.Fragment.Writes` — the ways to write a fragment

## Main results

* `PathTemplate.IsMaximalCut.unique`, `PathTemplate.IsCut.exists_maximal` — the only maximal cut
* `PathTemplate.reads_segment` — a piece is read as it should be
* `PathTemplate.segments_of_writes` — fragments that are written are read back
* `PathTemplate.segments_exact_and_lossless` — reading and writing whole templates
-/

namespace ApiTypes.PathTemplate

/-- A text has no braces. -/
def IsPlain (text : List Char) : Prop := '\x7b' ∉ text ∧ '\x7d' ∉ text

/-- A part of a piece as it is written: a run of characters, or a name between braces. -/
inductive Part where
  | run (text : List Char)
  | group (name : List Char)
deriving DecidableEq, Repr

namespace Part

/-- The characters of a part without its braces. -/
def text : Part → List Char
  | run text => text
  | group name => name

/-- The part as it is written. -/
def written : Part → List Char
  | run text => text
  | group name => '\x7b' :: name ++ ['\x7d']

/-- Whether the part is a run. -/
def isRun : Part → Bool
  | run _ => true
  | group _ => false

/-- The fragment that a part stands for: the literal that a run encodes, or a parameter. -/
def fragment : Part → Fragment
  | run text => .literal (String.ofList (Percent.decode text))
  | group name => .param (String.ofList name)

/-- A part is not empty, and contains no brace but those around a name. -/
def IsWellFormed (part : Part) : Prop :=
  part.text ≠ [] ∧ IsPlain part.text

end Part

theorem Part.IsWellFormed.written_ne_nil {part : Part} (wellFormed : part.IsWellFormed) :
    part.written ≠ [] := by
  cases part with
  | run text => exact wellFormed.1
  | group name => exact List.cons_ne_nil _ _

/-- The parts make up the piece. -/
structure IsCut (parts : List Part) (piece : List Char) : Prop where
  wellFormed : ∀ part ∈ parts, part.IsWellFormed
  written : parts.flatMap Part.written = piece

/-- The parts make up the piece, and no two runs meet. -/
structure IsMaximalCut (parts : List Part) (piece : List Char) : Prop
    extends IsCut parts piece where
  maximal : parts.IsChain fun part next => ¬ (part.isRun ∧ next.isRun)

/-- What a piece should be read as: the fragments of its maximal cut, or itself if it cannot be
cut. -/
def Reads (piece : List Char) (fragments : List Fragment) : Prop :=
  (∃ parts, IsMaximalCut parts piece ∧ fragments = parts.map Part.fragment) ∨
    (¬ ∃ parts, IsCut parts piece) ∧ fragments = [.literal (String.ofList piece)]

/-! ### Reading a piece -/

/-- The run of the characters that were met, if there are any. The last one comes first. -/
def partOfRun : List Char → List Part
  | [] => []
  | run => [.run run.reverse]

/-- The parts of a piece, found in the same way as its fragments. -/
def partsFrom (inside : Bool) (run : List Char) : List Char → Option (List Part)
  | [] => if inside then none else some (partOfRun run)
  | c :: rest =>
    if c = '\x7b' then
      if inside then none else (partOfRun run ++ ·) <$> partsFrom true [] rest
    else if c = '\x7d' then
      if inside ∧ run ≠ [] then (.group run.reverse :: ·) <$> partsFrom false [] rest else none
    else partsFrom inside (c :: run) rest

theorem partOfRun_reverse {text : List Char} (nonempty : text ≠ []) :
    partOfRun text.reverse = [.run text] := by
  rw [partOfRun, List.reverse_reverse]
  exact List.reverse_ne_nil_iff.mpr nonempty

theorem map_fragment_partOfRun (run : List Char) :
    (partOfRun run).map Part.fragment = literalOfRun run := by
  cases run <;> rfl

/-- The fragments of a piece are those of its parts. -/
theorem fragmentsFrom_eq (inside : Bool) (run rest : List Char) :
    fragmentsFrom inside run rest = (partsFrom inside run rest).map (List.map Part.fragment) := by
  induction rest generalizing inside run with
  | nil =>
    rw [fragmentsFrom, partsFrom]
    split_ifs
    · rfl
    · rw [Option.map_some, map_fragment_partOfRun]
  | cons c rest ih =>
    rw [fragmentsFrom, partsFrom]
    split_ifs
    · rfl
    · rw [ih]
      cases partsFrom true [] rest <;> simp [map_fragment_partOfRun]
    · rw [ih]
      cases partsFrom false [] rest <;> simp [Part.fragment]
    · rfl
    · exact ih inside (c :: run)

/-- Characters that are no braces are put on the run. -/
theorem partsFrom_append (inside : Bool) (run : List Char) {text : List Char} (plain : IsPlain text)
    (rest : List Char) :
    partsFrom inside run (text ++ rest) = partsFrom inside (text.reverse ++ run) rest := by
  induction text generalizing run with
  | nil => rfl
  | cons c text ih =>
    have noOpening : c ≠ '\x7b' := fun same => plain.1 (same ▸ List.mem_cons_self)
    have noClosing : c ≠ '\x7d' := fun same => plain.2 (same ▸ List.mem_cons_self)
    have plainRest : IsPlain text :=
      ⟨fun among => plain.1 (List.mem_cons_of_mem _ among),
        fun among => plain.2 (List.mem_cons_of_mem _ among)⟩
    rw [List.cons_append, partsFrom, if_neg noOpening, if_neg noClosing, ih _ plainRest,
      List.reverse_cons, List.append_assoc, List.singleton_append]

/-- A name between braces ends the run before it, and is a part of its own. -/
theorem partsFrom_group (run : List Char) {name : List Char}
    (wellFormed : (Part.group name).IsWellFormed) (rest : List Char) :
    partsFrom false run ((Part.group name).written ++ rest) =
      (partsFrom false [] rest).map (partOfRun run ++ .group name :: ·) := by
  have plain : IsPlain name := wellFormed.2
  have nonempty : name.reverse ≠ [] := List.reverse_ne_nil_iff.mpr wellFormed.1
  rw [Part.written, List.append_assoc, List.cons_append, partsFrom, if_pos rfl, if_neg (by simp),
    partsFrom_append _ _ plain, List.append_nil, List.singleton_append, partsFrom,
    if_neg (by decide), if_pos rfl, if_pos ⟨rfl, nonempty⟩, List.reverse_reverse]
  cases partsFrom false [] rest <;> rfl

/-- A piece that can be cut is read. -/
theorem IsCut.isSome_partsFrom {parts : List Part} {piece : List Char} (cut : IsCut parts piece)
    (run : List Char) : (partsFrom false run piece).isSome := by
  obtain ⟨wellFormed, rfl⟩ := cut
  induction parts generalizing run with
  | nil => rfl
  | cons part parts ih =>
    obtain ⟨first, others⟩ := List.forall_mem_cons.mp wellFormed
    rw [List.flatMap_cons]
    cases part with
    | run text =>
      have plain : IsPlain text := first.2
      rw [Part.written, partsFrom_append _ _ plain]
      exact ih _ others
    | group name =>
      rw [partsFrom_group _ first, Option.isSome_map]
      exact ih [] others

/-- A maximal cut is found. -/
theorem IsMaximalCut.partsFrom_eq {parts : List Part} {piece : List Char}
    (cut : IsMaximalCut parts piece) (run : List Char)
    (apart : run = [] ∨ ∀ part ∈ parts.head?, ¬ part.isRun) :
    partsFrom false run piece = some (partOfRun run ++ parts) := by
  obtain ⟨⟨wellFormed, rfl⟩, maximal⟩ := cut
  induction parts generalizing run with
  | nil => simp [partsFrom]
  | cons part parts ih =>
    obtain ⟨first, others⟩ := List.forall_mem_cons.mp wellFormed
    obtain ⟨meets, maximalRest⟩ := List.isChain_cons.mp maximal
    rw [List.flatMap_cons]
    cases part with
    | run text =>
      -- there is no run under way, and none follows
      have noRun : run = [] := apart.resolve_right (by simp [Part.isRun])
      have noNext : ∀ next ∈ parts.head?, ¬ next.isRun := fun next isNext => by
        simpa [Part.isRun] using meets next isNext
      obtain ⟨nonempty, plain⟩ : text ≠ [] ∧ IsPlain text := first
      rw [Part.written, partsFrom_append _ _ plain, noRun, List.append_nil,
        ih _ (.inr noNext) maximalRest others, partOfRun_reverse nonempty]
      rfl
    | group name =>
      rw [partsFrom_group _ first, ih [] (.inl rfl) maximalRest others]
      simp [partOfRun]

theorem IsMaximalCut.unique {parts parts' : List Part} {piece : List Char}
    (cut : IsMaximalCut parts piece) (cut' : IsMaximalCut parts' piece) : parts = parts' := by
  have found := cut.partsFrom_eq [] (.inl rfl)
  rw [cut'.partsFrom_eq [] (.inl rfl)] at found
  simpa [partOfRun] using found.symm

theorem isPlain_reverse {text : List Char} : IsPlain text.reverse ↔ IsPlain text := by
  simp [IsPlain]

/-- A run in front of a cut that starts with a name. -/
theorem IsMaximalCut.partOfRun_append {parts : List Part} {piece run : List Char}
    (cut : IsMaximalCut parts piece) (plain : IsPlain run)
    (apart : ∀ part ∈ parts.head?, ¬ part.isRun) :
    IsMaximalCut (partOfRun run ++ parts) (run.reverse ++ piece) := by
  cases run with
  | nil => exact cut
  | cons c run =>
    refine ⟨⟨?_, ?_⟩, ?_⟩
    · refine List.forall_mem_cons.mpr ⟨⟨?_, ?_⟩, cut.wellFormed⟩
      · exact List.reverse_ne_nil_iff.mpr (List.cons_ne_nil c run)
      · exact isPlain_reverse.mpr plain
    · rw [partOfRun, List.singleton_append, List.flatMap_cons, cut.written, Part.written]
      simp
    · refine List.isChain_cons.mpr ⟨fun next isNext => ?_, cut.maximal⟩
      simp [apart next isNext]

theorem IsMaximalCut.cons_group {parts : List Part} {piece name : List Char}
    (cut : IsMaximalCut parts piece) (wellFormed : (Part.group name).IsWellFormed) :
    IsMaximalCut (.group name :: parts) ('\x7b' :: (name ++ '\x7d' :: piece)) := by
  refine ⟨⟨List.forall_mem_cons.mpr ⟨wellFormed, cut.wellFormed⟩, ?_⟩, ?_⟩
  · rw [List.flatMap_cons, cut.written, Part.written, List.append_assoc, List.singleton_append,
      List.cons_append]
  · refine List.isChain_cons.mpr ⟨fun next _ => ?_, cut.maximal⟩
    simp [Part.isRun]

/-- The parts that are found are a maximal cut. Inside braces they are one of what was read since
the opening brace, which starts with a name. -/
theorem isMaximalCut_of_partsFrom {inside : Bool} {run rest : List Char} {parts : List Part}
    (plain : IsPlain run) (found : partsFrom inside run rest = some parts) :
    if inside then
      IsMaximalCut parts ('\x7b' :: (run.reverse ++ rest)) ∧ ∀ part ∈ parts.head?, ¬ part.isRun
    else IsMaximalCut parts (run.reverse ++ rest) := by
  have nothing : IsMaximalCut [] [] := ⟨⟨by simp, rfl⟩, .nil⟩
  have noRun : IsPlain [] := ⟨List.not_mem_nil, List.not_mem_nil⟩
  induction rest generalizing inside run parts with
  | nil =>
    rw [partsFrom] at found
    split_ifs at found with isInside
    obtain rfl := Option.some.inj found
    rw [if_neg isInside, ← List.append_nil (partOfRun run)]
    exact nothing.partOfRun_append plain (by simp)
  | cons c rest ih =>
    rw [partsFrom] at found
    split_ifs at found with opening isInside closing complete
    · -- a brace opens
      obtain ⟨others, foundRest, rfl⟩ := Option.map_eq_some_iff.mp found
      obtain ⟨cut, apart⟩ := ih noRun foundRest
      rw [if_neg isInside, opening]
      exact cut.partOfRun_append plain apart
    · -- a brace closes
      obtain ⟨others, foundRest, rfl⟩ := Option.map_eq_some_iff.mp found
      have cut : IsMaximalCut others rest := ih noRun foundRest
      have wellFormed : (Part.group run.reverse).IsWellFormed :=
        ⟨List.reverse_ne_nil_iff.mpr complete.2, isPlain_reverse.mpr plain⟩
      rw [if_pos complete.1, closing]
      exact ⟨cut.cons_group wellFormed, by simp [Part.isRun]⟩
    · -- any other character goes on the run
      have plain' : IsPlain (c :: run) := by
        simp [IsPlain, plain.1, plain.2, Ne.symm opening, Ne.symm closing]
      have known := ih plain' found
      rwa [List.reverse_cons, List.append_assoc, List.singleton_append] at known

/-- A piece is read as it should be. -/
theorem reads_segment (piece : List Char) : Reads piece (segment piece) := by
  rw [segment, fragmentsFrom_eq]
  cases found : partsFrom false [] piece with
  | some parts =>
    have noRun : IsPlain [] := ⟨List.not_mem_nil, List.not_mem_nil⟩
    exact .inl ⟨parts, isMaximalCut_of_partsFrom noRun found, rfl⟩
  | none =>
    refine .inr ⟨?_, rfl⟩
    rintro ⟨parts, cut⟩
    simpa [found] using cut.isSome_partsFrom []

theorem IsCut.exists_maximal {parts : List Part} {piece : List Char} (cut : IsCut parts piece) :
    ∃ parts', IsMaximalCut parts' piece := by
  obtain ⟨parts', found⟩ := Option.isSome_iff_exists.mp (cut.isSome_partsFrom [])
  exact ⟨parts', isMaximalCut_of_partsFrom ⟨List.not_mem_nil, List.not_mem_nil⟩ found⟩

/-! ### Writing a template -/

/-- Whether the fragment is a literal. -/
def Fragment.isLiteral : Fragment → Bool
  | .literal _ => true
  | .param _ => false

/-- The characters that are escaped in a literal; others may be. -/
def marks : List Char := ['%', '/', '\x7b', '\x7d']

/-- The ways to write a fragment: a literal in any percent-encoding that escapes the marks, and a
parameter between braces. -/
inductive Fragment.Writes : Fragment → List Char → Prop
  | literal {text : String} {word : List Char} (encodes : Percent.Encodes marks text.toList word) :
      Writes (.literal text) word
  | param (name : String) : Writes (.param name) ('\x7b' :: name.toList ++ ['\x7d'])

/-- A fragment that can be written is not empty, and the name of a parameter has no brace and no
slash. -/
def Fragment.IsWritable : Fragment → Prop
  | .literal text => text.toList ≠ []
  | .param name => name.toList ≠ [] ∧ IsPlain name.toList ∧ '/' ∉ name.toList

/-- A fragment is written as a part that stands for it. -/
theorem Fragment.Writes.exists_part {fragment : Fragment} {word : List Char}
    (writes : fragment.Writes word) (writable : fragment.IsWritable) :
    ∃ part : Part, part.written = word ∧ part.fragment = fragment ∧ part.IsWellFormed ∧
      '/' ∉ word := by
  cases writes with
  | @literal text word encodes =>
    have read : Percent.decode word = text.toList := encodes.decode_eq (by decide)
    have plain : IsPlain word :=
      ⟨encodes.not_mem (by decide) (by decide), encodes.not_mem (by decide) (by decide)⟩
    refine ⟨.run word, rfl, ?_, ⟨encodes.ne_nil writable, plain⟩,
      encodes.not_mem (by decide) (by decide)⟩
    rw [Part.fragment, read, String.ofList_toList]
  | param name =>
    obtain ⟨nonempty, plain, noSlash⟩ := writable
    refine ⟨.group name.toList, rfl, ?_, ⟨nonempty, plain⟩, by simp [noSlash]⟩
    rw [Part.fragment, String.ofList_toList]

/-- Fragments that are written one after another are a cut. -/
theorem exists_parts {fragments : List Fragment} {words : List (List Char)}
    (writes : List.Forall₂ Fragment.Writes fragments words)
    (writable : ∀ fragment ∈ fragments, fragment.IsWritable) :
    ∃ parts, IsCut parts words.flatten ∧ parts.map Part.fragment = fragments ∧
      '/' ∉ words.flatten := by
  induction writes with
  | nil => exact ⟨[], ⟨by simp, rfl⟩, rfl, by simp⟩
  | @cons fragment word fragments words first _ ih =>
    obtain ⟨firstWritable, othersWritable⟩ := List.forall_mem_cons.mp writable
    obtain ⟨part, rfl, rfl, wellFormed, noSlash⟩ := first.exists_part firstWritable
    obtain ⟨parts, cut, rfl, noSlash'⟩ := ih othersWritable
    refine ⟨part :: parts, ⟨List.forall_mem_cons.mpr ⟨wellFormed, cut.wellFormed⟩, ?_⟩, rfl, ?_⟩
    · rw [List.flatMap_cons, List.flatten_cons, cut.written]
    · simp [noSlash, noSlash']

theorem Part.isLiteral_fragment (part : Part) : part.fragment.isLiteral = part.isRun := by
  cases part <;> rfl

/-- Fragments of which no two literals meet are read back. -/
theorem segments_of_writes {fragments : List Fragment} {words : List (List Char)}
    (nonempty : fragments ≠ []) (writable : ∀ fragment ∈ fragments, fragment.IsWritable)
    (apart : fragments.IsChain fun fragment next => ¬ (fragment.isLiteral ∧ next.isLiteral))
    (writes : List.Forall₂ Fragment.Writes fragments words) :
    segments (String.ofList words.flatten) = [fragments] := by
  obtain ⟨parts, cut, rfl, noSlash⟩ := exists_parts writes writable
  have maximal : IsMaximalCut parts words.flatten := by
    refine ⟨cut, ?_⟩
    simpa only [List.isChain_map, Part.isLiteral_fragment] using apart
  have piece : words.flatten ≠ [] := by
    obtain ⟨part, parts, rfl⟩ := List.exists_cons_of_ne_nil (List.map_eq_nil_iff.not.mp nonempty)
    obtain ⟨first, -⟩ := List.forall_mem_cons.mp cut.wellFormed
    rw [← cut.written, List.flatMap_cons]
    exact List.append_ne_nil_of_left_ne_nil first.written_ne_nil _
  have single : Text.splitWhere (· == '/') words.flatten = [words.flatten] := by
    have whole : ∀ piece ∈ [words.flatten], '/' ∉ piece := by simpa using noSlash
    have cutAgain := List.splitOn_intercalate '/' whole (List.cons_ne_nil _ _)
    rwa [List.intercalate_singleton, ← Text.splitWhere_eq_splitOn] at cutAgain
  rw [segments, String.toList_ofList, single]
  simp only [ne_eq, piece, not_false_eq_true, decide_true, List.filter_cons_of_pos,
    List.filter_nil, List.map_cons, List.map_nil, segment, fragmentsFrom_eq,
    maximal.partsFrom_eq [] (.inl rfl)]
  rfl

/-- Each piece of a template that is not empty is read as one segment, in order: as the fragments of
its maximal cut, of which there is one if the piece can be cut at all, or else as the piece itself.
And every list of fragments of which no two literals meet is read back from all its writings. -/
theorem segments_exact_and_lossless :
    (∀ template : String,
      List.Forall₂ Reads ((template.toList.splitOn '/').filter (· ≠ [])) (segments template)) ∧
    (∀ parts piece, IsCut parts piece → ∃! parts', IsMaximalCut parts' piece) ∧
    ∀ (fragments : List Fragment) (words : List (List Char)),
      fragments ≠ [] → (∀ fragment ∈ fragments, fragment.IsWritable) →
        (fragments.IsChain fun fragment next => ¬ (fragment.isLiteral ∧ next.isLiteral)) →
          List.Forall₂ Fragment.Writes fragments words →
            segments (String.ofList words.flatten) = [fragments] := by
  refine ⟨fun template => ?_, fun parts piece cut => ?_, fun fragments words => ?_⟩
  · rw [segments, Text.splitWhere_eq_splitOn, List.forall₂_map_right_iff]
    exact List.forall₂_same.mpr fun piece _ => reads_segment piece
  · obtain ⟨parts', maximal⟩ := cut.exists_maximal
    exact ⟨parts', maximal, fun _ other => other.unique maximal⟩
  · exact segments_of_writes

/-- Escapes in either case, of a letter with two bytes and of the marks, on both sides of a
parameter; and a piece with two parameters. -/
theorem segments_exact_and_lossless_of_download :
    let fragments : List Fragment := [.literal "é\x7b%", .param "id", .literal "/x"]
    let words : List (List Char) :=
      ["%c3%A9%7B%25".toList, "\x7bid\x7d".toList, "%2fx".toList]
    let parts : List Part := [.group ['a'], .run ['-'], .group ['b']]
    (fragments ≠ [] ∧ (∀ fragment ∈ fragments, fragment.IsWritable) ∧
        (fragments.IsChain fun fragment next => ¬ (fragment.isLiteral ∧ next.isLiteral)) ∧
          List.Forall₂ Fragment.Writes fragments words ∧
            IsCut parts "\x7ba\x7d-\x7bb\x7d".toList) ∧
      segments (String.ofList words.flatten) = [fragments] ∧
        ∃! parts', IsMaximalCut parts' "\x7ba\x7d-\x7bb\x7d".toList := by
  intro fragments words parts
  have writable : ∀ fragment ∈ fragments, fragment.IsWritable := by
    simp [fragments, Fragment.IsWritable, IsPlain]
  have apart : fragments.IsChain fun fragment next => ¬ (fragment.isLiteral ∧ next.isLiteral) := by
    simp [fragments, Fragment.isLiteral]
  have front : Percent.Encodes marks "é\x7b%".toList "%c3%A9%7B%25".toList := by
    have letter : Percent.Escapes (Utf8.encodeChar 'é') "%c3%A9".toList :=
      .cons (.inr rfl) (.inl rfl) (.cons (.inl rfl) (.inl rfl) .nil)
    have brace : Percent.Escapes (Utf8.encodeChar '\x7b') "%7B".toList :=
      .cons (.inl rfl) (.inl rfl) .nil
    have percent : Percent.Escapes (Utf8.encodeChar '%') "%25".toList :=
      .cons (.inl rfl) (.inl rfl) .nil
    exact .escaped letter (.escaped brace (.escaped percent .nil))
  have back : Percent.Encodes marks "/x".toList "%2fx".toList := by
    have slash : Percent.Escapes (Utf8.encodeChar '/') "%2f".toList :=
      .cons (.inl rfl) (.inr rfl) .nil
    exact .escaped slash (.plain (by decide) .nil)
  have writes : List.Forall₂ Fragment.Writes fragments words :=
    .cons (.literal front) (.cons (.param "id") (.cons (.literal back) .nil))
  have cut : IsCut parts "\x7ba\x7d-\x7bb\x7d".toList :=
    ⟨by simp [parts, Part.IsWellFormed, Part.text, IsPlain], rfl⟩
  obtain ⟨-, unique, lossless⟩ := segments_exact_and_lossless
  exact ⟨⟨List.cons_ne_nil _ _, writable, apart, writes, cut⟩,
    lossless fragments words (List.cons_ne_nil _ _) writable apart writes, unique parts _ cut⟩

end ApiTypes.PathTemplate
