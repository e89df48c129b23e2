import ApiTypes.Text.Percent
import ApiTypes.Text.Split

/-!
# Path templates

A path template such as `/v1/pets/{petId}.json` is cut at its slashes; empty pieces are dropped.
A segment is a sequence of literal texts and parameters in braces. Literal text is
percent-encoded. A piece whose braces do not pair up, or which has a parameter without a name,
is one literal as it stands.

## Main definitions

* `PathTemplate.Fragment` — a literal or a parameter
* `PathTemplate.segments` — the segments of a template
-/

namespace ApiTypes.PathTemplate

/-- A part of a segment. -/
inductive Fragment where
  | literal (text : String)
  | param (name : String)
deriving DecidableEq, Repr

/-- The literal that a run of characters spells, if there is a run. The run is given last
character first. -/
def literalOfRun : List Char → List Fragment
  | [] => []
  | run => [.literal (String.ofList (Percent.decode run.reverse))]

/-- The fragments of a piece, `none` if it is malformed. `inside` says whether a brace is open,
and `run` holds the characters since the last brace, last character first. -/
def fragmentsFrom (inside : Bool) (run : List Char) : List Char → Option (List Fragment)
  | [] => if inside then none else some (literalOfRun run)
  | c :: rest =>
    if c = '\x7b' then
      if inside then none else (literalOfRun run ++ ·) <$> fragmentsFrom true [] rest
    else if c = '\x7d' then
      if inside ∧ run ≠ [] then
        (.param (String.ofList run.reverse) :: ·) <$> fragmentsFrom false [] rest
      else none
    else fragmentsFrom inside (c :: run) rest

/-- The segment of a piece. -/
def segment (piece : List Char) : List Fragment :=
  (fragmentsFrom false [] piece).getD [.literal (String.ofList piece)]

/-- The segments of a template. -/
def segments (template : String) : List (List Fragment) :=
  ((Text.splitWhere (· == '/') template.toList).filter (· ≠ [])).map segment

end ApiTypes.PathTemplate
