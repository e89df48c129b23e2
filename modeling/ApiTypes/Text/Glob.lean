/-!
# Glob patterns over paths

A pattern matches a whole path. `?` stands for one character, `*` for any run of characters,
and a bracket class for one character in it or, after `!`, outside it; none of them stands for
`/`. A component `**` stands for any number of whole components. All other characters stand
for themselves.

Matching tries the ways to go on one after the other. When the text runs out before a character
that the pattern asks for, no way that leaves less of the text could do better, and none is tried.

## Main definitions

* `Glob.compile` — reads a pattern, or says what is wrong where
* `Glob.scan` — matches a compiled pattern with a text
* `Glob.isMatch` — whether a pattern matches a path
-/

namespace ApiTypes

/-- A member of a bracket class: one character, or the code points between two characters. -/
inductive Glob.Member where
  | single (c : Char)
  | range (first last : Char)
deriving DecidableEq, Repr

/-- What a piece of a pattern stands for. -/
inductive Glob.Token where
  | char (c : Char)
  | anyChar
  | anyRun
  | anyComponents
  | within (members : List Glob.Member)
  | except (members : List Glob.Member)
deriving DecidableEq, Repr

/-- A compiled pattern. -/
structure Glob where
  tokens : List Glob.Token
deriving DecidableEq, Repr

namespace Glob

/-- What can be wrong with a pattern. -/
inductive Fault where
  | wildcards
  | recursiveWildcards
  | classRange
deriving DecidableEq, Repr

/-- The fault in words. -/
def Fault.message : Fault → String
  | .wildcards => "wildcards are either regular `*` or recursive `**`"
  | .recursiveWildcards => "recursive wildcards must form a single path component"
  | .classRange => "invalid range pattern"

/-- A fault and the index of the character where it is noticed. -/
structure Error where
  position : Nat
  fault : Fault
deriving DecidableEq, Repr

/-- The members of a bracket class. A `-` between two characters makes a range. -/
def members : List Char → List Member
  | first :: '-' :: last :: rest => .range first last :: members rest
  | c :: rest => .single c :: members rest
  | [] => []

/-- A bracket class that is not closed yet: where it opened, whether it is negated, and its
characters so far, last first. -/
structure OpenClass where
  start : Nat
  negated : Bool
  inside : List Char

/-- The token of a class that closes here. -/
def OpenClass.token (opened : OpenClass) : Token :=
  if opened.negated then .except (members opened.inside.reverse)
  else .within (members opened.inside.reverse)

/-- Reads a pattern from the character with index `position` on. `before` is the character in
front of it, and `opened` the class that it lies in. A `]` closes a class unless it is its first
character. -/
def compileFrom : Option OpenClass → Nat → Option Char → List Char → Except Error (List Token)
  | some opened, _, _, [] => .error ⟨opened.start, .classRange⟩
  | some opened, position, _, c :: rest =>
    if c = ']' ∧ opened.inside ≠ [] then
      (opened.token :: ·) <$> compileFrom none (position + 1) (some c) rest
    else
      compileFrom (some { opened with inside := c :: opened.inside }) (position + 1) (some c) rest
  | none, _, _, [] => .ok []
  | none, position, before, '*' :: '*' :: rest =>
    match rest with
    | '*' :: _ => .error ⟨position + 2, .wildcards⟩
    | rest =>
      if before = none ∨ before = some '/' then
        match rest with
        | [] => .ok [.anyComponents]
        | '/' :: rest =>
          (.anyComponents :: ·) <$> compileFrom none (position + 3) (some '/') rest
        | _ => .error ⟨position + 2, .recursiveWildcards⟩
      else .error ⟨position - 1, .recursiveWildcards⟩
  | none, position, _, '*' :: rest =>
    (.anyRun :: ·) <$> compileFrom none (position + 1) (some '*') rest
  | none, position, _, '?' :: rest =>
    (.anyChar :: ·) <$> compileFrom none (position + 1) (some '?') rest
  | none, position, _, '[' :: '!' :: rest =>
    compileFrom (some ⟨position, true, []⟩) (position + 2) (some '!') rest
  | none, position, _, '[' :: rest =>
    compileFrom (some ⟨position, false, []⟩) (position + 1) (some '[') rest
  | none, position, _, c :: rest =>
    (.char c :: ·) <$> compileFrom none (position + 1) (some c) rest

/-- Reads a pattern, or says what is wrong where. -/
def compile (pattern : String) : Except Error Glob :=
  Glob.mk <$> compileFrom none 0 none pattern.toList

/-- Whether the character is the member or lies in it. -/
def Member.holds (member : Member) (c : Char) : Bool :=
  match member with
  | .single d => c == d
  | .range first last => decide (first.toNat ≤ c.toNat) && decide (c.toNat ≤ last.toNat)

/-- Whether a token that stands for one character stands for this one. -/
def Token.accepts (token : Token) (c : Char) : Bool :=
  match token with
  | .char d => c == d
  | .anyChar => c != '/'
  | .within members => c != '/' && members.any (·.holds c)
  | .except members => c != '/' && !members.any (·.holds c)
  | .anyRun | .anyComponents => false

/-- What comes of matching: the text matches or it does not, or it ran out before a token that
stands for a character. In that case nothing further on in the text is tried. -/
inductive Verdict where
  | matched
  | failed
  | exhausted
deriving DecidableEq, Repr

/-- Tries the rest after longer and longer runs of characters other than `/`. -/
def afterRun (rest : List Char → Verdict) : List Char → Verdict
  | [] => rest []
  | c :: text =>
    match rest (c :: text) with
    | .failed => if c = '/' then .failed else afterRun rest text
    | verdict => verdict

/-- Tries the rest after one `/` of the text after the other, and at its end. -/
def afterSlash (rest : List Char → Verdict) : List Char → Verdict
  | [] => rest []
  | c :: text =>
    if c = '/' then
      match rest text with
      | .failed => afterSlash rest text
      | verdict => verdict
    else afterSlash rest text

/-- Matches the tokens with the whole text. -/
def scan : List Token → List Char → Verdict
  | [], text => if text.isEmpty then .matched else .failed
  | .anyRun :: tokens, text => afterRun (scan tokens) text
  | .anyComponents :: tokens, text =>
    match scan tokens text with
    | .failed => afterSlash (scan tokens) text
    | verdict => verdict
  | _ :: _, [] => .exhausted
  | token :: tokens, c :: text => if token.accepts c then scan tokens text else .failed

/-- Whether the pattern matches the whole path. -/
def isMatch (glob : Glob) (path : String) : Bool :=
  scan glob.tokens path.toList = .matched

end Glob

end ApiTypes
