import ApiTypes.Text.Split
import ApiTypes.Unicode.Alphanumeric
import ApiTypes.Unicode.CaseMapping
import ApiTypes.Unicode.LetterCase

/-!
# Words of a text, in Pascal case

A text is cut into words at every character that is neither a letter nor a number, and inside
the pieces where the case changes: after a lower case letter that an upper case one follows
(`petId` is `pet`, `Id`), and before the last of several upper case letters that a lower case
one follows (`HTTPThings` is `HTTP`, `Things`). In Pascal case each word starts with an upper
case character and goes on in lower case, and the words are written without anything between.

## Main definitions

* `Words.split` — the words of a text
* `Words.capitalize` — one word in Pascal case
* `Text.pascalCase` — a text in Pascal case
-/

namespace ApiTypes

namespace Words

/-- The case of the last cased character of the word under way. -/
inductive Mode where
  | unset
  | lower
  | upper
deriving DecidableEq, Repr

/-- The mode after one more character. -/
def Mode.next (mode : Mode) (c : Char) : Mode :=
  if Unicode.isLowercase c then .lower
  else if Unicode.isUppercase c then .upper
  else mode

/-- The words of a piece without separators. `word` is the word under way, last character
first. -/
def splitPiece (mode : Mode) (word : List Char) : List Char → List (List Char)
  | [] => []
  | [c] => [(c :: word).reverse]
  | c :: d :: rest =>
    if mode.next c = .lower ∧ Unicode.isUppercase d then
      (c :: word).reverse :: splitPiece .unset [] (d :: rest)
    else if mode = .upper ∧ Unicode.isUppercase c ∧ Unicode.isLowercase d then
      word.reverse :: splitPiece .unset [c] (d :: rest)
    else
      splitPiece (mode.next c) (c :: word) (d :: rest)

/-- The words of a text. -/
def split (text : List Char) : List (List Char) :=
  (Text.splitWhere (fun c => !Unicode.isAlphanumeric c) text).flatMap (splitPiece .unset [])

/-- The rest of a word in lower case; a capital sigma at its end takes its final form. -/
def lowerRest : List Char → List Char
  | [] => []
  | [c] => if c = 'Σ' then ['ς'] else Unicode.toLowercase c
  | c :: rest => Unicode.toLowercase c ++ lowerRest rest

/-- A word with its first character in upper case and the others in lower case. -/
def capitalize : List Char → List Char
  | [] => []
  | c :: rest => Unicode.toUppercase c ++ lowerRest rest

end Words

/-- The text in Pascal case. -/
def Text.pascalCase (text : String) : String :=
  String.ofList ((Words.split text.toList).flatMap Words.capitalize)

end ApiTypes
