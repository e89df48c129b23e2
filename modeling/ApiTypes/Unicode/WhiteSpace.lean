import ApiTypes.Unicode.Run

/-!
# White space

The property `White_Space` of Unicode 17.0: the blanks and line breaks of ASCII, the next line
and no-break space controls, and the spaces and separators of the general punctuation block.

## Main definitions

* `Unicode.isWhiteSpace`, `Unicode.trim`
-/

namespace ApiTypes.Unicode

/-- The white space beyond ASCII. -/
def whiteSpaceRuns : List Run :=
  [⟨133, 133, 1⟩, ⟨160, 160, 1⟩, ⟨5760, 5760, 1⟩, ⟨8192, 8202, 1⟩, ⟨8232, 8233, 1⟩,
   ⟨8239, 8239, 1⟩, ⟨8287, 8287, 1⟩, ⟨12288, 12288, 1⟩]

/-- Whether the character is white space. -/
def isWhiteSpace (c : Char) : Bool :=
  c == ' ' || (decide (9 ≤ c.toNat) && decide (c.toNat ≤ 13)) || covers whiteSpaceRuns c.toNat

/-- The text without white space at its two ends. -/
def trim (text : List Char) : List Char :=
  ((text.dropWhile isWhiteSpace).reverse.dropWhile isWhiteSpace).reverse

end ApiTypes.Unicode
