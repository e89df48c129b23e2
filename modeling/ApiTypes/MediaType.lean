import ApiTypes.Text.Split
import ApiTypes.Unicode.WhiteSpace

/-!
# Media types

A media type may carry parameters after a semicolon, and its case does not matter.

## Main definitions

* `MediaType.essence` — a media type without its parameters
* `MediaType.isJson` — whether the type is `application/json`
-/

namespace ApiTypes.MediaType

/-- The media type in front of its parameters. -/
def essence (text : String) : List Char :=
  Unicode.trim (text.toList.takeWhile (· != ';'))

/-- The case folding of the characters that fold to one ASCII letter: the capital letters, the
long s and the Kelvin sign. All others are left as they are. -/
def foldAscii (c : Char) : Char :=
  if c = 'ſ' then 's' else if c = '\u212A' then 'k' else c.toLower

/-- Whether the media type is `application/json`, whatever its case and its parameters. -/
def isJson (text : String) : Bool :=
  (essence text).map foldAscii == "application/json".toList

end ApiTypes.MediaType
