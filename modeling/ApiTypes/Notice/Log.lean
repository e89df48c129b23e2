import ApiTypes.Notice
import ApiTypes.Text.Escaped

/-!
# Logging notices

A log keeps the notices that matter at least as much as its threshold, and shows each of them as
one entry: its level, its message, and its fields with their texts quoted. In messages the
controls that a terminal would act on are escaped.

## Main definitions

* `Notice.Threshold` — how much a notice must matter
* `Notice.logText` — the entry of a notice
-/

namespace ApiTypes.Notice

/-- A number that is the smaller the more a level matters. -/
def Level.rank : Level → Nat
  | error => 1
  | warn => 2
  | info => 3
  | debug => 4
  | trace => 5

/-- How much a notice must matter to be kept: as much as a level, or no notice is kept. -/
abbrev Threshold := Option Level

/-- Whether a notice is kept. -/
def Threshold.admits (threshold : Threshold) (notice : Notice) : Bool :=
  threshold.any fun level => decide (notice.level.rank ≤ level.rank)

/-- The threshold that a word asks for, whatever its case, or its rank. An empty word asks for
errors; a word that is no level keeps nothing. -/
def Threshold.ofText (text : String) : Threshold :=
  let levels : List Level := [.error, .warn, .info, .debug, .trace]
  if text = "" then some .error
  else levels.find? fun level =>
    level.text.toList == text.toList.map Char.toUpper || toString level.rank == text

/-- The threshold that is asked for, or else that of the usual or of verbose logs. -/
def Threshold.choose (asked : Option String) (isVerbose : Bool) : Threshold :=
  match asked with
  | some text => ofText text
  | none => some (if isVerbose then .debug else .info)

/-- How a character of a message is shown. -/
def shownChar (c : Char) : List Char :=
  if c = '\x1b' then "\\x1b".toList
  else if c = '\x07' then "\\x07".toList
  else if c = '\x08' then "\\x08".toList
  else if c = '\x0c' then "\\x0c".toList
  else if c = '\x7f' then "\\x7f".toList
  else if 0x80 ≤ c.toNat ∧ c.toNat ≤ 0x9f then
    ['\\', 'u', '\x7b'] ++ Nat.toDigits 16 c.toNat ++ ['\x7d']
  else [c]

/-- The value of a field in a log. -/
def FieldValue.logText : FieldValue → String
  | text value => Text.escaped value
  | count value => toString value

/-- The entry of a notice in a log. -/
def logText (notice : Notice) : String :=
  let fields := notice.fields.map fun (name, value) => " " ++ name ++ "=" ++ value.logText
  notice.level.text ++ " " ++ String.ofList (notice.message.toList.flatMap shownChar) ++
    String.join fields

end ApiTypes.Notice
