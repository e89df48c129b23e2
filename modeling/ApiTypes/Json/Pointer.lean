import ApiTypes.Json
import ApiTypes.Text.Split

/-!
# JSON pointers

A pointer names a place in a value: each step follows a slash and is the key of an entry or the
index of an item. In a step `~1` stands for a slash and `~0` for a tilde. The empty pointer
names the whole value.

## Main definitions

* `Json.Pointer.parse?` — the steps of a pointer
* `Json.at?` — the value at the end of a list of steps
-/

namespace ApiTypes.Json

namespace Pointer

/-- Undoes the escapes of a step. A tilde before anything else stands for itself. -/
def unescape : List Char → List Char
  | '~' :: '1' :: rest => '/' :: unescape rest
  | '~' :: '0' :: rest => '~' :: unescape rest
  | c :: rest => c :: unescape rest
  | [] => []

/-- The steps of a pointer. -/
def parse? : List Char → Option (List String)
  | [] => some []
  | c :: rest =>
    if c = '/' then some ((Text.splitWhere (· == '/') rest).map fun s => String.ofList (unescape s))
    else none

/-- The index that a step spells: decimal digits, without a zero in front of others. -/
def index? (step : String) : Option Nat :=
  match step.toList with
  | [] => none
  | '0' :: _ :: _ => none
  | digits =>
    if digits.all Char.isDigit then
      some (digits.foldl (fun n c => 10 * n + (c.toNat - 48)) 0)
    else none

end Pointer

/-- The value that a step leads to. -/
def step? (step : String) : Json → Option Json
  | object entries => Entries.find? step entries
  | array items => (Pointer.index? step).bind (items[·]?)
  | _ => none

/-- The value at the end of the steps. -/
def at? : List String → Json → Option Json
  | [], value => some value
  | step :: steps, value => (value.step? step).bind (at? steps)

end ApiTypes.Json
