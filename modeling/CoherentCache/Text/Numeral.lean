/-!
# CoherentCache.Text.Numeral — decimal numbers and truth values in settings

A number is one or more ASCII digits, with an optional plus sign before them, and must fit a 64-bit
word. A truth value is one of two words.
-/

namespace CoherentCache.Text

/-- The largest number of a 64-bit word. -/
def wordMax : Nat := Nat.pow 2 64 - 1

/-- The value of an ASCII digit. -/
def digit? (c : Char) : Option Nat :=
  if c.isDigit then some (c.toNat - '0'.toNat) else none

/-- The value of a row of digits that follows the value `n`. -/
def valueFrom? (n : Nat) (cs : List Char) : Option Nat :=
  cs.foldlM (fun n c => (digit? c).map (10 * n + ·)) n

/-- The value of one or more digits. -/
def value? (cs : List Char) : Option Nat :=
  if cs.isEmpty then none else valueFrom? 0 cs

/-- The number that the characters spell, with or without a plus sign, if it fits a word. -/
def wordOfList? (cs : List Char) : Option Nat :=
  let digits := match cs with
    | '+' :: rest => rest
    | cs => cs
  (value? digits).filter (· ≤ wordMax)

/-- The number that a text spells. -/
def word? (s : String) : Option Nat :=
  wordOfList? s.toList

/-- The truth value that a text spells. -/
def bool? (s : String) : Option Bool :=
  if s = "true" then some true else if s = "false" then some false else none

end CoherentCache.Text
