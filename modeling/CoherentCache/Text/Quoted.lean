import CoherentCache.Text.Invisible
import CoherentCache.Text.Joining
import CoherentCache.Text.Unassigned

/-!
# CoherentCache.Text.Quoted — a text between quotation marks

Messages show keys in a form that can be read on one line whatever the key holds: between double
quotes, with the quote, the backslash and four control characters behind a backslash, and every other
character that leaves no mark of its own, joins the one before it or is unassigned by its code point.
-/

namespace CoherentCache.Text

/-- The character is printed as it is. -/
def isPrinted (c : Char) : Bool :=
  !(isInvisible c || isJoining c || isUnassigned c)

/-- The code point in hexadecimal, between braces. -/
def codePoint (c : Char) : List Char :=
  ['\\', 'u', '\x7b'] ++ Nat.toDigits 16 c.toNat ++ ['\x7d']

/-- One character inside quotation marks. -/
def quoteChar (c : Char) : List Char :=
  match c with
  | '"' => ['\\', '"']
  | '\\' => ['\\', '\\']
  | '\n' => ['\\', 'n']
  | '\r' => ['\\', 'r']
  | '\t' => ['\\', 't']
  | '\x00' => ['\\', '0']
  | c => if isPrinted c then [c] else codePoint c

/-- The text between quotation marks. -/
def quote (s : String) : String :=
  String.ofList ('"' :: s.toList.flatMap quoteChar ++ ['"'])

/-- Texts between quotation marks, as a list in brackets. -/
def quoteList (ss : List String) : String :=
  "[" ++ ", ".intercalate (ss.map quote) ++ "]"

end CoherentCache.Text

namespace CoherentCache

/-- Values that messages can show. -/
class Quotable (α : Type) where
  /-- The form shown in a message. -/
  quoted : α → String

export Quotable (quoted)

instance : Quotable String := ⟨Text.quote⟩

end CoherentCache
