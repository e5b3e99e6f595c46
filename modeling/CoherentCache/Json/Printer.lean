import CoherentCache.Json.Value

/-!
# CoherentCache.Json.Printer — documents as text

Two forms: `compact` without any white space, and `pretty` with one item or member a line, indented
by two spaces a level. In a string the quote, the backslash and the control characters are escaped;
every other character stands for itself.
-/

namespace CoherentCache.Json

/-- Four hexadecimal digits of a number below `16 ^ 4`. -/
def fourHexDigits (n : Nat) : List Char :=
  let ds := Nat.toDigits 16 n
  List.replicate (4 - ds.length) '0' ++ ds

/-- One character inside a string. -/
def escapeChar (c : Char) : List Char :=
  match c with
  | '"' => ['\\', '"']
  | '\\' => ['\\', '\\']
  | '\x08' => ['\\', 'b']
  | '\x0c' => ['\\', 'f']
  | '\n' => ['\\', 'n']
  | '\r' => ['\\', 'r']
  | '\t' => ['\\', 't']
  | c => if c.toNat < 0x20 then '\\' :: 'u' :: fourHexDigits c.toNat else [c]

/-- A string; one that stands for no characters has the replacement character in their place. -/
def printText (s : Text) : List Char :=
  '"' :: (s.getD "\ufffd").toList.flatMap escapeChar ++ ['"']

/-- A number in the shortest of the forms that keep its parts. -/
def printNumber (n : Number) : List Char :=
  (if n.negative then ['-'] else []) ++ Nat.toDigits 10 n.coefficient ++
    (if n.isWhole then [] else 'e' :: (toString n.exponent).toList)

/-- Pieces with a comma between each two. -/
def commaSeparated (pieces : List (List Char)) : List Char :=
  [','].intercalate pieces

mutual

/-- The document without white space. -/
def print : Json → List Char
  | .null => ['n', 'u', 'l', 'l']
  | .bool true => ['t', 'r', 'u', 'e']
  | .bool false => ['f', 'a', 'l', 's', 'e']
  | .number n => printNumber n
  | .string s => printText s
  | .array items => '[' :: commaSeparated (printItems items) ++ [']']
  | .object members => '\x7b' :: commaSeparated (printMembers members) ++ ['\x7d']

/-- Each item of an array. -/
def printItems : List Json → List (List Char)
  | [] => []
  | v :: rest => print v :: printItems rest

/-- Each member of an object. -/
def printMembers : List (Text × Json) → List (List Char)
  | [] => []
  | (name, v) :: rest => (printText name ++ ':' :: print v) :: printMembers rest

end

/-- The text of a document without white space. -/
def compact (v : Json) : String :=
  String.ofList v.print

/-- Pieces a line each, inside brackets that stand on lines of their own. -/
def block (opening closing : Char) (depth : Nat) (pieces : List (List Char)) : List Char :=
  let margin (n : Nat) : List Char := '\n' :: List.replicate (2 * n) ' '
  if pieces.isEmpty then [opening, closing]
  else
    opening :: commaSeparated (pieces.map (margin (depth + 1) ++ ·)) ++ margin depth ++ [closing]

mutual

/-- The document with a line for each item and member, inside `depth` others. -/
def printPretty (depth : Nat) : Json → List Char
  | .array items => block '[' ']' depth (prettyItems (depth + 1) items)
  | .object members => block '\x7b' '\x7d' depth (prettyMembers (depth + 1) members)
  | v => print v

/-- Each item of an array. -/
def prettyItems (depth : Nat) : List Json → List (List Char)
  | [] => []
  | v :: rest => printPretty depth v :: prettyItems depth rest

/-- Each member of an object. -/
def prettyMembers (depth : Nat) : List (Text × Json) → List (List Char)
  | [] => []
  | (name, v) :: rest =>
    (printText name ++ ':' :: ' ' :: printPretty depth v) :: prettyMembers depth rest

end

/-- The text of a document with a line for each item and member. -/
def pretty (v : Json) : String :=
  String.ofList (v.printPretty 0)

end CoherentCache.Json
