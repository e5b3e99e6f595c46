import CoherentCache.Json.Value
import CoherentCache.Text.Numeral

/-!
# CoherentCache.Json.Token — the words of a JSON text

A text is cut into punctuation and scalars one character at a time: `Scan.step` takes a character
and yields the tokens it completes. Strings follow the grammar strictly: control characters must be
escaped, and an escape names four hexadecimal digits or one of eight characters.
-/

namespace CoherentCache.Json

/-- A piece of a JSON text. -/
inductive Token where
  | openObject
  | closeObject
  | openArray
  | closeArray
  | colon
  | comma
  | scalar (v : Json)
deriving Repr

/-! ## Characters of a string -/

/-- What stands in a string: a character, or an escaped 16-bit unit. -/
inductive Unit16 where
  | char (c : Char)
  | escaped (n : Nat)
deriving DecidableEq, Repr

/-- The unit opens a surrogate pair. -/
def isHighSurrogate (n : Nat) : Bool := decide (0xd800 ≤ n ∧ n ≤ 0xdbff)

/-- The unit closes a surrogate pair. -/
def isLowSurrogate (n : Nat) : Bool := decide (0xdc00 ≤ n ∧ n ≤ 0xdfff)

/-- The code point of a surrogate pair. -/
def ofSurrogates (high low : Nat) : Char :=
  Char.ofNat (0x10000 + (high - 0xd800) * 0x400 + (low - 0xdc00))

/-- The characters that units stand for, unless half of a surrogate pair stands alone. -/
def decode : List Unit16 → Option (List Char)
  | [] => some []
  | .char c :: rest => (c :: ·) <$> decode rest
  | .escaped high :: .escaped low :: rest =>
    if isHighSurrogate high then
      if isLowSurrogate low then (ofSurrogates high low :: ·) <$> decode rest else none
    else if isLowSurrogate high then none
    else (Char.ofNat high :: ·) <$> decode (.escaped low :: rest)
  | .escaped n :: rest =>
    if isHighSurrogate n || isLowSurrogate n then none else (Char.ofNat n :: ·) <$> decode rest

/-- The value of a hexadecimal digit, in either case. -/
def hexDigit? (c : Char) : Option Nat :=
  if c.isDigit then some (c.toNat - '0'.toNat)
  else if 'a' ≤ c ∧ c ≤ 'f' then some (c.toNat - 'a'.toNat + 10)
  else if 'A' ≤ c ∧ c ≤ 'F' then some (c.toNat - 'A'.toNat + 10)
  else none

/-- The character that a one-letter escape stands for. -/
def shortEscape? : Char → Option Char
  | '"' => some '"'
  | '\\' => some '\\'
  | '/' => some '/'
  | 'b' => some '\x08'
  | 'f' => some '\x0c'
  | 'n' => some '\n'
  | 'r' => some '\r'
  | 't' => some '\t'
  | _ => none

/-! ## Numbers and literals -/

/-- One or more digits at the front, and what follows them. -/
def digits? (cs : List Char) : Option (List Char × List Char) :=
  match cs.takeWhile Char.isDigit with
  | [] => none
  | ds => some (ds, cs.dropWhile Char.isDigit)

/-- The value of a row of digits. -/
def valueOf (ds : List Char) : Nat :=
  ds.foldl (fun n c => 10 * n + (c.toNat - '0'.toNat)) 0

/-- The exponent that the rest of a number states, zero if there is none. -/
def exponent? : List Char → Option Int
  | [] => some 0
  | e :: rest =>
    if e = 'e' ∨ e = 'E' then
      let (sign, rest) : Int × List Char := match rest with
        | '-' :: rest => (-1, rest)
        | '+' :: rest => (1, rest)
        | rest => (1, rest)
      match digits? rest with
      | some (ds, []) => some (sign * valueOf ds)
      | _ => none
    else none

/-- Digits that follow the value `n` go into the coefficient while it fits a 64-bit word: the
coefficient, and the digits from the first one that did not fit. -/
def extend (n : Nat) : List Char → Nat × List Char
  | [] => (n, [])
  | d :: ds =>
    let m := 10 * n + (d.toNat - '0'.toNat)
    if m ≤ Text.wordMax then extend m ds else (n, d :: ds)

/-- The number that a word spells: no leading zeros, no bare point, no bare exponent. Digits before
the point that do not fit the coefficient still count as places; the digits after the point are tried
anew then. -/
def number? (cs : List Char) : Option Number := do
  let (negative, cs) := match cs with
    | '-' :: rest => (true, rest)
    | cs => (false, cs)
  let (whole, rest) ← digits? cs
  guard (whole.length = 1 ∨ whole.head? ≠ some '0')
  let (n, places) := extend 0 whole
  match rest with
  | '.' :: rest =>
    let (fraction, rest) ← digits? rest
    let e ← exponent? rest
    let (n, dropped) := extend n fraction
    return ⟨negative, n, e + places.length + dropped.length - fraction.length, false⟩
  | rest =>
    let e ← exponent? rest
    return ⟨negative, n, e + places.length, rest.isEmpty && places.isEmpty⟩

/-- The scalar that a word spells. -/
def word? (cs : List Char) : Option Json :=
  if cs = ['n', 'u', 'l', 'l'] then some .null
  else if cs = ['t', 'r', 'u', 'e'] then some (.bool true)
  else if cs = ['f', 'a', 'l', 's', 'e'] then some (.bool false)
  else (number? cs).map .number

/-! ## Scanning -/

/-- Where in the text the scanner stands; what it has read of a token is in reverse. -/
inductive Scan where
  | between
  | word (read : List Char)
  | string (read : List Unit16)
  | escape (read : List Unit16)
  | hex (read : List Unit16) (value digitsLeft : Nat)
deriving Repr

/-- White space between tokens. -/
def isSpace (c : Char) : Bool :=
  c == ' ' || c == '\t' || c == '\n' || c == '\r'

/-- The punctuation that a character is. -/
def punctuation? : Char → Option Token
  | '\x7b' => some .openObject
  | '\x7d' => some .closeObject
  | '[' => some .openArray
  | ']' => some .closeArray
  | ':' => some .colon
  | ',' => some .comma
  | _ => none

namespace Scan

/-- Takes a character between two tokens. -/
def start (c : Char) : List Token × Scan :=
  if isSpace c then ([], between)
  else if c = '"' then ([], string [])
  else match punctuation? c with
    | some t => ([t], between)
    | none => ([], word [c])

/-- The character ends a word. -/
def endsWord (c : Char) : Bool :=
  isSpace c || c == '"' || (punctuation? c).isSome

/-- Takes one character: the tokens that it completes, and where the scanner stands after it. -/
def step : Scan → Char → Option (List Token × Scan)
  | between, c => some (start c)
  | word read, c =>
    if endsWord c then do
      let v ← word? read.reverse
      let (ts, scan) := start c
      return (.scalar v :: ts, scan)
    else some ([], word (c :: read))
  | string read, c =>
    if c = '"' then some ([.scalar (.string ((decode read.reverse).map String.ofList))], between)
    else if c = '\\' then some ([], escape read)
    else if c.toNat < 0x20 then none
    else some ([], string (.char c :: read))
  | escape read, c =>
    if c = 'u' then some ([], hex read 0 4)
    else (shortEscape? c).map fun c => ([], string (.char c :: read))
  | hex read value digitsLeft, c => do
    let d ← hexDigit? c
    let value := 16 * value + d
    if digitsLeft ≤ 1 then return ([], string (.escaped value :: read))
    else return ([], hex read value (digitsLeft - 1))

/-- The tokens that the end of the text completes. -/
def finish : Scan → Option (List Token)
  | between => some []
  | word read => do return [.scalar (← word? read.reverse)]
  | _ => none

/-- The tokens of the rest of a text. -/
def run (scan : Scan) : List Char → Option (List Token)
  | [] => scan.finish
  | c :: cs => do
    let (ts, scan) ← scan.step c
    return ts ++ (← scan.run cs)

end Scan

/-- The tokens of a text. -/
def tokens? (s : String) : Option (List Token) :=
  Scan.between.run s.toList

/-! ## Texts that can be kept -/

/-- The token has a value in memory: its characters exist, its number is a finite double. -/
def Token.isSound : Token → Bool
  | .scalar (.string s) => s.isSome
  | .scalar (.number n) => n.isFinite
  | _ => true

/-- No value lies inside `limit` or more others, where `depth` are open already. -/
def nestsBelow (limit : Nat) : (depth : Nat) → List Token → Bool
  | _, [] => true
  | depth, t :: ts =>
    match t with
    | .openObject | .openArray => decide (depth + 1 < limit) && nestsBelow limit (depth + 1) ts
    | .closeObject | .closeArray => nestsBelow limit (depth - 1) ts
    | _ => nestsBelow limit depth ts

end CoherentCache.Json
