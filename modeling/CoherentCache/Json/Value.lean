import CoherentCache.Json.Double

/-!
# CoherentCache.Json.Value — JSON documents

A document keeps what its text says: members of an object in their order, repeated names included,
and of numbers the leading digits. A text may name, by an escape, half of a surrogate pair without
the other half; such a text stands for no characters.
-/

namespace CoherentCache

/-- The characters of a JSON string; `none` if an escape leaves half a surrogate pair alone. -/
abbrev Json.Text := Option String

/-- A number with its leading digits, which make the coefficient: it stands for
`coefficient * 10 ^ exponent`, and for a little more if digits were left out. -/
structure Json.Number where
  negative : Bool
  coefficient : Nat
  exponent : Int
  /-- The number was written without a fraction and without an exponent, and no digit is left out. -/
  isWhole : Bool
deriving DecidableEq, Repr

/-- A JSON document. -/
inductive Json where
  | null
  | bool (b : Bool)
  | number (n : Json.Number)
  | string (s : Json.Text)
  | array (items : List Json)
  | object (members : List (Json.Text × Json))
deriving Repr

namespace Json

instance : Inhabited Json := ⟨null⟩

/-- A string with the given characters. -/
def text (s : String) : Json := string (some s)

/-- A whole number. -/
def nat (n : Nat) : Json := number ⟨false, n, 0, true⟩

/-- A string, or null. -/
def text? : Option String → Json
  | some s => text s
  | none => null

/-- An object whose members have the given names. -/
def record (members : List (String × Json)) : Json :=
  object (members.map fun m => (some m.1, m.2))

namespace Number

/-- The largest power of ten that is a finite double. -/
def maxExponent : Int := 308

/-- The number has a finite double. A positive power of ten is multiplied to the coefficient, both as
doubles hold them; a negative one divides it, which never leads out of the doubles. -/
def isFinite (n : Number) : Bool :=
  if n.coefficient = 0 ∨ n.exponent < 0 then true
  else if maxExponent < n.exponent then false
  else Double.isFiniteProduct n.coefficient (Nat.pow 10 n.exponent.toNat)

/-- The natural number that was written, as it is. -/
def nat? (n : Number) : Option Nat :=
  if n.isWhole && !n.negative then some n.coefficient else none

end Number

/-- The characters of a string. -/
def asText? : Json → Option String
  | string s => s
  | _ => none

/-- The name that a document states, either as a string or as the one member of an object, which is
null then. -/
def asChoice? : Json → Option String
  | string (some s) => some s
  | object [(some name, null)] => some name
  | _ => none

/-- The truth value that a document is. -/
def asBool? : Json → Option Bool
  | bool b => some b
  | _ => none

/-- The natural number that a document is, written without fraction and exponent. -/
def asNat? : Json → Option Nat
  | number n => n.nat?
  | _ => none

end Json

end CoherentCache
