import CoherentCache.Json.Token

/-!
# CoherentCache.Json.Reader — documents from tokens

The reader is a machine with a stack: each token moves it to the next state, and the values that are
still open wait on the stack. So nesting needs no recursion, and a text is a document exactly if the
machine ends in `State.done`.

* `read` accepts every text that follows the grammar.
* `readSound` also asks that every part of it can be kept in memory.
-/

namespace CoherentCache.Json

/-- A value that waits for the one inside it; what was read before is in reverse. -/
inductive Frame where
  | array (read : List Json)
  | object (read : List (Text × Json)) (name : Text)
deriving Repr

/-- What the reader expects next. -/
inductive State where
  | value (stack : List Frame)
  | firstItem (stack : List Frame)
  | firstName (stack : List Frame)
  | name (read : List (Text × Json)) (stack : List Frame)
  | colon (name : Text) (read : List (Text × Json)) (stack : List Frame)
  | afterItem (read : List Json) (stack : List Frame)
  | afterMember (read : List (Text × Json)) (stack : List Frame)
  | done (v : Json)
deriving Repr

namespace State

/-- Hands a finished value to the one around it. -/
def deliver (v : Json) : List Frame → State
  | [] => done v
  | .array read :: stack => afterItem (v :: read) stack
  | .object read n :: stack => afterMember ((n, v) :: read) stack

/-- Takes the first token of a value. -/
def openValue (t : Token) (stack : List Frame) : Option State :=
  match t with
  | .openObject => some (firstName stack)
  | .openArray => some (firstItem stack)
  | .scalar v => some (deliver v stack)
  | _ => none

/-- Takes one token. -/
def step : State → Token → Option State
  | value stack, t => openValue t stack
  | firstItem stack, .closeArray => some (deliver (.array []) stack)
  | firstItem stack, t => openValue t (.array [] :: stack)
  | firstName stack, .closeObject => some (deliver (.object []) stack)
  | firstName stack, .scalar (.string n) => some (colon n [] stack)
  | name read stack, .scalar (.string n) => some (colon n read stack)
  | colon n read stack, .colon => some (value (.object read n :: stack))
  | afterItem read stack, .comma => some (value (.array read :: stack))
  | afterItem read stack, .closeArray => some (deliver (.array read.reverse) stack)
  | afterMember read stack, .comma => some (name read stack)
  | afterMember read stack, .closeObject => some (deliver (.object read.reverse) stack)
  | _, _ => none

/-- The document that was read, if the text ends here. -/
def finish : State → Option Json
  | done v => some v
  | _ => none

end State

/-- The document that tokens spell. -/
def ofTokens? (ts : List Token) : Option Json :=
  (ts.foldlM State.step (.value [])).bind State.finish

/-- The document that a text spells. -/
def read (s : String) : Option Json :=
  (tokens? s).bind ofTokens?

/-- Values may be nested less deeply than this. -/
def nestingLimit : Nat := 128

/-- The document that a text spells, if every part of it can be kept: no string without characters,
no number beyond the doubles, and not too many values inside each other. -/
def readSound (s : String) : Option Json := do
  let ts ← tokens? s
  guard (ts.all Token.isSound && nestsBelow nestingLimit 0 ts)
  ofTokens? ts

end CoherentCache.Json
