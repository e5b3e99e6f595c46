import CoherentCache.Error
import CoherentCache.Text.Quoted

/-!
# CoherentCache.Lock.Handle — what the holder of a lock is given

Every grant of a lock has a token of its own, and later grants of the same table have greater
tokens. The handle shows the token when the lock is released, so a handle that outlived its grant is
recognised by its number, however many copies of it there are.
-/

namespace CoherentCache

/-- The number of a grant. -/
structure Token where
  number : Nat
deriving DecidableEq, Repr, Inhabited

namespace Token

/-- The token as messages show it. -/
def text (t : Token) : String := "#" ++ toString t.number

instance : LT Token := ⟨fun s t => s.number < t.number⟩

instance (s t : Token) : Decidable (s < t) := inferInstanceAs (Decidable (s.number < t.number))

/-- Which of two grants came first. -/
def order (s t : Token) : Ordering := compare s.number t.number

end Token

/-- What is locked: one key, or the region as a whole. -/
inductive Target (K : Type) where
  | item (key : K)
  | region
deriving DecidableEq, Repr

namespace Target

variable {K : Type}

/-- The key that is locked. -/
def key? : Target K → Option K
  | item k => some k
  | region => none

/-- The region as a whole is locked. -/
def isRegion : Target K → Bool
  | item _ => false
  | region => true

end Target

/-- Shows that its owner was granted a lock. -/
structure Handle (K : Type) where
  target : Target K
  token : Token
  acquiredAt : Nat
deriving DecidableEq, Repr

/-- Why a lock is refused. -/
inductive Refusal (K : Type) where
  /-- Someone holds the lock of the key. -/
  | itemHeld (key : K)
  /-- Someone holds the lock of the region, which blocks the key. -/
  | regionBlocks (key : K)
  /-- Someone holds the lock of the region. -/
  | regionHeld
deriving DecidableEq, Repr

/-- A refused lock as an error. -/
def Refusal.toError {K : Type} [Quotable K] : Refusal K → Error
  | itemHeld k => ⟨.alreadyLocked, quoted k⟩
  | regionBlocks k => ⟨.alreadyLocked, "region lock blocks " ++ quoted k⟩
  | regionHeld => ⟨.alreadyLocked, "region"⟩

end CoherentCache
