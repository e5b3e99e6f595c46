/-!
# CoherentCache.Json.Double — natural numbers as a double holds them

A double keeps 53 binary digits of a number. One that has more is rounded to the nearest multiple of
the last digit kept, and from halfway between two of them to the even one; what would need more than
1024 binary digits after that is no finite double.
-/

namespace CoherentCache.Json.Double

/-- The binary digits that are kept. -/
def precision : Nat := 53

/-- The multiple of `step` nearest to `n`; halfway between two, the even one. -/
def nearestMultiple (n step : Nat) : Nat :=
  let below := n / step
  let rest := n % step
  if 2 * rest < step ∨ 2 * rest = step ∧ below % 2 = 0 then below * step else (below + 1) * step

/-- The value of the last binary digit kept of a number. -/
def lastPlace (n : Nat) : Nat :=
  Nat.pow 2 (n.log2 + 1 - precision)

/-- The number that is held in place of `n`. -/
def nearest (n : Nat) : Nat :=
  nearestMultiple n (lastPlace n)

/-- The least number that rounds to no finite double: halfway from the largest finite double to the
power of two above it. -/
def overflow : Nat := Nat.pow 2 1024 - Nat.pow 2 970

/-- The product of two numbers, each of them rounded first, rounds to a finite double. -/
def isFiniteProduct (a b : Nat) : Bool :=
  decide (nearest a * nearest b < overflow)

end CoherentCache.Json.Double
