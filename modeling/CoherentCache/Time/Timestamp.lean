/-!
# CoherentCache.Time.Timestamp — points in time as text

A point in time is written as RFC 3339 lays down, in Coordinated Universal Time. The calendar is the
Gregorian one, carried back and forth without end; a year is taken to begin in March here, so that
the leap day is the last of its year, and 146097 days make a whole cycle of 400 years.

* `civil_add_cycle` — the calendar repeats itself after each cycle.
-/

namespace CoherentCache.Timestamp

/-- A day of the calendar. -/
structure Date where
  year : Int
  month : Nat
  day : Nat
deriving DecidableEq, Repr

/-- The day that lies `days` days after the first of January 1970. -/
def civil (days : Int) : Date :=
  let shifted := days + 719468
  let cycle := shifted / 146097
  let dayOfCycle := (shifted % 146097).toNat
  let yearOfCycle :=
    (dayOfCycle - dayOfCycle / 1460 + dayOfCycle / 36524 - dayOfCycle / 146096) / 365
  let dayOfYear := dayOfCycle - (365 * yearOfCycle + yearOfCycle / 4 - yearOfCycle / 100)
  let monthFromMarch := (5 * dayOfYear + 2) / 153
  let day := dayOfYear - (153 * monthFromMarch + 2) / 5 + 1
  let month := if monthFromMarch < 10 then monthFromMarch + 3 else monthFromMarch - 9
  let year := cycle * 400 + yearOfCycle + if month ≤ 2 then 1 else 0
  ⟨year, month, day⟩

/-- A whole cycle later it is the same day of the same month, 400 years on. -/
theorem civil_add_cycle (days : Int) :
    civil (days + 146097) = { civil days with year := (civil days).year + 400 } := by
  have hcycle : (days + 146097 + 719468) / 146097 = (days + 719468) / 146097 + 1 := by omega
  have hday : (days + 146097 + 719468) % 146097 = (days + 719468) % 146097 := by omega
  simp only [civil, hcycle, hday]
  congr 1
  omega

example : civil 0 = ⟨1970, 1, 1⟩ ∧ civil 146097 = ⟨2370, 1, 1⟩ := by decide

example : civil 11016 = ⟨2000, 2, 29⟩ := by decide

/-- A number with at least `width` digits. -/
def padded (width n : Nat) : String :=
  let digits := toString n
  "".pushn '0' (width - digits.length) ++ digits

/-- A year: four digits, and a sign if it is not one of the years 0 to 9999. -/
def yearText (year : Int) : String :=
  if year < 0 then "-" ++ padded 4 year.natAbs
  else if 9999 < year then "+" ++ padded 4 year.toNat
  else padded 4 year.toNat

/-- The fraction of a second: none, or as many groups of three digits as say all of it. -/
def fractionText (nanos : Nat) : String :=
  if nanos = 0 then ""
  else if nanos % 1000000 = 0 then "." ++ padded 3 (nanos / 1000000)
  else if nanos % 1000 = 0 then "." ++ padded 6 (nanos / 1000)
  else "." ++ padded 9 nanos

/-- The point in time that lies `nanos` nanoseconds after the start of the year 1970. -/
def text (nanos : Int) : String :=
  let seconds := nanos / 1000000000
  let date := civil (seconds / 86400)
  let time := (seconds % 86400).toNat
  yearText date.year ++ "-" ++ padded 2 date.month ++ "-" ++ padded 2 date.day ++ "T" ++
    padded 2 (time / 3600) ++ ":" ++ padded 2 (time / 60 % 60) ++ ":" ++ padded 2 (time % 60) ++
    fractionText (nanos % 1000000000).toNat ++ "+00:00"

end CoherentCache.Timestamp
