/-! Points in time, counted from the start of 1970, and their written form in universal
time. -/

namespace ImportWeights.Report

structure Timestamp where
  seconds : Int
  nanos : Nat
deriving DecidableEq, Repr

/-- A date of the Gregorian calendar, carried on in both directions. -/
structure Date where
  year : Int
  month : Nat
  day : Nat
deriving DecidableEq, Repr

/-- The date that lies a number of days after the start of 1970. Years are taken to begin
in March, so that a leap day is the last day of its year, and are counted in cycles of
400 years, all of which have the same number of days. -/
def Date.ofDays (days : Int) : Date :=
  let shifted := days + 719468
  let cycle := shifted.fdiv 146097
  let dayOfCycle := (shifted.fmod 146097).toNat
  let yearOfCycle :=
    (dayOfCycle - dayOfCycle / 1460 + dayOfCycle / 36524 - dayOfCycle / 146096) / 365
  let dayOfYear := dayOfCycle - (365 * yearOfCycle + yearOfCycle / 4 - yearOfCycle / 100)
  let monthFromMarch := (5 * dayOfYear + 2) / 153
  let day := dayOfYear - (153 * monthFromMarch + 2) / 5 + 1
  let month := if monthFromMarch < 10 then monthFromMarch + 3 else monthFromMarch - 9
  let year := (yearOfCycle : Int) + cycle * 400 + if month ≤ 2 then 1 else 0
  ⟨year, month, day⟩

/-- A number with zeros in front up to a width. -/
def zeroPadded (width n : Nat) : String :=
  let digits := toString n
  String.ofList (List.replicate (width - digits.length) '0') ++ digits

/-- Years of four digits stand as they are, all others carry a sign. -/
def yearText (year : Int) : String :=
  if 0 ≤ year ∧ year ≤ 9999 then zeroPadded 4 year.toNat
  else (if year < 0 then "-" else "+") ++ zeroPadded 4 year.natAbs

/-- A fraction of a second with as many groups of three digits as it needs. -/
def fractionText (nanos : Nat) : String :=
  if nanos = 0 then ""
  else if nanos % 1000000 = 0 then "." ++ zeroPadded 3 (nanos / 1000000)
  else if nanos % 1000 = 0 then "." ++ zeroPadded 6 (nanos / 1000)
  else "." ++ zeroPadded 9 nanos

def Timestamp.dateText (t : Timestamp) : String :=
  let date := Date.ofDays (t.seconds.fdiv 86400)
  yearText date.year ++ "-" ++ zeroPadded 2 date.month ++ "-" ++ zeroPadded 2 date.day

/-- The time of day in whole seconds. A second's worth of nanoseconds or more makes a leap
second. -/
def Timestamp.clockText (t : Timestamp) : String :=
  let second := (t.seconds.fmod 86400).toNat
  zeroPadded 2 (second / 3600) ++ ":" ++ zeroPadded 2 (second / 60 % 60) ++ ":" ++
    zeroPadded 2 (second % 60 + t.nanos / 1000000000)

/-- The written form. -/
def Timestamp.text (t : Timestamp) : String :=
  t.dateText ++ "T" ++ t.clockText ++ fractionText (t.nanos % 1000000000) ++ "Z"

/-- A length of time. -/
structure Span where
  seconds : Nat
  nanos : Nat
deriving DecidableEq, Repr

def Span.millis (s : Span) : Nat := s.seconds * 1000 + s.nanos / 1000000

end ImportWeights.Report
