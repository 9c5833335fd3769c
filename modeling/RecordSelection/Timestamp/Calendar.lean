/-!
The proleptic Gregorian calendar: dates, and days counted from 1970-01-01. A year is counted from
March, so that a leap day is its last day; the calendar repeats after 400 years.
-/

set_option autoImplicit false

namespace RecordSelection.Timestamp

structure Date where
  year : Int
  month : Nat
  day : Nat
  deriving DecidableEq, Repr

def isLeapYear (year : Int) : Bool :=
  year % 4 == 0 && (year % 100 != 0 || year % 400 == 0)

def daysInMonth (year : Int) (month : Nat) : Nat :=
  if month = 2 then if isLeapYear year then 29 else 28
  else if month = 4 ∨ month = 6 ∨ month = 9 ∨ month = 11 then 30
  else 31

def Date.Valid (d : Date) : Prop :=
  1 ≤ d.month ∧ d.month ≤ 12 ∧ 1 ≤ d.day ∧ d.day ≤ daysInMonth d.year d.month

instance (d : Date) : Decidable d.Valid := by unfold Date.Valid; infer_instance

def daysPerCycle : Int := 146097

def epochOffset : Int := 719468

/-- Days from the first of March to the first of a month counted from March. -/
def daysBefore (marchMonth : Int) : Int := (153 * marchMonth + 2) / 5

def Date.toDays (d : Date) : Int :=
  let year := if d.month ≤ 2 then d.year - 1 else d.year
  let marchMonth : Int := (d.month + 9 : Int) % 12
  let cycle := year / 400
  let yearOfCycle := year % 400
  let dayOfYear := daysBefore marchMonth + d.day - 1
  cycle * daysPerCycle + yearOfCycle * 365 + yearOfCycle / 4 - yearOfCycle / 100 + dayOfYear
    - epochOffset

def Date.ofDays (days : Int) : Date :=
  let shifted := days + epochOffset
  let cycle := shifted / daysPerCycle
  let dayOfCycle := shifted % daysPerCycle
  let yearOfCycle :=
    (dayOfCycle - dayOfCycle / 1460 + dayOfCycle / 36524 - dayOfCycle / 146096) / 365
  let dayOfYear := dayOfCycle - (365 * yearOfCycle + yearOfCycle / 4 - yearOfCycle / 100)
  let marchMonth := (5 * dayOfYear + 2) / 153
  let day := (dayOfYear - daysBefore marchMonth + 1).toNat
  let month := if marchMonth < 10 then (marchMonth + 3).toNat else (marchMonth - 9).toNat
  let year := yearOfCycle + cycle * 400
  ⟨if month ≤ 2 then year + 1 else year, month, day⟩

end RecordSelection.Timestamp
