import RecordSelection.Timestamp.Calendar

/-!
Instants: seconds since 1970-01-01 00:00:00 in universal time, and nanoseconds. A leap second is
the second before it with a thousand million nanoseconds more.
-/

set_option autoImplicit false

namespace RecordSelection

namespace Timestamp

def firstYear : Int := -262143

def lastYear : Int := 262142

def secondsPerDay : Int := 86400

def secondNanos : Nat := 1000000000

def firstSecond : Int := (Date.mk firstYear 1 1).toDays * secondsPerDay

def lastSecond : Int := (Date.mk lastYear 12 31).toDays * secondsPerDay + (secondsPerDay - 1)

/-- The years are limited, and only the last second of a minute can be a leap second. -/
def Representable (seconds : Int) (nanos : Nat) : Prop :=
  firstSecond ≤ seconds ∧ seconds ≤ lastSecond ∧ nanos < 2 * secondNanos
    ∧ (secondNanos ≤ nanos → seconds % 60 = 59)

instance (seconds : Int) (nanos : Nat) : Decidable (Representable seconds nanos) := by
  unfold Representable; infer_instance

end Timestamp

structure Timestamp where
  seconds : Int
  nanos : Nat
  representable : Timestamp.Representable seconds nanos

namespace Timestamp

instance : DecidableEq Timestamp := fun a b =>
  decidable_of_iff (a.seconds = b.seconds ∧ a.nanos = b.nanos)
    ⟨fun ⟨h, k⟩ => by cases a; cases b; simp_all, by rintro rfl; exact ⟨rfl, rfl⟩⟩

def ofUnix? (seconds : Int) (nanos : Nat) : Option Timestamp :=
  if h : Representable seconds nanos then some ⟨seconds, nanos, h⟩ else none

def epoch : Timestamp := ⟨0, 0, by decide⟩

structure Fields where
  year : Int
  month : Nat
  day : Nat
  hour : Nat
  minute : Nat
  second : Nat
  nanos : Nat
  deriving DecidableEq, Repr

def ofFields? (f : Fields) (offset : Int) : Option Timestamp :=
  let date : Date := ⟨f.year, f.month, f.day⟩
  if date.Valid ∧ firstYear ≤ f.year ∧ f.year ≤ lastYear ∧ f.hour ≤ 23 ∧ f.minute ≤ 59
      ∧ f.second ≤ 60 then
    let leap := f.second = 60
    let second : Int := if leap then 59 else f.second
    ofUnix? (date.toDays * secondsPerDay + f.hour * 3600 + f.minute * 60 + second - offset)
      (if leap then f.nanos + secondNanos else f.nanos)
  else none

def fields (t : Timestamp) : Fields :=
  let date := Date.ofDays (t.seconds / secondsPerDay)
  let ofDay := (t.seconds % secondsPerDay).toNat
  { year := date.year, month := date.month, day := date.day
    hour := ofDay / 3600, minute := ofDay / 60 % 60
    second := ofDay % 60 + t.nanos / secondNanos
    nanos := t.nanos % secondNanos }

end Timestamp

end RecordSelection
