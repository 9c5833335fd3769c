import RecordSelection.Number.Digits
import RecordSelection.Timestamp.Basic

/-!
Times in the form of RFC 3339: every field has its full width, and the offset from universal time
is always given.
-/

set_option autoImplicit false

namespace RecordSelection.Timestamp

open RecordSelection.Number (isDigit numeral leadingDigits)

abbrev Step (α : Type) := List Char → Option (α × List Char)

def wide (width : Nat) : Step Nat := fun s => do
  let (digits, rest) ← leadingDigits width width s
  return (numeral digits, rest)

def letter (c : Char) : Step Unit
  | [] => none
  | d :: rest => if d = c then some ((), rest) else none

/-- The digits of a fraction as nanoseconds; digits beyond the ninth are dropped. -/
def nanoseconds : Step Nat := fun s => do
  let (digits, rest) ← leadingDigits 1 9 s
  return (numeral digits * Nat.pow 10 (9 - digits.length), rest.dropWhile isDigit)

def fraction : Step Nat
  | '.' :: rest => nanoseconds rest
  | s => some (0, s)

def offsetSize : Step Nat := fun s => do
  let (hours, s) ← wide 2 s
  let (_, s) ← letter ':' s
  let (minutes, s) ← wide 2 s
  if hours ≤ 23 && minutes ≤ 59 then some (hours * 3600 + minutes * 60, s) else none

def zone : Step Int
  | [] => none
  | c :: rest =>
    if c = 'Z' || c = 'z' then some (0, rest)
    else if c = '+' then do
      let (size, rest) ← offsetSize rest
      return ((size : Int), rest)
    else if c = '-' || c = '−' then do
      let (size, rest) ← offsetSize rest
      return (-(size : Int), rest)
    else none

def separator : Step Unit
  | [] => none
  | c :: rest => if c = 'T' || c = 't' || c = ' ' then some ((), rest) else none

def strictFields : Step Fields := fun s => do
  let (year, s) ← wide 4 s
  let (_, s) ← letter '-' s
  let (month, s) ← wide 2 s
  let (_, s) ← letter '-' s
  let (day, s) ← wide 2 s
  let (_, s) ← separator s
  let (hour, s) ← wide 2 s
  let (_, s) ← letter ':' s
  let (minute, s) ← wide 2 s
  let (_, s) ← letter ':' s
  let (second, s) ← wide 2 s
  let (nanos, s) ← fraction s
  return ({ year, month, day, hour, minute, second, nanos }, s)

def readStrict? (s : List Char) : Option Timestamp := do
  let (fields, s) ← strictFields s
  let (offset, s) ← zone s
  if s.isEmpty then ofFields? fields offset else none

end RecordSelection.Timestamp
