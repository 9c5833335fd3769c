import RecordSelection.Text.Blank
import RecordSelection.Timestamp.Rfc3339

/-!
Times with a blank between date and time and no offset, always in universal time. Numbers may
have blanks before them and fewer digits than their width; a year with a sign may have more.
-/

set_option autoImplicit false

namespace RecordSelection.Timestamp

open RecordSelection.Number (numeral leadingDigits)
open RecordSelection.Text (trimStart)

def narrow (width : Nat) : Step Nat := fun s => do
  let (digits, rest) ← leadingDigits 1 width (trimStart s)
  return (numeral digits, rest)

def anyWidth : Step Nat := fun s => do
  let (digits, rest) ← leadingDigits 1 s.length s
  return (numeral digits, rest)

def signedYear : Step Int := fun s =>
  match trimStart s with
  | '-' :: rest => do
    let (n, rest) ← anyWidth rest
    return (-(n : Int), rest)
  | '+' :: rest => do
    let (n, rest) ← anyWidth rest
    return ((n : Int), rest)
  | s => do
    let (n, rest) ← narrow 4 s
    return ((n : Int), rest)

def relaxedFields : Step Fields := fun s => do
  let (year, s) ← signedYear s
  let (_, s) ← letter '-' s
  let (month, s) ← narrow 2 s
  let (_, s) ← letter '-' s
  let (day, s) ← narrow 2 s
  let (hour, s) ← narrow 2 s
  let (_, s) ← letter ':' s
  let (minute, s) ← narrow 2 s
  let (_, s) ← letter ':' s
  let (second, s) ← narrow 2 s
  let (nanos, s) ← fraction s
  return ({ year, month, day, hour, minute, second, nanos }, s)

def readRelaxed? (s : List Char) : Option Timestamp := do
  let (fields, s) ← relaxedFields s
  if s.isEmpty then ofFields? fields 0 else none

end RecordSelection.Timestamp
