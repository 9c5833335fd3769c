/-!
Decimal digits and the numbers they stand for.
-/

set_option autoImplicit false

namespace RecordSelection.Number

def isDigit (c : Char) : Bool := '0' ≤ c && c ≤ '9'

def digitValue (c : Char) : Nat := c.toNat - '0'.toNat

def numeral (digits : List Char) : Nat :=
  digits.foldl (fun n c => n * 10 + digitValue c) 0

/-- The leading digits of a text, no more than `most` of them and no fewer than `least`, with
the rest of the text. -/
def leadingDigits (least most : Nat) (s : List Char) : Option (List Char × List Char) :=
  let digits := (s.take most).takeWhile isDigit
  if digits.length < least then none else some (digits, s.drop digits.length)

def padded (width n : Nat) : List Char :=
  let digits := Nat.toDigits 10 n
  List.replicate (width - digits.length) '0' ++ digits

end RecordSelection.Number
