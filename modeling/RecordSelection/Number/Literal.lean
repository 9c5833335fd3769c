import RecordSelection.Number.Binary64
import RecordSelection.Number.Digits

/-!
Reading a binary64 number from a decimal text: digits with a point among, before or after them and
an exponent, or the words for infinity and for no number, in any case. The result is rounded once.
-/

set_option autoImplicit false

namespace RecordSelection.Number

/-- `digits * 10 ^ exponent`. A number far out of range is not computed. -/
def Binary64.ofDecimal (negative : Bool) (digits : List Char) (exponent : Int) : Binary64 :=
  let digits := digits.dropWhile (· == '0')
  let top := exponent + digits.length
  if digits.isEmpty || top < -400 then zero negative
  else if 400 < top then .infinite negative
  else
    let n := numeral digits
    if 0 ≤ exponent then ofRatio negative (n * Nat.pow 10 exponent.toNat) 1
    else ofRatio negative n (Nat.pow 10 (-exponent).toNat)

def exponentOf? (s : List Char) : Option Int :=
  match s with
  | [] => some 0
  | c :: rest =>
    if c = 'e' || c = 'E' then
      let (negative, digits) := match rest with
        | '-' :: digits => (true, digits)
        | '+' :: digits => (false, digits)
        | digits => (false, digits)
      if digits.isEmpty || !digits.all isDigit then none
      else some (if negative then -(numeral digits : Int) else numeral digits)
    else none

def Binary64.ofText? (s : String) : Option Binary64 :=
  let (negative, s) := match s.toList with
    | '-' :: rest => (true, rest)
    | '+' :: rest => (false, rest)
    | s => (false, s)
  let word := String.ofList (s.map Char.toLower)
  if word = "inf" || word = "infinity" then some (.infinite negative)
  else if word = "nan" then some .nan
  else
    let whole := s.takeWhile isDigit
    let (fraction, rest) := match s.dropWhile isDigit with
      | '.' :: rest => (rest.takeWhile isDigit, rest.dropWhile isDigit)
      | rest => ([], rest)
    if whole.isEmpty && fraction.isEmpty then none
    else (exponentOf? rest).map fun e =>
      ofDecimal negative (whole ++ fraction) (e - fraction.length)

end RecordSelection.Number
