import RecordSelection.Number.Binary64

/-!
The decimal text of a binary64 number. The digits are the fewest that read back as the same
number, the nearest of those; a `Style` says when they are written without an exponent.
-/

set_option autoImplicit false

namespace RecordSelection.Number

inductive Tie where
  | even
  | up
  deriving DecidableEq, Repr

/-- Which scientific exponents are written in place, whether a positive exponent of the
others carries its sign, and where a number half way between two decimals goes. -/
structure Style where
  lowest : Int
  highest : Int
  plus : Bool
  tie : Tie
  deriving Repr

/-- Numbers inside JSON texts: in place from 1e-5 to below 1e16, else as `1.5e+20`; a tie goes
to the even digit. -/
def Style.json : Style := ⟨-5, 15, true, .even⟩

/-- Numbers on their own: in place from 1e-4 to below 1e16, else as `1.5e20`; a tie goes up. -/
def Style.plain : Style := ⟨-4, 15, false, .up⟩

def Tie.prefersLow (tie : Tie) (low rest whole : Nat) : Bool :=
  if 2 * rest = whole then
    match tie with
    | .even => low % 2 = 0
    | .up => false
  else 2 * rest < whole

namespace Shortest

def decimalDigits (n : Nat) : List Char := Nat.toDigits 10 n

def decimalRatio (n : Nat) (e : Int) : Nat × Nat :=
  if 0 ≤ e then (n * Nat.pow 10 e.toNat, 1) else (n, Nat.pow 10 (-e).toNat)

def decimalWidth (num den : Nat) : Nat → Int → Int
  | 0, k => k
  | fuel + 1, k =>
    let (n, d) := decimalRatio 1 k
    if num * d < n * den then k else decimalWidth num den fuel (k + 1)

/-- The number of `step = 10 ^ e` that is nearest among the two neighbours of `num / den` that
read back as the given number, if one does. -/
def onGrid (tie : Tie) (significand : Nat) (exponent : Int) (num den : Nat) (e : Int) :
    Option Nat :=
  let (sn, sd) := decimalRatio 1 e
  let top := num * sd
  let bottom := den * sn
  let low := top / bottom
  let same (n : Nat) : Bool :=
    let (a, b) := decimalRatio n e
    Binary64.ofRatio false a b == .finite false significand exponent
  if tie.prefersLow low (top % bottom) bottom && same low then some low
  else if same (low + 1) then some (low + 1)
  else if same low then some low
  else none

def search (tie : Tie) (significand : Nat) (exponent : Int) (num den : Nat) :
    Nat → Int → Nat × Int
  | 0, e => (num * (decimalRatio 1 e).2 / (den * (decimalRatio 1 e).1), e)
  | fuel + 1, e =>
    match onGrid tie significand exponent num den e with
    | some n => (n, e)
    | none => search tie significand exponent num den fuel (e - 1)

def dropTrailingZeros (digits : List Char) : List Char :=
  (digits.reverse.dropWhile (· == '0')).reverse

def digits (tie : Tie) (significand : Nat) (exponent : Int) : List Char × Int :=
  let (num, den) := Binary64.ratio significand exponent
  let guess : Int := (floorLog2 num den) * 30103 / 100000 - 1
  let width := decimalWidth num den 8 guess
  let (n, e) := search tie significand exponent num den 17 (width - 1)
  let shown := decimalDigits n
  (dropTrailingZeros shown, e + (shown.length : Int) - 1)

def zeros (n : Nat) : List Char := List.replicate n '0'

def positional (ds : List Char) (exponent : Int) : List Char :=
  if exponent < 0 then '0' :: '.' :: (zeros (-exponent - 1).toNat ++ ds)
  else
    let whole := exponent.toNat + 1
    if ds.length ≤ whole then ds ++ zeros (whole - ds.length) ++ ['.', '0']
    else ds.take whole ++ '.' :: ds.drop whole

def scientific (plus : Bool) (ds : List Char) (exponent : Int) : List Char :=
  let mantissa := match ds with
    | [] => ['0']
    | [d] => [d]
    | d :: rest => d :: '.' :: rest
  let sign := if exponent < 0 then ['-'] else if plus then ['+'] else []
  mantissa ++ 'e' :: (sign ++ decimalDigits exponent.natAbs)

end Shortest

def Binary64.text (style : Style) : Binary64 → String
  | .nan => "NaN"
  | .infinite negative => if negative then "-inf" else "inf"
  | .finite negative significand exponent =>
    let body :=
      if significand = 0 then ['0', '.', '0']
      else
        let (ds, e) := Shortest.digits style.tie significand exponent
        if style.lowest ≤ e && e ≤ style.highest then Shortest.positional ds e
        else Shortest.scientific style.plus ds e
    String.ofList (if negative then '-' :: body else body)

end RecordSelection.Number
