/-!
The ASCII form of a label of letters beyond ASCII (RFC 3492): its ASCII characters, and after a
hyphen the others in the order of their code points, each as the distance from the one before in
digits of a base that adapts.
-/

set_option autoImplicit false

namespace RecordSelection.Url.Punycode

def digit (n : Nat) : Char :=
  if n < 26 then Char.ofNat ('a'.toNat + n) else Char.ofNat ('0'.toNat + n - 26)

def digitValue? (c : Char) : Option Nat :=
  if 'a' ≤ c && c ≤ 'z' then some (c.toNat - 'a'.toNat)
  else if 'A' ≤ c && c ≤ 'Z' then some (c.toNat - 'A'.toNat)
  else if '0' ≤ c && c ≤ '9' then some (c.toNat - '0'.toNat + 26)
  else none

def threshold (position bias : Nat) : Nat :=
  if position ≤ bias then 1 else if bias + 26 ≤ position then 26 else position - bias

def shrink (delta bias : Nat) : Nat :=
  if h : 455 < delta then shrink (delta / 35) (bias + 36)
  else bias + 36 * delta / (delta + 38)
termination_by delta
decreasing_by omega

def adapt (delta count : Nat) (first : Bool) : Nat :=
  let delta := if first then delta / 700 else delta / 2
  shrink (delta + delta / count) 0

def number (bias : Nat) : Nat → Nat → Nat → List Char
  | 0, _, _ => []
  | count + 1, position, n =>
    let t := threshold position bias
    if n < t then [digit n]
    else digit (t + (n - t) % (36 - t))
      :: number bias count (position + 36) ((n - t) / (36 - t))

structure Progress where
  written : List Char
  delta : Nat
  bias : Nat
  handled : Nat

def pass (basic point : Nat) (p : Progress) (c : Char) : Progress :=
  if c.toNat < point then { p with delta := p.delta + 1 }
  else if c.toNat = point then
    { written := p.written ++ number p.bias 16 36 p.delta
      delta := 0
      bias := adapt p.delta (p.handled + 1) (p.handled = basic)
      handled := p.handled + 1 }
  else p

def passes (label : List Char) (basic : Nat) : Nat → List Nat → Progress → Progress
  | _, [], p => p
  | next, point :: rest, p =>
    let p := { p with delta := p.delta + (point - next) * (p.handled + 1) }
    let p := label.foldl (pass basic point) p
    passes label basic (point + 1) rest { p with delta := p.delta + 1 }

def distinct : List Nat → List Nat
  | [] => []
  | n :: rest => if rest.contains n then distinct rest else n :: distinct rest

def isAscii (c : Char) : Bool := c.toNat < 0x80

def encode (label : List Char) : List Char :=
  let basic := label.filter isAscii
  let points := (distinct ((label.filter (!isAscii ·)).map Char.toNat)).mergeSort
  let start : Progress :=
    ⟨if basic.isEmpty then [] else basic ++ ['-'], 0, 72, basic.length⟩
  (passes label basic.length 0x80 points start).written

def readNumber (bias : Nat) : Nat → Nat → Nat → List Char → Option (Nat × List Char)
  | _, _, _, [] => none
  | position, weight, total, c :: rest => do
    let d ← digitValue? c
    let total := total + d * weight
    let t := threshold position bias
    if d < t then some (total, rest)
    else readNumber bias (position + 36) (weight * (36 - t)) total rest

def insertAll : Nat → Nat → Nat → Nat → List Char → List Char → Option (List Char)
  | _, _, _, _, label, [] => some label
  | 0, _, _, _, _, _ :: _ => none
  | count + 1, point, index, bias, label, digits => do
    let (total, rest) ← readNumber bias 36 1 index digits
    let size := label.length + 1
    let point := point + total / size
    let place := total % size
    if h : point.isValidChar then
      let label := label.take place ++ Char.ofNatAux point h :: label.drop place
      insertAll count point (place + 1) (adapt (total - index) size (index = 0)) label rest
    else none

/-- The label an ASCII form stands for. The part before the last hyphen is taken as it is. -/
def decode (s : List Char) : Option (List Char) :=
  let reversed := s.reverse
  let digits := (reversed.takeWhile (· ≠ '-')).reverse
  let basic := ((reversed.dropWhile (· ≠ '-')).drop 1).reverse
  insertAll digits.length 0x80 0 72 basic digits

end RecordSelection.Url.Punycode
