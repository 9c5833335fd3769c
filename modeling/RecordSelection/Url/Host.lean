import RecordSelection.Number.Digits
import RecordSelection.Url.Fault
import RecordSelection.Url.Name
import RecordSelection.Url.Percent

/-!
Hosts: names, and addresses of four bytes or of eight pieces. The name of a host of a special
scheme is in lower case, with letters beyond ASCII in their ASCII form; a name that ends in a
number is an address.
-/

set_option autoImplicit false

namespace RecordSelection.Url

namespace Host

open RecordSelection.Number (isDigit digitValue numeral)

/-- A number of an address: hexadecimal after `0x`, octal after a zero, else decimal. -/
def number4? (s : List Char) : Option Nat :=
  let based (base : Nat) (digits : List Char) : Option Nat :=
    digits.foldlM (fun n c => do
      let d ← hexValue? c
      if d < base then some (n * base + d) else none) 0
  match s with
  | [] => none
  | ['0'] => some 0
  | '0' :: c :: rest => if c = 'x' || c = 'X' then based 16 rest else based 8 (c :: rest)
  | s => based 10 s

/-- The last part of a name, other than an empty one at its end, is a number. -/
def endsInNumber (name : List Char) : Bool :=
  let parts := (Text.splitAt (· == '.') name).reverse
  let last := match parts with
    | [] :: part :: _ => part
    | part :: _ => part
    | [] => []
  (!last.isEmpty && last.all isDigit) || (number4? last).isSome

def address4 (name : List Char) : Except Fault Nat :=
  let parts := Text.splitAt (· == '.') name
  let parts := if parts.getLast? = some [] then parts.dropLast else parts
  match parts.mapM number4? with
  | none => .error .badAddress4
  | some numbers =>
    match numbers.reverse with
    | [] => .error .badAddress4
    | last :: reversed =>
      let bytes := reversed.reverse
      if 3 < bytes.length || bytes.any (255 < ·) || Nat.pow 256 (4 - bytes.length) ≤ last then
        .error .badAddress4
      else
        .ok (bytes.foldl (fun n b => n * 256 + b) 0 * Nat.pow 256 (4 - bytes.length) + last)

def renderAddress4 (n : Nat) : List Char :=
  let byte (k : Nat) : List Char := Nat.toDigits 10 (n / Nat.pow 256 k % 256)
  byte 3 ++ '.' :: byte 2 ++ '.' :: byte 1 ++ '.' :: byte 0

def byte? (digits : List Char) : Option Nat :=
  if digits.isEmpty || (1 < digits.length && digits.head? = some '0') || 255 < numeral digits then
    none
  else some (numeral digits)

def tail4? (s : List Char) : Option (List Nat) := do
  let parts := Text.splitAt (· == '.') s
  if !parts.all (·.all isDigit) then none
  else match ← parts.mapM byte? with
    | [a, b, c, d] => some [a * 256 + b, c * 256 + d]
    | _ => none

structure Pieces where
  found : List Nat
  gap : Option Nat

def pieces : Nat → Pieces → List Char → Option Pieces
  | 0, p, s => if s.isEmpty then some p else none
  | _ + 1, p, [] => some p
  | count + 1, p, s =>
    let virtual := p.found.length + (if p.gap.isSome then 1 else 0)
    if 8 ≤ virtual then none
    else match s with
      | ':' :: rest =>
        if p.gap.isSome then none
        else pieces count { p with gap := some p.found.length } rest
      | s =>
        let digits := (s.take 4).takeWhile (fun c => (hexValue? c).isSome)
        let value := digits.foldl (fun n c => n * 16 + (hexValue? c).getD 0) 0
        match s.drop digits.length with
        | [] => some { p with found := p.found ++ [value] }
        | '.' :: _ =>
          if digits.isEmpty || 6 < virtual then none
          else (tail4? s).map fun last => { p with found := p.found ++ last }
        | ':' :: rest =>
          if rest.isEmpty then none
          else pieces count { p with found := p.found ++ [value] } rest
        | _ => none

/-- The eight pieces of an address; a gap stands for at least one piece of zeros. -/
def address6 (s : List Char) : Except Fault (List Nat) :=
  let start : Option (Pieces × List Char) := match s with
    | [] | [_] => none
    | ':' :: ':' :: rest => some (⟨[], some 0⟩, rest)
    | ':' :: _ => none
    | s => some (⟨[], none⟩, s)
  match start.bind fun (p, rest) => pieces (rest.length + 1) p rest with
  | none => .error .badAddress6
  | some ⟨found, none⟩ => if found.length = 8 then .ok found else .error .badAddress6
  | some ⟨found, some gap⟩ =>
    if 8 ≤ found.length then .error .badAddress6
    else .ok (found.take gap ++ List.replicate (8 - found.length) 0 ++ found.drop gap)

def zeroRun (ps : List Nat) : Nat := (ps.takeWhile (· == 0)).length

/-- The longest run of at least two zeros, the first of several: its place and its length. -/
def longestRun : Nat → List Nat → Nat × Nat → Nat × Nat
  | _, [], best => best
  | place, p :: rest, best =>
    let run := zeroRun (p :: rest)
    longestRun (place + 1) rest (if 1 < run && best.2 < run then (place, run) else best)

def renderPieces (ps : List Nat) : List Char :=
  [':'].intercalate (ps.map (Nat.toDigits 16))

def renderAddress6 (ps : List Nat) : List Char :=
  let (place, run) := longestRun 0 ps (0, 0)
  let body := if run = 0 then renderPieces ps
    else renderPieces (ps.take place) ++ [':', ':'] ++ renderPieces (ps.drop (place + run))
  '[' :: (body ++ [']'])

def isForbidden (c : Char) : Bool :=
  c.toNat = 0 || oneOf ['\t', '\n', '\r', ' ', '#', '/', ':', '<', '>', '?', '@', '[', '\\', ']',
    '^', '|'] c

def isForbiddenInName (c : Char) : Bool :=
  isForbidden c || c == '%' || c.toNat ≤ 0x1f || c.toNat = 0x7f

def asciiName (s : List Char) : Except Fault (List Char) :=
  match Name.ascii? s with
  | some name => if name.any isForbiddenInName then .error .badName else .ok name
  | none => .error .badName

def bracketed (s : List Char) : Except Fault (List Char) :=
  match s.reverse with
  | ']' :: inner => do return renderAddress6 (← address6 inner.reverse)
  | _ => .error .badAddress6

def readSpecial (s : List Char) : Except Fault (List Char) :=
  match s with
  | '[' :: rest => bracketed rest
  | s => do
    let some decoded := ofUtf8? (decode s) | .error .badName
    let name ← asciiName decoded
    if name.isEmpty then .error .emptyHost
    else if endsInNumber name then return renderAddress4 (← address4 name)
    else return name

def readOther (s : List Char) : Except Fault (List Char) :=
  match s with
  | '[' :: rest => bracketed rest
  | s => if s.any isForbidden then .error .badHostCharacter else .ok (encode EncodeSet.control s)

end Host

end RecordSelection.Url
