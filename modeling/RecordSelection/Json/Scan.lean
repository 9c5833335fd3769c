import RecordSelection.Json.Draft
import RecordSelection.Number.Digits

/-!
From a text to its tree. Every text has one; a text is scanned once from the left, and where it
is broken the scan records why and leaves the rest.
-/

set_option autoImplicit false

namespace RecordSelection.Json.Scan

open RecordSelection.Number (isDigit digitValue numeral)

def isSpace (c : Char) : Bool := c == ' ' || c == '\n' || c == '\t' || c == '\r'

def afterSpace (s : List Char) : List Char := s.dropWhile isSpace

def hexValue? (c : Char) : Option Nat :=
  if isDigit c then some (digitValue c)
  else if 'a' ≤ c && c ≤ 'f' then some (c.toNat - 'a'.toNat + 10)
  else if 'A' ≤ c && c ≤ 'F' then some (c.toNat - 'A'.toNat + 10)
  else none

def hexUnit? (a b c d : Char) : Option Nat := do
  return (((← hexValue? a) * 16 + (← hexValue? b)) * 16 + (← hexValue? c)) * 16 + (← hexValue? d)

def escaped? (c : Char) : Option Char :=
  if c = '"' || c = '\\' || c = '/' then some c
  else if c = 'b' then some '\x08'
  else if c = 'f' then some '\x0c'
  else if c = 'n' then some '\n'
  else if c = 'r' then some '\r'
  else if c = 't' then some '\t'
  else none

def byteCount (s : List Char) : Nat := s.foldl (fun n c => n + c.utf8Size) 0

def before (unit : TextUnit) (scanned : TextDraft × List Char) : TextDraft × List Char :=
  (⟨unit :: scanned.1.units, scanned.1.ending⟩, scanned.2)

def ended (ending : TextEnd) : TextDraft × List Char := (⟨[], ending⟩, [])

/-- A text after its opening quote. An escape of a code unit wants four bytes of digits. -/
def text : List Char → TextDraft × List Char
  | [] => ended .cut
  | c :: rest =>
    if c = '"' then (⟨[], .closed⟩, rest)
    else if c = '\\' then
      match rest with
      | [] => ended .cut
      | e :: rest =>
        if e = 'u' then
          match rest with
          | a :: b :: c :: d :: rest => match hexUnit? a b c d with
            | some unit => before (.code unit) (text rest)
            | none => ended .badHex
          | rest => ended (if byteCount rest < 4 then .cut else .badHex)
        else match escaped? e with
          | some c => before (.plain c) (text rest)
          | none => ended .badEscape
    else if c.toNat < 0x20 then ended .control
    else before (.plain c) (text rest)

/-- The largest significand kept while a number with a fraction or an exponent is read. -/
def significandMax : Nat := Nat.pow 2 64 - 1

def takeDigits (significand : Nat) : List Char → Nat × List Char
  | [] => (significand, [])
  | c :: rest =>
    let next := significand * 10 + digitValue c
    if next ≤ significandMax then takeDigits next rest else (significand, c :: rest)

def powerOfTen (n : Nat) : Number.Binary64 := .ofNat (Nat.pow 10 n)

def scaleDown (x : Number.Binary64) (n : Nat) : Number.Binary64 :=
  if h : n ≤ 308 then x.div (powerOfTen n)
  else if x.isZero then x
  else scaleDown (x.div (powerOfTen 308)) (n - 308)
termination_by n
decreasing_by omega

/-- The number closest to a significand, then scaled by a power of ten with one more rounding. -/
def decimal (negative : Bool) (significand : Nat) (exponent : Int) : NumberDraft :=
  let x := Number.Binary64.ofNat significand
  let signed (x : Number.Binary64) : NumberDraft := .ok (.decimal (if negative then x.neg else x))
  if exponent < 0 then signed (scaleDown x (-exponent).toNat)
  else if exponent ≤ 308 then
    let x := x.mul (powerOfTen exponent.toNat)
    if x.isInfinite then .error .tooLarge else signed x
  else if x.isZero then signed x
  else .error .tooLarge

/-- An integer of 64 bits is kept; a negative zero and longer ones are decimals. -/
def integer (negative : Bool) (digits : List Char) : NumberDraft :=
  let n := numeral digits
  if !negative && n ≤ significandMax then .ok (.integer n)
  else if negative && 0 < n && n ≤ Nat.pow 2 63 then .ok (.integer (-(n : Int)))
  else
    let (significand, dropped) := takeDigits 0 digits
    decimal negative significand dropped.length

def broken (rest : List Char) : NumberDraft × List Char :=
  (.error (if rest.isEmpty then .cut else .malformed), [])

def exponent (s : List Char) : Except (List Char) (Option Int × List Char) :=
  match s with
  | [] => .ok (none, [])
  | c :: rest =>
    if c = 'e' || c = 'E' then
      let (negative, rest) := match rest with
        | c :: after =>
          if c = '-' then (true, after)
          else if c = '+' then (false, after)
          else (false, rest)
        | [] => (false, rest)
      let digits := rest.takeWhile isDigit
      if digits.isEmpty then .error rest
      else
        let n : Int := numeral digits
        .ok (some (if negative then -n else n), rest.dropWhile isDigit)
    else .ok (none, s)

def number (negative : Bool) (s : List Char) : NumberDraft × List Char :=
  let whole := s.takeWhile isDigit
  let rest := s.dropWhile isDigit
  if whole.isEmpty then broken rest
  else if whole.head? = some '0' && 1 < whole.length then (.error .malformed, [])
  else
    let (significand, dropped) := takeDigits 0 whole
    let raised : Int := dropped.length
    match rest with
    | '.' :: after =>
      let fraction := after.takeWhile isDigit
      let rest := after.dropWhile isDigit
      if fraction.isEmpty then broken rest
      else
        let (significand, dropped) := takeDigits significand fraction
        let lowered : Int := fraction.length - dropped.length
        match exponent rest with
        | .error rest => broken rest
        | .ok (e, rest) => (decimal negative significand (raised - lowered + e.getD 0), rest)
    | rest => match exponent rest with
      | .error rest => broken rest
      | .ok (none, rest) => (integer negative whole, rest)
      | .ok (some e, rest) => (decimal negative significand (raised + e), rest)

def word (value : Draft) : List Char → List Char → Draft × List Char
  | [], s => (value, s)
  | _ :: _, [] => (.word true, [])
  | a :: letters, c :: s => if a = c then word value letters s else (.word false, [])

def beforeItem (item : Draft) (scanned : (List Draft × ListStop) × List Char) :
    (List Draft × ListStop) × List Char :=
  ((item :: scanned.1.1, scanned.1.2), scanned.2)

def beforeMember (key : TextDraft) (value : Draft)
    (scanned : (List (TextDraft × Draft) × ObjectStop) × List Char) :
    (List (TextDraft × Draft) × ObjectStop) × List Char :=
  (((key, value) :: scanned.1.1, scanned.1.2), scanned.2)

mutual

/-- A value, blanks before it skipped. The count bounds the steps left. -/
def value : Nat → List Char → Draft × List Char
  | 0, _ => (.cut, [])
  | steps + 1, s =>
    match afterSpace s with
    | [] => (.cut, [])
    | c :: rest =>
      if c = '"' then
        let (t, rest) := text rest
        (.text t, rest)
      else if c = '[' then
        let ((found, stop), rest) := firstItem steps rest
        (.list found stop, rest)
      else if c = '\x7b' then
        let ((found, stop), rest) := firstMember steps rest
        (.object found stop, rest)
      else if c = 'n' then word .null ['u', 'l', 'l'] rest
      else if c = 't' then word (.bool true) ['r', 'u', 'e'] rest
      else if c = 'f' then word (.bool false) ['a', 'l', 's', 'e'] rest
      else if c = '-' then
        let (n, rest) := number true rest
        (.number n, rest)
      else if isDigit c then
        let (n, rest) := number false (c :: rest)
        (.number n, rest)
      else (.junk, [])

def firstItem : Nat → List Char → (List Draft × ListStop) × List Char
  | 0, _ => (([], .cut), [])
  | steps + 1, s =>
    match afterSpace s with
    | [] => (([], .cut), [])
    | c :: rest =>
      if c = ']' then (([], .closed), rest)
      else if c = ',' then (([], .commaFirst ((afterSpace rest).head? = some ']')), [])
      else
        let (found, rest) := value steps (c :: rest)
        beforeItem found (moreItems steps rest)

def moreItems : Nat → List Char → (List Draft × ListStop) × List Char
  | 0, _ => (([], .cut), [])
  | steps + 1, s =>
    match afterSpace s with
    | [] => (([], .cut), [])
    | c :: rest =>
      if c = ']' then (([], .closed), rest)
      else if c = ',' then
        match afterSpace rest with
        | [] => (([], .cutAfterComma), [])
        | c :: rest =>
          if c = ']' then (([], .comma), [])
          else
            let (found, rest) := value steps (c :: rest)
            beforeItem found (moreItems steps rest)
      else (([], .junk), [])

def firstMember : Nat → List Char → (List (TextDraft × Draft) × ObjectStop) × List Char
  | 0, _ => (([], .cut), [])
  | steps + 1, s =>
    match afterSpace s with
    | [] => (([], .cut), [])
    | c :: rest =>
      if c = '\x7d' then (([], .closed), rest)
      else if c = '"' then
        let (key, rest) := text rest
        let (found, rest) := memberValue steps rest
        beforeMember key found (moreMembers steps rest)
      else (([], .keyless), [])

def moreMembers : Nat → List Char → (List (TextDraft × Draft) × ObjectStop) × List Char
  | 0, _ => (([], .cut), [])
  | steps + 1, s =>
    match afterSpace s with
    | [] => (([], .cut), [])
    | c :: rest =>
      if c = '\x7d' then (([], .closed), rest)
      else if c = ',' then
        match afterSpace rest with
        | [] => (([], .cutAfterComma), [])
        | c :: rest =>
          if c = '\x7d' then (([], .comma), [])
          else if c = '"' then
            let (key, rest) := text rest
            let (found, rest) := memberValue steps rest
            beforeMember key found (moreMembers steps rest)
          else (([], .keyless), [])
      else (([], .junk), [])

def memberValue : Nat → List Char → Draft × List Char
  | 0, _ => (.cut, [])
  | steps + 1, s =>
    match afterSpace s with
    | [] => (.noColon true, [])
    | c :: rest => if c = ':' then value steps rest else (.noColon false, [])

end

def document (s : String) : Document :=
  let (body, rest) := value (4 * s.length + 4) s.toList
  ⟨body, !(afterSpace rest).isEmpty⟩

end RecordSelection.Json.Scan
