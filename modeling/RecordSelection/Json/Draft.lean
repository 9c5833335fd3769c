import RecordSelection.Json.Fault

/-!
The tree of a JSON text that may be broken. What is malformed stands in the tree at its place,
so that a reader that walks the tree in order meets the faults of form and of type in the order
of the text. Reading and passing over a value meet faults of form differently: `read` and `skip`
give both for each part.
-/

set_option autoImplicit false

namespace RecordSelection.Json

/-- One character of a text, or the 16-bit unit of a `\u` escape. -/
inductive TextUnit where
  | plain (c : Char)
  | code (value : Nat)
  deriving DecidableEq, Repr

inductive TextEnd where
  | closed
  | cut
  | badEscape
  | badHex
  | control
  deriving DecidableEq, Repr

structure TextDraft where
  units : List TextUnit
  ending : TextEnd
  deriving DecidableEq, Repr

inductive NumberFault where
  | cut
  | malformed
  | tooLarge
  deriving DecidableEq, Repr

abbrev NumberDraft := Except NumberFault Number

inductive ListStop where
  | closed
  | cut
  | junk
  | comma
  | cutAfterComma
  | commaFirst (closing : Bool)
  deriving DecidableEq, Repr

/-- How the members of an object end; `keyless`: by something else where a key should stand. -/
inductive ObjectStop where
  | closed
  | cut
  | junk
  | comma
  | cutAfterComma
  | keyless
  deriving DecidableEq, Repr

inductive Draft where
  | null
  | bool (value : Bool)
  | number (value : NumberDraft)
  | text (value : TextDraft)
  | list (items : List Draft) (stop : ListStop)
  | object (members : List (TextDraft × Draft)) (stop : ObjectStop)
  | cut
  | word (atEnd : Bool)
  | junk
  | noColon (atEnd : Bool)

structure Document where
  body : Draft
  trailing : Bool

namespace TextDraft

def isLeading (unit : Nat) : Bool := 0xd800 ≤ unit && unit ≤ 0xdbff

def isTrailing (unit : Nat) : Bool := 0xdc00 ≤ unit && unit ≤ 0xdfff

def joined (leading trailing : Nat) : Char :=
  Char.ofNat ((leading - 0xd800) * 0x400 + (trailing - 0xdc00) + 0x10000)

/-- Units of a pair stand for one character; a unit of a pair cannot stand alone. -/
def assemble (ending : TextEnd) : List TextUnit → Except Fault (List Char)
  | [] => match ending with
    | .closed => .ok []
    | .cut => .error (.unfinished .text)
    | .badEscape | .badHex => .error .badEscape
    | .control => .error .controlInText
  | .plain c :: rest => (c :: ·) <$> assemble ending rest
  | .code n :: rest =>
    if isTrailing n then .error .loneSurrogate
    else if isLeading n then
      match rest with
      | .code low :: rest =>
        if isTrailing low then (joined n low :: ·) <$> assemble ending rest
        else .error .loneSurrogate
      | .plain _ :: _ => .error .halfPair
      | [] => match ending with
        | .cut => .error (.unfinished .text)
        | .badHex => .error .badEscape
        | _ => .error .halfPair
    else (Char.ofNat n :: ·) <$> assemble ending rest

def read (t : TextDraft) : Except Fault String :=
  String.ofList <$> assemble t.ending t.units

def skip (t : TextDraft) : Except Fault Unit :=
  match t.ending with
  | .closed => .ok ()
  | .cut => .error (.unfinished .text)
  | .badEscape | .badHex => .error .badEscape
  | .control => .error .controlInText

end TextDraft

def NumberFault.fault : NumberFault → Fault
  | .cut => .unfinished .value
  | .malformed => .badNumber
  | .tooLarge => .numberTooLarge

namespace NumberDraft

def read (n : NumberDraft) : Except Fault Number := n.mapError NumberFault.fault

def skip : NumberDraft → Except Fault Unit
  | .ok _ | .error .tooLarge => .ok ()
  | .error _ => .error .badNumber

end NumberDraft

namespace ListStop

def read : ListStop → Except Fault Unit
  | .closed => .ok ()
  | .cut => .error (.unfinished .list)
  | .junk => .error .noListComma
  | .comma => .error .trailingComma
  | .cutAfterComma => .error (.unfinished .value)
  | .commaFirst _ => .error .noValue

def skip : ListStop → Except Fault Unit
  | .closed => .ok ()
  | .cut => .error (.unfinished .list)
  | .junk => .error .noListComma
  | .comma => .error .noValue
  | .cutAfterComma => .error (.unfinished .value)
  | .commaFirst _ => .error .noValue

def last : ListStop → Except Fault Unit
  | .closed => .ok ()
  | .cut => .error (.unfinished .list)
  | .comma | .commaFirst true => .error .trailingComma
  | .junk | .cutAfterComma | .commaFirst false => .error .trailingText

end ListStop

namespace ObjectStop

def read : ObjectStop → Except Fault Unit
  | .closed => .ok ()
  | .cut => .error (.unfinished .object)
  | .junk => .error .noObjectComma
  | .comma => .error .trailingComma
  | .cutAfterComma => .error (.unfinished .value)
  | .keyless => .error .keyNotText

def skip : ObjectStop → Except Fault Unit
  | .closed => .ok ()
  | .cut | .cutAfterComma => .error (.unfinished .object)
  | .junk => .error .noObjectComma
  | .comma | .keyless => .error .keyNotText

def last : ObjectStop → Except Fault Unit
  | .closed => .ok ()
  | .cut => .error (.unfinished .object)
  | _ => .error .noValue

end ObjectStop

namespace Draft

def wordFault (atEnd : Bool) : Fault := if atEnd then .unfinished .value else .noWord

def colonFault (atEnd : Bool) : Fault := if atEnd then .unfinished .object else .noColon

def found : Draft → Except Fault Found
  | .null => .ok .null
  | .bool b => .ok (.bool b)
  | .number n => .number <$> n.read
  | .text t => .text <$> t.read
  | .list _ _ => .ok .sequence
  | .object _ _ => .ok .map
  | .cut => .error (.unfinished .value)
  | .word atEnd => .error (wordFault atEnd)
  | .junk => .error .noValue
  | .noColon atEnd => .error (colonFault atEnd)

/-- Passes over a value: its form is checked, its depth and the size of its numbers are not. -/
def skip : Draft → Except Fault Unit
  | .null | .bool _ => .ok ()
  | .number n => n.skip
  | .text t => t.skip
  | .list items stop => do skipItems items; stop.skip
  | .object members stop => do skipMembers members; stop.skip
  | .cut => .error (.unfinished .value)
  | .word atEnd => .error (wordFault atEnd)
  | .junk => .error .noValue
  | .noColon atEnd => .error (colonFault atEnd)
where
  skipItems : List Draft → Except Fault Unit
    | [] => .ok ()
    | item :: rest => do skip item; skipItems rest
  skipMembers : List (TextDraft × Draft) → Except Fault Unit
    | [] => .ok ()
    | (key, value) :: rest => do key.skip; skip value; skipMembers rest

def ofJson : Json → Draft
  | .null => .null
  | .bool b => .bool b
  | .number n => .number (.ok n)
  | .text s => .text ⟨s.toList.map .plain, .closed⟩
  | .list items => .list (ofItems items) .closed
  | .object members => .object (ofMembers members) .closed
where
  ofItems : List Json → List Draft
    | [] => []
    | item :: rest => ofJson item :: ofItems rest
  ofMembers : List (String × Json) → List (TextDraft × Draft)
    | [] => []
    | (key, value) :: rest => (⟨key.toList.map .plain, .closed⟩, ofJson value) :: ofMembers rest

end Draft

end RecordSelection.Json
