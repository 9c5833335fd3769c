import RecordSelection.Json.Reading
import RecordSelection.Timestamp.Relaxed

/-!
Timestamps as texts. They are written with a blank before the time, three places and a final `Z`;
they are read in the strict form with an offset first, then, without a final `Z`, in the relaxed
one.
-/

set_option autoImplicit false

namespace RecordSelection.Timestamp

open RecordSelection.Number (padded)

def withoutZ (s : List Char) : List Char :=
  match s.reverse with
  | 'Z' :: rest => rest.reverse
  | _ => s

def parse? (s : String) : Option Timestamp :=
  match readStrict? s.toList with
  | some t => some t
  | none => readRelaxed? (withoutZ s.toList)

/-- A year has four digits; one outside of 0 to 9999 has a sign as well. -/
def yearText (year : Int) : List Char :=
  if 0 ≤ year ∧ year ≤ 9999 then padded 4 year.toNat
  else (if year < 0 then '-' else '+') :: padded 4 year.natAbs

/-- The text of an instant, cut to whole milliseconds. -/
def format (t : Timestamp) : String :=
  let f := t.fields
  String.ofList (
    yearText f.year ++ '-' :: padded 2 f.month ++ '-' :: padded 2 f.day
    ++ ' ' :: padded 2 f.hour ++ ':' :: padded 2 f.minute ++ ':' :: padded 2 f.second
    ++ '.' :: padded 3 (f.nanos / 1000000) ++ ['Z'])

def reader : Json.Reader Timestamp := fun source draft => do
  let raw ← Json.Reader.text source draft
  match parse? raw with
  | some t => return t
  | none => .error (.badTimestamp raw)

def optionalReader : Json.Reader (Option Timestamp) := fun source draft => do
  match ← Json.Reader.optional Json.Reader.text source draft with
  | none => return none
  | some raw =>
    if raw = "" then return none
    else match parse? raw with
      | some t => return some t
      | none => .error (.badTimestamp raw)

def optionalFormat : Option Timestamp → String
  | some t => t.format
  | none => ""

structure Stamped where
  created : Timestamp := epoch
  published : Option Timestamp := none

open Json.Reader in
def Stamped.reader : Json.Reader Stamped :=
  record "Row"
    [field "created" .wanted Timestamp.reader fun value row => { row with created := value },
     field "published" .defaulted optionalReader fun value row => { row with published := value }]
    {}

def Stamped.toJson (s : Stamped) : Json :=
  .object [("created", .text s.created.format),
    ("published", .text (optionalFormat s.published))]

end RecordSelection.Timestamp
