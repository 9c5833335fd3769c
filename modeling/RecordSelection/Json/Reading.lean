import RecordSelection.Json.Scan

/-!
Readers of typed values. A reader walks the tree of a text, or a value already read, and gives
the first fault in the order of the text. A record is written as an object, in any order of its
fields and with unknown ones passed over, or as a list of its fields in their own order.
-/

set_option autoImplicit false

namespace RecordSelection.Json

/-- Where a reader stands: in a text, with the number of containers it may still enter, or in
a value already read. -/
inductive Source where
  | text (levels : Nat)
  | parsed
  deriving DecidableEq, Repr

def maxNesting : Nat := 127

def Source.enter : Source → Except Fault Source
  | .text 0 => .error .tooDeep
  | .text (levels + 1) => .ok (.text levels)
  | .parsed => .ok .parsed

abbrev Reader (α : Type) := Source → Draft → Except Fault α

namespace Reader

variable {α β σ : Type}

def mismatch (wanted : String) : Reader α := fun _ draft => do
  .error (.wrongType (← draft.found) wanted)

def map (f : α → β) (reader : Reader α) : Reader β := fun source draft => f <$> reader source draft

def text : Reader String := fun source draft =>
  match draft with
  | .text t => t.read
  | draft => mismatch "a string" source draft

def bool : Reader Bool := fun source draft =>
  match draft with
  | .bool b => .ok b
  | draft => mismatch "a boolean" source draft

def integer (low high : Int) (wanted : String) : Reader Int := fun source draft =>
  match draft with
  | .number (.ok (.integer n)) =>
    if low ≤ n && n ≤ high then .ok n else .error (.outOfRange n wanted)
  | draft => mismatch wanted source draft

def natural (high : Nat) (wanted : String) : Reader Nat := (integer 0 high wanted).map Int.toNat

def word16 : Reader Nat := natural 65535 "u16"

def word32 : Reader Nat := natural 4294967295 "u32"

def integer64 : Reader Int := integer (-9223372036854775808) 9223372036854775807 "i64"

def optional (reader : Reader α) : Reader (Option α) := fun source draft =>
  match draft with
  | .null => .ok none
  | draft => some <$> reader source draft

def items (reader : Reader α) (source : Source) : List Draft → Except Fault (List α)
  | [] => .ok []
  | item :: rest => do
    let value ← reader source item
    let values ← items reader source rest
    return value :: values

def list (reader : Reader α) : Reader (List α) := fun source draft =>
  match draft with
  | .list found stop => do
    let inner ← source.enter
    let values ← items reader inner found
    stop.read
    return values
  | draft => mismatch "a sequence" source draft

def members (reader : Reader α) (source : Source) :
    List (TextDraft × Draft) → Except Fault (List (String × α))
  | [] => .ok []
  | (key, draft) :: rest => do
    let name ← key.read
    let value ← reader source draft
    let values ← members reader source rest
    return (name, value) :: values

def entries (reader : Reader α) : Reader (List (String × α)) := fun source draft =>
  match draft with
  | .object found stop => do
    let inner ← source.enter
    let values ← members reader inner found
    stop.read
    return values
  | draft => mismatch "a map" source draft

/-- One of some names: a text, or an object with the name as its one key and null as value. -/
def variant (known : List (String × α)) : Reader α := fun source draft =>
  let choose (name : String) : Except Fault α :=
    match known.find? (·.1 == name) with
    | some (_, value) => .ok value
    | none => .error (.unknownVariant name (known.map (·.1)))
  match draft with
  | .text t => t.read >>= choose
  | .object found stop => do
    let inner ← source.enter
    match found with
    | [] => match stop with
      | .cut => .error (.unfinished .object)
      | .keyless => .error .keyNotText
      | _ => .error .noValue
    | (key, content) :: rest =>
      let value ← key.read >>= choose
      match content with
      | .null => pure ()
      | other => mismatch "unit" inner other
      if rest.isEmpty then stop.last else .error .noValue
      return value
  | .cut => .error (.unfinished .value)
  | .noColon atEnd => .error (Draft.colonFault atEnd)
  | _ => .error .noValue

mutual

/-- Any value; the members of an object come out sorted, the last of equal keys kept. -/
def any (source : Source) : Draft → Except Fault Json
  | .null => .ok .null
  | .bool b => .ok (.bool b)
  | .number n => .number <$> n.read
  | .text t => .text <$> t.read
  | .list found stop => do
    let inner ← source.enter
    let values ← anyItems inner found
    stop.read
    return .list values
  | .object found stop => do
    let inner ← source.enter
    let values ← anyMembers inner found
    stop.read
    return .object (sortMembers values)
  | .cut => .error (.unfinished .value)
  | .word atEnd => .error (Draft.wordFault atEnd)
  | .junk => .error .noValue
  | .noColon atEnd => .error (Draft.colonFault atEnd)

def anyItems (source : Source) : List Draft → Except Fault (List Json)
  | [] => .ok []
  | item :: rest => do
    let value ← any source item
    let values ← anyItems source rest
    return value :: values

def anyMembers (source : Source) : List (TextDraft × Draft) → Except Fault (List (String × Json))
  | [] => .ok []
  | (key, draft) :: rest => do
    let name ← key.read
    let value ← any source draft
    let values ← anyMembers source rest
    return (name, value) :: values

end

/-- What happens when a field of a record is left out: it is wanted; it may be missing from an
object; it may be missing from a list as well. -/
inductive Absence where
  | wanted
  | optional
  | defaulted
  deriving DecidableEq, Repr

structure Member (σ : Type) where
  name : String
  absence : Absence
  store : Source → Draft → σ → Except Fault σ

def field (name : String) (absence : Absence) (reader : Reader α) (put : α → σ → σ) : Member σ :=
  ⟨name, absence, fun source draft record => do return put (← reader source draft) record⟩

def elements (n : Nat) : String :=
  " with " ++ toString n ++ (if n = 1 then " element" else " elements")

def positional (title : String) (total length : Nat) (source : Source) (stop : ListStop) :
    Nat → List (Member σ) → List Draft → σ → Except Fault σ
  | _, [], [], record => do
    match source with
    | .text _ => stop.last
    | .parsed => pure ()
    return record
  | _, [], _ :: _, _ => match source with
    | .text _ => .error .trailingText
    | .parsed => .error (.wrongLength length "fewer elements in array")
  | index, field :: fields, [], record => do
    stop.read
    if field.absence = .defaulted then
      positional title total length source stop (index + 1) fields [] record
    else .error (.wrongLength index (title ++ elements total))
  | index, field :: fields, item :: items, record => do
    let record ← field.store source item record
    positional title total length source stop (index + 1) fields items record

def named (fields : List (Member σ)) (source : Source) :
    List String → List (TextDraft × Draft) → σ → Except Fault (List String × σ)
  | seen, [], record => .ok (seen, record)
  | seen, (key, draft) :: rest, record => do
    let name ← key.read
    match fields.find? (·.name == name) with
    | none =>
      draft.skip
      named fields source seen rest record
    | some field =>
      if seen.contains name then .error (.repeatedField name)
      else
        let record ← field.store source draft record
        named fields source (name :: seen) rest record

/-- A record: the fields that are written go into `initial`, in the order written. -/
def record (name : String) (fields : List (Member σ)) (initial : σ) : Reader σ :=
  fun source draft =>
    let title := "struct " ++ name
    match draft with
    | .list found stop => do
      let inner ← source.enter
      positional title fields.length found.length inner stop 0 fields found initial
    | .object found stop => do
      let inner ← source.enter
      let (seen, value) ← named fields inner [] found initial
      stop.read
      match fields.find? (fun field => field.absence = .wanted && !seen.contains field.name) with
      | some field => .error (.missingField field.name)
      | none => return value
    | draft => mismatch title source draft

end Reader

def read {α : Type} (reader : Reader α) (s : String) : Except Fault α := do
  let document := Scan.document s
  let value ← reader (.text maxNesting) document.body
  if document.trailing then .error .trailingText else return value

def convert {α : Type} (reader : Reader α) (value : Json) : Except Fault α :=
  reader .parsed (Draft.ofJson value)

end RecordSelection.Json
