import RecordSelection.Timestamp.Written

/-!
How the records of a type are read from JSON and written back. A record is written with all of its
fields in their own order.
-/

set_option autoImplicit false

namespace RecordSelection

open Json (Reader)
open Json.Reader (Absence Member)

/-- The form of a value. A `whole` record is an object of any members. -/
inductive Format where
  | any
  | text
  | integer
  | timestamp
  | optional (inner : Format)
  | many (inner : Format)
  | record (name : String) (fields : List (String × Absence × Format))
  | whole (name : String)

namespace Format

def absent : Format → Json
  | .many _ => .list []
  | _ => .null

def written (values : List (String × Json)) (field : String × Absence × Format) : String × Json :=
  match values.find? (·.1 == field.1) with
  | some (_, value) => (field.1, value)
  | none => (field.1, absent field.2.2)

mutual

def reader : Format → Reader Json
  | .any => Json.Reader.any
  | .text => Json.Reader.text.map .text
  | .integer => Json.Reader.integer64.map .int
  | .timestamp => Timestamp.reader.map fun t => .text t.format
  | .optional inner => (Json.Reader.optional (reader inner)).map (·.getD .null)
  | .many inner => (Json.Reader.list (reader inner)).map .list
  | .record name fields =>
    (Json.Reader.record name (readers fields) []).map fun values =>
      .object (fields.map (written values))
  | .whole name => fun source draft =>
    match draft with
    | .object _ _ => Json.Reader.any source draft
    | draft => Json.Reader.mismatch ("struct " ++ name) source draft

def readers : List (String × Absence × Format) → List (Member (List (String × Json)))
  | [] => []
  | (name, absence, inner) :: rest =>
    Json.Reader.field name absence (reader inner) (fun value values => (name, value) :: values)
      :: readers rest

end

end Format

end RecordSelection
