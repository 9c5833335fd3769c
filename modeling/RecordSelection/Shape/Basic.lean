import RecordSelection.Json.Render
import RecordSelection.Schema.Basic
import RecordSelection.Selection.Basic

/-!
The shape of the records that a selection returns: the fields at each level with their kinds,
and for each relation expanded whether one record or a list of records comes back.
-/

set_option autoImplicit false

namespace RecordSelection

structure ShapeField where
  name : String
  kind : FieldKind
  deriving DecidableEq, Repr, Inhabited

structure Expanded (α : Type) where
  key : String
  cardinality : Cardinality
  shape : α
  deriving Repr, Inhabited

structure Shape where
  entity : String
  projected : Bool
  fields : List ShapeField
  expand : List (Expanded Shape)
  deriving Repr, Inhabited

namespace Shape

def field? (s : Shape) (name : String) : Option FieldKind :=
  (s.fields.find? (·.name == name)).map (·.kind)

def expanded? (s : Shape) (key : String) : Option (Expanded Shape) :=
  s.expand.find? (·.key == key)

mutual

/-- The selection that a shape records: the names listed where it is a projection, and the
relations expanded. -/
def selectionFrom (key : String) : Shape → Selection
  | ⟨_, projected, fields, expand⟩ =>
    { key
      fields := if projected then some (fields.map (·.name)) else none
      expand := selections expand }

def selections : List (Expanded Shape) → List Selection
  | [] => []
  | ⟨key, _, shape⟩ :: rest => selectionFrom key shape :: selections rest

end

def selection (s : Shape) : Selection := s.selectionFrom s.entity

def fieldToJson (f : ShapeField) : Json :=
  .object [("name", .text f.name), ("kind", .text f.kind.name)]

mutual

def toJson : Shape → Json
  | ⟨entity, projected, fields, expand⟩ =>
    .object (
      [("entity", .text entity), ("projected", .bool projected),
       ("fields", .list (fields.map fieldToJson))]
      ++ (match expand with
        | [] => []
        | first :: rest => [("expand", .list (expandedToJson (first :: rest)))]))

def expandedToJson : List (Expanded Shape) → List Json
  | [] => []
  | ⟨key, cardinality, shape⟩ :: rest =>
    .object [("key", .text key), ("cardinality", .text cardinality.name), ("shape", toJson shape)]
      :: expandedToJson rest

end

end Shape

end RecordSelection
