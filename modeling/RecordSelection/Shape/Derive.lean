import RecordSelection.Schema.Document
import RecordSelection.Selection.Parameters
import RecordSelection.Shape.Render

/-!
Checking a selection against a schema. The walk that writes the field paths also resolves each
relation and builds the shape, so that both follow the same relations.
-/

set_option autoImplicit false

namespace RecordSelection

structure Target where
  entity : String
  fields : Entity
  cardinality : Cardinality

/-- The parameters of a checked selection and the shape of what comes back. -/
structure Compiled where
  parameters : Parameters
  shape : Shape

def Compiled.toJson (c : Compiled) : Json :=
  .object [("params", c.parameters.toJson), ("shape", c.shape.toJson)]

namespace Schema

def target (s : Schema) (entity : String) (cardinality : Cardinality) :
    Except SchemaFault Target :=
  match s.entity? entity with
  | some fields => .ok ⟨entity, fields, cardinality⟩
  | none => .error (.unknownEntity entity)

def resolveChild (s : Schema) (parent : Target) (key : String) : Except SchemaFault Target := do
  let relation ← s.relations.resolve parent.entity parent.fields key
  s.target relation.target relation.cardinality

def listedFields (context : Target) (seen : List String) :
    List String → Except SchemaFault (List ShapeField)
  | [] => .ok []
  | name :: rest =>
    if seen.contains name then .error (.repeatedField context.entity name)
    else match context.fields.get? name with
      | none => .error (.unknownField context.entity name)
      | some kind => do
        return ⟨name, kind⟩ :: (← listedFields context (name :: seen) rest)

def expansions (context : Target) (seen : List String) :
    List (String × Target × Shape) → Except SchemaFault (List (Expanded Shape))
  | [] => .ok []
  | (key, target, shape) :: rest =>
    if seen.contains key then .error (.repeatedRelation context.entity key)
    else do
      return ⟨key, target.cardinality, shape⟩ :: (← expansions context (key :: seen) rest)

def nodeShape (context : Target) (node : Selection)
    (children : List (String × Target × Shape)) : Except SchemaFault Shape := do
  let fields ← match node.fields with
    | some names => listedFields context [] names
    | none => pure (context.fields.entries.map fun (name, kind) => ⟨name, kind⟩)
  let expand ← expansions context [] children
  return ⟨context.entity, node.fields.isSome, fields, expand⟩

def channel (s : Schema) : Channel Target Shape SchemaFault where
  resolve := s.resolveChild
  shape := nodeShape

def compile (s : Schema) (root : Selection) : Except SchemaFault Compiled := do
  let context ← s.target root.key .one
  let walked ← Selection.walk s.channel "" context root
  return ⟨root.assemble walked, walked.shape⟩

end Schema

end RecordSelection
