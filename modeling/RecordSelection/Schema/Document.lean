import RecordSelection.Json.Reading
import RecordSelection.Schema.RelationIndex

/-!
Schemas, and their reading from JSON: the entities with the kinds of their fields, and the
relations with their targets.
-/

set_option autoImplicit false

namespace RecordSelection

structure Schema where
  entities : Dictionary Entity
  relations : RelationIndex

namespace Schema

def ofDeclarations (entities : Dictionary Entity) (declared : Dictionary RelationDeclaration) :
    Except SchemaFault Schema := do
  return ⟨entities, ← RelationIndex.build entities declared⟩

def entity? (s : Schema) (name : String) : Option Entity := s.entities.get? name

open Json Json.Reader

def kindReader : Reader FieldKind := variant (FieldKind.all.map fun kind => (kind.name, kind))

def entityReader : Reader Entity := (entries kindReader).map Dictionary.ofList

def entityToJson (e : Entity) : Json :=
  .object (e.entries.map fun (name, kind) => (name, .text kind.name))

def relationReader : Reader RelationDeclaration :=
  record "RelationDef"
    [field "target" .wanted Reader.text fun value d => { d with target := value },
     field "many" .defaulted Reader.bool fun value d => { d with many := value }]
    { target := "" }

structure Parts where
  entities : Dictionary Entity := .empty
  relations : Dictionary RelationDeclaration := .empty

def partsReader : Reader Parts :=
  record "SchemaDocument"
    [field "entities" .wanted ((entries entityReader).map Dictionary.ofList)
      fun value parts => { parts with entities := value },
     field "relations" .defaulted ((entries relationReader).map Dictionary.ofList)
      fun value parts => { parts with relations := value }]
    {}

def read (s : String) : Except SchemaFault Schema :=
  match Json.read partsReader s with
  | .error fault => .error (.unreadable fault.message)
  | .ok parts => ofDeclarations parts.entities parts.relations

end Schema

end RecordSelection
