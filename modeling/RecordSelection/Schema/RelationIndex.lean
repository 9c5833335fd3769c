import RecordSelection.Schema.Basic
import RecordSelection.Schema.Fault

/-!
The relations of a schema, resolved once: each with its direction, and for each entity the keys
of the relations that leave it and of those that lead to it.
-/

set_option autoImplicit false

namespace RecordSelection

abbrev KeySets := Dictionary (Dictionary Unit)

namespace KeySets

def add (sets : KeySets) (entity key : String) : KeySets :=
  sets.update entity fun keys => (keys.getD .empty).insert key ()

def keysOf (sets : KeySets) (entity : String) : List String :=
  match sets.get? entity with
  | some keys => keys.keys
  | none => []

end KeySets

structure RelationIndex where
  relations : Dictionary Relation := .empty
  leaving : KeySets := .empty
  reaching : KeySets := .empty

namespace RelationIndex

/-- The direction of a declared relation. A key `name(via)` leads back only if `via` is declared. -/
def directionOf (declared : Dictionary RelationDeclaration) (key : String) : Direction :=
  match splitBack? key with
  | some (_, via) => match declared.get? via with
    | some other => .back via other.target
    | none => .forward
  | none => .forward

def addRelation (entities : Dictionary Entity) (declared : Dictionary RelationDeclaration)
    (index : RelationIndex) (key : String) (d : RelationDeclaration) :
    Except SchemaFault RelationIndex :=
  if entities.contains d.target then
    let direction := directionOf declared key
    .ok {
      relations := index.relations.insert key ⟨key, d.target, d.cardinality, direction⟩
      leaving := match direction with
        | .back _ source => index.leaving.add source key
        | .forward => index.leaving
      reaching := index.reaching.add d.target key }
  else .error (.unknownTarget key d.target)

def addRelations (entities : Dictionary Entity) (declared : Dictionary RelationDeclaration) :
    List (String × RelationDeclaration) → RelationIndex → Except SchemaFault RelationIndex
  | [], index => .ok index
  | (key, d) :: rest, index => do
    addRelations entities declared rest (← addRelation entities declared index key d)

def addFields (index : RelationIndex) (entity : String) (fields : Entity) : RelationIndex :=
  { index with
    leaving := fields.keys.foldl
      (fun sets field => if index.relations.contains field then sets.add entity field else sets)
      index.leaving }

def build (entities : Dictionary Entity) (declared : Dictionary RelationDeclaration) :
    Except SchemaFault RelationIndex := do
  let index ← addRelations entities declared declared.entries {}
  return entities.entries.foldl (fun index entry => index.addFields entry.1 entry.2) index

def get? (index : RelationIndex) (key : String) : Option Relation := index.relations.get? key

def outgoing (index : RelationIndex) (entity : String) : List String :=
  index.leaving.keysOf entity

def incoming (index : RelationIndex) (entity : String) : List String :=
  index.reaching.keysOf entity

/-- The relation a key stands for at an entity with the given fields. It must be reached in
exactly one of the two ways. -/
def resolve (index : RelationIndex) (entity : String) (fields : Entity) (key : String) :
    Except SchemaFault Relation :=
  match index.get? key with
  | none => .error (.noRelation entity key (index.outgoing entity))
  | some relation =>
    match fields.contains key, relation.isBackFrom entity with
    | true, true => .error (.ambiguousRelation entity key)
    | false, false => .error (.noRelation entity key (index.outgoing entity))
    | _, _ => .ok relation

end RelationIndex

end RecordSelection
