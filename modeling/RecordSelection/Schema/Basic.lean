import RecordSelection.Dictionary

/-!
Entities, their fields and the relations between them. A relation is usable from an entity that
has a field of its name, or, when its name has the form `name(via)` and `via` is a relation, from
the entity that `via` leads to.
-/

set_option autoImplicit false

namespace RecordSelection

inductive FieldKind where
  | text
  | number
  | bool
  | email
  | url
  | date
  | autodate
  | select
  | json
  | file
  | editor
  | relation
  deriving DecidableEq, Repr, Inhabited

namespace FieldKind

def name : FieldKind → String
  | text => "text"
  | number => "number"
  | bool => "bool"
  | email => "email"
  | url => "url"
  | date => "date"
  | autodate => "autodate"
  | select => "select"
  | json => "json"
  | file => "file"
  | editor => "editor"
  | relation => "relation"

def all : List FieldKind :=
  [text, number, bool, email, url, date, autodate, select, json, file, editor, relation]

end FieldKind

inductive Cardinality where
  | one
  | many
  deriving DecidableEq, Repr, Inhabited

def Cardinality.name : Cardinality → String
  | one => "one"
  | many => "many"

abbrev Entity := Dictionary FieldKind

structure RelationDeclaration where
  target : String
  many : Bool := false
  deriving DecidableEq, Repr, Inhabited

def RelationDeclaration.cardinality (d : RelationDeclaration) : Cardinality :=
  if d.many then .many else .one

/-- How a relation is reached: by a field of its name, or back through the relation `via` from
the entity `source` that `via` leads to. -/
inductive Direction where
  | forward
  | back (via source : String)
  deriving DecidableEq, Repr, Inhabited

structure Relation where
  key : String
  target : String
  cardinality : Cardinality
  direction : Direction
  deriving DecidableEq, Repr, Inhabited

def Relation.isBackFrom (r : Relation) (entity : String) : Bool :=
  match r.direction with
  | .forward => false
  | .back _ source => source == entity

/-- The parts of a key of the form `name(via)`: what stands before the first opening
parenthesis, and what stands between it and a closing one at the end, if that is not empty. -/
def splitBack? (key : String) : Option (String × String) :=
  match key.toList.reverse with
  | ')' :: reversed =>
    let inner := reversed.reverse
    match inner.dropWhile (· ≠ '(') with
    | _ :: via =>
      if via.isEmpty then none
      else some (String.ofList (inner.takeWhile (· ≠ '(')), String.ofList via)
    | [] => none
  | _ => none

end RecordSelection
