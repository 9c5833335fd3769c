import RecordSelection.Client.Fault
import RecordSelection.Client.Page
import RecordSelection.Shape.Derive

/-!
A query: a selection whose root may still be adjusted, and the page wanted.
-/

set_option autoImplicit false

namespace RecordSelection

structure Query where
  selection : Selection
  page : Page := {}

inductive Query.Setting where
  | sort (value : String)
  | filter (value : String)
  | requestKey (value : String)
  | page (number : Nat)
  | perPage (count : Nat)
  | skipTotal (value : Bool)
  deriving DecidableEq, Repr

namespace Query

def apply (q : Query) : Setting → Query
  | .sort value => { q with selection := { q.selection with sort := some value } }
  | .filter value => { q with selection := { q.selection with filter := some value } }
  | .requestKey value => { q with selection := { q.selection with requestKey := some value } }
  | .page number => { q with page := { q.page with page := number } }
  | .perPage count => { q with page := { q.page with perPage := count } }
  | .skipTotal value => { q with page := { q.page with skipTotal := value } }

def applyAll (q : Query) (settings : List Setting) : Query := settings.foldl apply q

def parameters (q : Query) : Parameters := q.selection.compile

def validate (q : Query) (schema : Schema) : Except ClientFault Compiled :=
  (schema.compile q.selection).mapError ClientFault.schema

end Query

end RecordSelection
