import RecordSelection.Json.Render
import RecordSelection.Selection.Walk

/-!
The parameters of a request for records. What a selection does not constrain is absent, never an
empty text. The request key is kept by the client and is not part of the request.
-/

set_option autoImplicit false

namespace RecordSelection

structure Parameters where
  fields : Option String := none
  expand : Option String := none
  sort : Option String := none
  filter : Option String := none
  requestKey : Option String := none
  deriving DecidableEq, Repr, Inhabited

namespace Parameters

def pair (name : String) : Option String → List (String × String)
  | some value => [(name, value)]
  | none => []

def pairs (p : Parameters) : List (String × String) :=
  pair "fields" p.fields ++ pair "expand" p.expand ++ pair "sort" p.sort ++ pair "filter" p.filter

def allPairs (p : Parameters) : List (String × String) :=
  p.pairs ++ pair "requestKey" p.requestKey

def isEmpty (p : Parameters) : Bool := p == {}

def toJson (p : Parameters) : Json :=
  .object (p.allPairs.map fun (name, value) => (name, .text value))

end Parameters

namespace Selection

def nonEmpty (value : Option String) : Option String := value.filter (· ≠ "")

def assemble {σ : Type} (root : Selection) (walked : Walked σ) : Parameters where
  fields := nonEmpty (if walked.hasFields then some walked.paths else none)
  expand := nonEmpty (if root.hasExpand then some (compileExpand "" root.expand) else none)
  sort := nonEmpty root.sort
  filter := nonEmpty root.filter
  requestKey := nonEmpty root.requestKey

def compile (root : Selection) : Parameters := root.assemble (walkUntyped "" root)

end Selection

end RecordSelection
