import RecordSelection.Dictionary
import RecordSelection.Number.Shortest

/-!
JSON values. An object keeps its members in the order given; an object read from a text without
a type of its own has them sorted by key, each key once.
-/

set_option autoImplicit false

namespace RecordSelection

/-- A JSON number: an integer of at most 64 bits, or a binary64 number. -/
inductive Json.Number where
  | integer (value : Int)
  | decimal (value : Number.Binary64)
  deriving DecidableEq, Repr, Inhabited

inductive Json where
  | null
  | bool (value : Bool)
  | number (value : Json.Number)
  | text (value : String)
  | list (items : List Json)
  | object (members : List (String × Json))
  deriving BEq, Repr, Inhabited

namespace Json

def nat (n : Nat) : Json := .number (.integer n)

def int (n : Int) : Json := .number (.integer n)

/-- Members sorted by key; of equal keys the last is kept. -/
def sortMembers (members : List (String × Json)) : List (String × Json) :=
  members.foldl (fun sorted member => Dictionary.put member.1 member.2 sorted) []

def member? (key : String) : Json → Option Json
  | .object members => (members.find? (·.1 == key)).map (·.2)
  | _ => none

def optional {α : Type} (key : String) (write : α → Json) : Option α → List (String × Json)
  | some value => [(key, write value)]
  | none => []

def texts (items : List String) : Json := .list (items.map .text)

def nesting : Json → Nat
  | .list items => 1 + deepest items
  | .object members => 1 + deepestMember members
  | _ => 0
where
  deepest : List Json → Nat
    | [] => 0
    | item :: rest => max (nesting item) (deepest rest)
  deepestMember : List (String × Json) → Nat
    | [] => 0
    | (_, value) :: rest => max (nesting value) (deepestMember rest)

end Json

end RecordSelection
