import RecordSelection.Json.Reading
import RecordSelection.Json.Render

/-!
Pages of records: the page asked for, and the page that comes back with its totals. A server that
did not count gives negative totals; then a full page is taken to have a successor.
-/

set_option autoImplicit false

namespace RecordSelection

structure Page where
  page : Nat := 1
  perPage : Nat := 30
  skipTotal : Bool := false
  deriving DecidableEq, Repr, Inhabited

def Page.pairs (p : Page) : List (String × String) :=
  [("page", toString p.page), ("perPage", toString p.perPage)]
    ++ (if p.skipTotal then [("skipTotal", "1")] else [])

structure RecordPage (α : Type) where
  page : Nat := 0
  perPage : Nat := 0
  totalItems : Int := 0
  totalPages : Int := 0
  items : List α := []
  deriving Repr, Inhabited

namespace RecordPage

variable {α : Type}

/-- Whether another page follows. The items are counted in 32 bits. -/
def hasNext (p : RecordPage α) : Bool :=
  if 0 ≤ p.totalPages then p.page < p.totalPages
  else 0 < p.perPage && p.perPage ≤ p.items.length % Nat.pow 2 32

open Json.Reader in
def reader (item : Json.Reader α) : Json.Reader (RecordPage α) :=
  record "ListResult"
    [field "page" .defaulted word32 fun value p => { p with page := value },
     field "perPage" .defaulted word32 fun value p => { p with perPage := value },
     field "totalItems" .defaulted integer64 fun value p => { p with totalItems := value },
     field "totalPages" .defaulted integer64 fun value p => { p with totalPages := value },
     field "items" .defaulted (list item) fun value p => { p with items := value }]
    {}

def toJson (write : α → Json) (p : RecordPage α) : Json :=
  .object [("page", .nat p.page), ("perPage", .nat p.perPage), ("totalItems", .int p.totalItems),
    ("totalPages", .int p.totalPages), ("items", .list (p.items.map write))]

end RecordPage

end RecordSelection
