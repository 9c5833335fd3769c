import RecordSelection.Dictionary

/-!
The requests in flight by request key. Each registration gets a number of its own, so that a
request that ends late does not remove the entry of the one that took its place.
-/

set_option autoImplicit false

namespace RecordSelection

structure Holder where
  ticket : Nat
  request : Nat
  deriving DecidableEq, Repr

structure Registry where
  last : Nat := 0
  holders : Dictionary Holder := .empty

namespace Registry

/-- Registers a request under a key. The request that held the key before, if any, is to be
aborted. -/
def register (r : Registry) (key : String) (request : Nat) : Registry × Option Holder :=
  ({ last := r.last + 1, holders := r.holders.insert key ⟨r.last + 1, request⟩ },
    r.holders.get? key)

/-- Removes the entry of a key if it is that of the registration. -/
def release (r : Registry) (key : String) (ticket : Nat) : Registry :=
  match r.holders.get? key with
  | some holder => if holder.ticket = ticket then { r with holders := r.holders.erase key } else r
  | none => r

def isEmpty (r : Registry) : Bool := r.holders.entries.isEmpty

end Registry

end RecordSelection
