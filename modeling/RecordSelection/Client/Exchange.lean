import RecordSelection.Client.Transport

/-!
What a call does: it ends, or makes a request, which may carry a request key, and goes on with the
value that comes back. A request that fails ends the call.
-/

set_option autoImplicit false

namespace RecordSelection

inductive Exchange (α : Type) where
  | done (result : Except ClientFault α)
  | get (request : Request) (key : Option String) (resume : Json → Exchange α)

namespace Exchange

variable {α β : Type}

def bind (e : Exchange α) (next : α → Exchange β) : Exchange β :=
  match e with
  | .done (.ok value) => next value
  | .done (.error fault) => .done (.error fault)
  | .get request key resume => .get request key fun value => bind (resume value) next

def map (f : α → β) (e : Exchange α) : Exchange β := e.bind fun value => .done (.ok (f value))

def withoutKeys : Exchange α → Exchange α
  | .done result => .done result
  | .get request _ resume => .get request none fun value => withoutKeys (resume value)

structure Trace (α : Type) where
  result : Except ClientFault α
  attempted : List Request

def Trace.requests (t : Trace α) : List Request := t.attempted.filter (·.isSendable)

def notSendable : String := "builder error"

/-- Runs a call to its end while nothing else happens; request number `n`, counted over all calls,
has answer number `n`. -/
def run (answer : Nat → Except ClientFault Json) : Nat → Exchange α → Trace α
  | _, .done result => ⟨result, []⟩
  | n, .get request _ resume =>
    if request.isSendable then
      match answer n with
      | .ok value =>
        let rest := run answer (n + 1) (resume value)
        ⟨rest.result, request :: rest.attempted⟩
      | .error fault => ⟨.error fault, [request]⟩
    else ⟨.error (.network notSendable), [request]⟩

end Exchange

end RecordSelection
