import RecordSelection.Client.Exchange
import RecordSelection.Client.Traffic

/-!
Calls on one client that are in flight at the same time. Each call runs as far as it can; one whose
response does not come waits until a newer request with its key takes its place, or its caller goes
away.
-/

set_option autoImplicit false

namespace RecordSelection

/-- What a server does with a request: it answers, or never does. -/
inductive Reply where
  | response (value : Response)
  | held
  deriving Repr

abbrev Script := List Reply

def Script.reply (script : Script) (n : Nat) : Reply := script.getD n (.response .exhausted)

def Script.answer (script : Script) (n : Nat) : Except ClientFault Json :=
  match script.reply n with
  | .response value => value.outcome
  | .held => Response.exhausted.outcome

variable {α : Type}

structure Waiting where
  call : Nat
  key : Option String
  request : Nat
  deriving Repr

structure Ended (α : Type) where
  call : Nat
  result : Except ClientFault α

structure Overlap where
  traffic : Traffic := {}
  sent : Nat := 0
  started : Nat := 0
  waiting : List Waiting := []

namespace Overlap

structure Report (α : Type) where
  ended : List (Ended α)
  requests : List Request

/-- The waiting calls whose requests were aborted end as cancelled. -/
def settle (o : Overlap) : Overlap × List (Ended α) :=
  let aborted (w : Waiting) : Bool := o.traffic.isAborted w.request
  let cancelled := o.waiting.filter aborted
  ({ o with
      traffic := o.traffic.advanceAll (cancelled.map fun w => .resume w.request)
      waiting := o.waiting.filter (!aborted ·) },
    cancelled.map fun w => ⟨w.call, .error (.cancelled (w.key.getD ""))⟩)

def begin (o : Overlap) (key : Option String) : Overlap :=
  let n := o.traffic.next
  { o with traffic := o.traffic.advanceAll [.spawn key, .register n] }

def finish (o : Overlap) (request : Nat) : Overlap :=
  { o with traffic := o.traffic.advanceAll [.finish request, .resume request] }

def proceed (script : Script) (call : Nat) : Overlap → Exchange α → Overlap × Report α
  | o, .done result => (o, ⟨[⟨call, result⟩], []⟩)
  | o, .get request key resume =>
    let number := o.traffic.next
    let (o, cancelled) := (o.begin key).settle
    if request.isSendable then
      match script.reply o.sent with
      | .held =>
        ({ o with sent := o.sent + 1, waiting := o.waiting ++ [⟨call, key, number⟩] },
          ⟨cancelled, [request]⟩)
      | .response response =>
        let o := { o with sent := o.sent + 1 }.finish number
        match response.outcome with
        | .ok value =>
          let (o, rest) := proceed script call o (resume value)
          (o, ⟨cancelled ++ rest.ended, request :: rest.requests⟩)
        | .error fault => (o, ⟨cancelled ++ [⟨call, .error fault⟩], [request]⟩)
    else (o.finish number, ⟨cancelled ++ [⟨call, .error (.network Exchange.notSendable)⟩], []⟩)

inductive Step (α : Type) where
  | start (call : Exchange α)
  | drop (call : Nat)

def step (script : Script) (o : Overlap) : Step α → Overlap × Report α
  | .start call => proceed script o.started { o with started := o.started + 1 } call
  | .drop call =>
    let dropped := o.waiting.filter (·.call == call)
    ({ o with
        traffic := o.traffic.advanceAll (dropped.map fun w => .drop w.request)
        waiting := o.waiting.filter (·.call != call) },
      ⟨[], []⟩)

/-- All steps in order; the calls that ended in a step are listed by their numbers. -/
def run (script : Script) : Overlap → List (Step α) → List (Report α)
  | _, [] => []
  | o, s :: rest =>
    let (o, report) := step script o s
    { report with ended := report.ended.mergeSort fun a b => a.call ≤ b.call }
      :: run script o rest

end Overlap

end RecordSelection
