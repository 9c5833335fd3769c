import RecordSelection.Client.Overlap

/-!
Calls that are all started before any of them makes progress. Some are then abandoned; the others
run to their ends. A call whose key was taken in the meantime never sends its request.
-/

set_option autoImplicit false

namespace RecordSelection

namespace Race

variable {α : Type}

structure Entry (α : Type) where
  call : Exchange α
  dropped : Bool

structure Started (α : Type) where
  entry : Entry α
  request : Option Nat

/-- Starts the calls in order: the first request of each is registered. -/
def startAll : Overlap → List (Entry α) → Overlap × List (Started α)
  | o, [] => (o, [])
  | o, entry :: rest =>
    let (o, request) := match entry.call with
      | .done _ => (o, none)
      | .get _ key _ => (o.begin key, some o.traffic.next)
    let (o, others) := startAll o rest
    (o, ⟨entry, request⟩ :: others)

def dropAll (o : Overlap) (started : List (Started α)) : Overlap :=
  { o with
    traffic := o.traffic.advanceAll
      (((started.filter (·.entry.dropped)).filterMap (·.request)).map .drop) }

def finishOne (script : Script) (o : Overlap) (s : Started α) :
    Overlap × Except ClientFault α × List Request :=
  match s.entry.call with
  | .done result => (o, result, [])
  | .get request key resume =>
    let number := s.request.getD o.traffic.next
    if o.traffic.isAborted number then
      ({ o with traffic := o.traffic.advance (.resume number) },
        .error (.cancelled (key.getD "")), [])
    else if request.isSendable then
      match script.answer o.sent with
      | .error fault => ({ o with sent := o.sent + 1 }.finish number, .error fault, [request])
      | .ok value =>
        let trace := (resume value).run script.answer (o.sent + 1)
        ({ o with sent := o.sent + 1 + trace.requests.length }.finish number, trace.result,
          request :: trace.requests)
    else (o.finish number, .error (.network Exchange.notSendable), [])

def finishAll (script : Script) : Overlap → List (Started α) →
    List (Option (Except ClientFault α)) × List Request
  | _, [] => ([], [])
  | o, s :: rest =>
    if s.entry.dropped then
      let (results, requests) := finishAll script o rest
      (none :: results, requests)
    else
      let (o, result, made) := finishOne script o s
      let (results, requests) := finishAll script o rest
      (some result :: results, made ++ requests)

def run (script : Script) (entries : List (Entry α)) :
    List (Option (Except ClientFault α)) × List Request :=
  let (o, started) := startAll {} entries
  finishAll script (dropAll o started) started

def targets (requests : List Request) : List String :=
  (requests.map (·.url.target)).mergeSort

end Race

end RecordSelection
