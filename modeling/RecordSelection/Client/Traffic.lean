import RecordSelection.Client.Registry

/-!
Requests of any number of callers on one client, as steps that can come in any order. A request
with a key runs as a task of its own: it is spawned, registered under its key, which aborts the
request registered there before, and it ends unless it was aborted; its caller then sees the end
and releases it. A caller that goes away releases its request at once. A request without a key is
never registered.
-/

set_option autoImplicit false

namespace RecordSelection

inductive Task where
  | running
  | finished
  | aborted
  deriving DecidableEq, Repr

/-- What the caller of a request saw: the answer, or that a newer request took its place. -/
inductive Seen where
  | answer
  | cancelled
  deriving DecidableEq, Repr

structure Flight where
  key : Option String
  task : Task := .running
  ticket : Option Nat := none
  released : Bool := false
  seen : Option Seen := none
  deriving DecidableEq, Repr

structure Traffic where
  registry : Registry := {}
  flights : List Flight := []

namespace Flight

def abort (f : Flight) : Flight := if f.task = .running then { f with task := .aborted } else f

def isAwaited (f : Flight) : Bool := !f.released && (f.key.isNone || f.ticket.isSome)

end Flight

namespace Traffic

inductive Event where
  | spawn (key : Option String)
  | register (request : Nat)
  | finish (request : Nat)
  | resume (request : Nat)
  | drop (request : Nat)
  deriving DecidableEq, Repr

def flight? (t : Traffic) (request : Nat) : Option Flight := t.flights[request]?

def set (t : Traffic) (request : Nat) (f : Flight) : Traffic :=
  { t with flights := t.flights.set request f }

def abortAt (t : Traffic) (request : Nat) : Traffic :=
  { t with flights := t.flights.modify request Flight.abort }

/-- Releases a request: its task is aborted unless it has ended, and its entry is removed. -/
def release (t : Traffic) (request : Nat) (f : Flight) (seen : Option Seen) : Traffic :=
  let t := t.set request { f.abort with released := true, seen }
  match f.key, f.ticket with
  | some key, some ticket => { t with registry := t.registry.release key ticket }
  | _, _ => t

def step (t : Traffic) : Event → Option Traffic
  | .spawn key => some { t with flights := t.flights ++ [{ key }] }
  | .register request => do
    let f ← t.flight? request
    match f.key, f.ticket with
    | some key, none =>
      if f.released then none
      else
        let (registry, previous) := t.registry.register key request
        let t := { (t.set request { f with ticket := some registry.last }) with registry }
        match previous with
        | some holder => some (t.abortAt holder.request)
        | none => some t
    | _, _ => none
  | .finish request => do
    let f ← t.flight? request
    if f.task = .running then some (t.set request { f with task := .finished }) else none
  | .resume request => do
    let f ← t.flight? request
    if f.isAwaited then
      match f.task with
      | .running => none
      | .finished => some (t.release request f (some .answer))
      | .aborted => some (t.release request f (some .cancelled))
    else none
  | .drop request => do
    let f ← t.flight? request
    if f.isAwaited then some (t.release request f none) else none

/-- The state after a step; a step that is not possible changes nothing. -/
def advance (t : Traffic) (e : Event) : Traffic := (t.step e).getD t

def advanceAll (t : Traffic) (es : List Event) : Traffic := es.foldl advance t

def next (t : Traffic) : Nat := t.flights.length

def isAborted (t : Traffic) (request : Nat) : Bool :=
  match t.flight? request with
  | some f => f.task == .aborted
  | none => false

end Traffic

end RecordSelection
