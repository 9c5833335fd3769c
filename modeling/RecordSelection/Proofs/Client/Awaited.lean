import RecordSelection.Client.Overlap
import RecordSelection.Client.Session
import RecordSelection.Proofs.Client.AllRecords
import RecordSelection.Proofs.Client.Unkeyed

/-!
# Calls made one after another

Calls on one client that do not overlap. A request with a key runs as a task of its own and is
registered, and when its caller has seen the answer nothing is left of it. So each call finds the
client as if no request had ever had a key, and comes to what it comes to alone.
-/

set_option autoImplicit false

namespace RecordSelection

namespace Traffic

structure Quiet (t : Traffic) : Prop where
  held : t.registry.isEmpty = true
  answered : ∀ f ∈ t.flights, f.task = .finished ∧ f.released = true ∧ f.seen = some .answer

def push (t : Traffic) (f : Flight) : Traffic := { t with flights := t.flights ++ [f] }

theorem flight?_push (t : Traffic) (f : Flight) : (t.push f).flight? t.next = some f :=
  List.getElem?_concat_length

theorem set_push (t : Traffic) (f g : Flight) : (t.push f).set t.next g = t.push g := by
  simp [push, set, next]

theorem quiet_push (t : Traffic) (h : t.Quiet) (r : Registry) (hr : r.isEmpty = true) (f : Flight)
    (hf : f.task = .finished ∧ f.released = true ∧ f.seen = some .answer) :
    (push { t with registry := r } f).Quiet where
  held := hr
  answered := by
    intro g hg
    rcases List.mem_append.mp hg with hg | hg
    · exact h.answered g hg
    · rw [List.mem_singleton.mp hg]
      exact hf

theorem get?_of_quiet (t : Traffic) (h : t.Quiet) (key : String) :
    t.registry.holders.get? key = none :=
  (Dictionary.entries_eq_nil_iff _).mp (List.isEmpty_iff.mp h.held) key

theorem advance_of_step (t t' : Traffic) (e : Event) (hs : Step t e t') : t.advance e = t' := by
  rw [advance, step_eq_some_of_step t t' e hs, Option.getD_some]

theorem ask_unkeyed (t : Traffic) : t.ask none = t.push { key := none } := by
  have hnew : (t.push { key := none }).flight? t.next = some { key := none } := flight?_push t _
  have hspawn : t.advance (.spawn none) = t.push { key := none } := rfl
  have hregister : (t.push { key := none }).advance (.register t.next) =
      t.push { key := none } := by
    simp [advance, step, hnew]
  simp only [ask, advanceAll, List.foldl_cons, List.foldl_nil, hspawn, hregister]

theorem ask_keyed (t : Traffic) (key : String) (free : t.registry.holders.get? key = none) :
    t.ask (some key) =
      push { t with registry := (t.registry.register key t.next).1 }
        { key := some key, ticket := some (t.registry.last + 1) } := by
  let f : Flight := { key := some key }
  have hspawn : t.advance (.spawn (some key)) = t.push f := rfl
  have hregister : (t.push f).advance (.register t.next) = enter (t.push f) t.next f key :=
    advance_of_step _ _ _ (.register (flight?_push t f) rfl rfl rfl)
  have hfree : (t.push f).registry.holders.get? key = none := free
  simp only [ask, advanceAll, List.foldl_cons, List.foldl_nil, hspawn, hregister]
  rw [enter, hfree, set_push]
  rfl

theorem answer_push (t : Traffic) (f : Flight) (runs : f.task = .running)
    (awaited : f.isAwaited = true) :
    (t.push f).advanceAll [.finish t.next, .resume t.next] =
      (t.push { f with task := .finished }).release t.next { f with task := .finished }
        (some .answer) := by
  have hfinish := advance_of_step (t.push f) _ _ (.finish (flight?_push t f) runs)
  have hresume := advance_of_step (t.push { f with task := .finished }) _ _
    (.answer (flight?_push t _) awaited rfl)
  rw [set_push] at hfinish
  simp only [advanceAll, List.foldl_cons, List.foldl_nil, hfinish, hresume]

theorem release_push (t : Traffic) (f : Flight) (ended : f.task ≠ .running)
    (seen : Option Seen) :
    (t.push f).release t.next f seen =
      push
        { t with registry := match f.key, f.ticket with
          | some key, some ticket => t.registry.release key ticket
          | _, _ => t.registry }
        { f with released := true, seen } := by
  unfold release
  rw [abort_eq_self f ended, set_push]
  obtain ⟨key, task, ticket, released, before⟩ := f
  cases key <;> cases ticket <;> rfl

theorem isEmpty_release_register (r : Registry) (h : r.isEmpty = true) (key : String)
    (request : Nat) : ((r.register key request).1.release key (r.last + 1)).isEmpty = true := by
  have hnone := (Dictionary.entries_eq_nil_iff _).mp (List.isEmpty_iff.mp h)
  have hget : (r.register key request).1.holders.get? key = some ⟨r.last + 1, request⟩ := by
    simp [Registry.register, Dictionary.get?_insert]
  have herase : ∀ k, ((r.register key request).1.holders.erase key).get? k = none := by
    intro k
    rw [Dictionary.get?_erase]
    by_cases hk : k = key
    · exact if_pos hk
    · rw [if_neg hk, Registry.register, Dictionary.get?_insert, if_neg (Ne.symm hk), hnone]
  simp only [Registry.release, hget, if_true]
  exact List.isEmpty_iff.mpr ((Dictionary.entries_eq_nil_iff _).mpr herase)

def serve (t : Traffic) (key : Option String) : Traffic :=
  (t.ask key).advanceAll [.finish t.next, .resume t.next]

theorem quiet_serve (t : Traffic) (h : t.Quiet) (key : Option String) : (t.serve key).Quiet := by
  unfold serve
  cases key with
  | none =>
    rw [ask_unkeyed, answer_push t _ rfl rfl, release_push t _ (by simp)]
    exact quiet_push t h t.registry h.held _ ⟨rfl, rfl, rfl⟩
  | some key =>
    let entered : Traffic := { t with registry := (t.registry.register key t.next).1 }
    let f : Flight := { key := some key, ticket := some (t.registry.last + 1) }
    have hanswer := answer_push entered f rfl rfl
    rw [release_push entered _ (by simp)] at hanswer
    rw [ask_keyed t key (get?_of_quiet t h key)]
    have hempty := isEmpty_release_register t.registry h.held key t.next
    exact hanswer ▸ quiet_push t h _ hempty _ ⟨rfl, rfl, rfl⟩

end Traffic

namespace Exchange

variable {α : Type}

theorem reply_ne_cancelled (answer : Nat → Except ClientFault Json)
    (hanswer : ∀ n key, answer n ≠ .error (.cancelled key)) (n : Nat) (r : Request)
    (key : String) : reply answer n r ≠ .error (.cancelled key) := by
  unfold reply
  split
  · exact hanswer n key
  · simp

theorem run_ne_cancelled (answer : Nat → Except ClientFault Json)
    (hanswer : ∀ n key, answer n ≠ .error (.cancelled key)) (n : Nat) (e : Exchange α)
    (h : e.Lasting) (key : String) : (e.run answer n).result ≠ .error (.cancelled key) := by
  induction e generalizing n with
  | done result => exact (lasting_done_iff result).mp h key
  | get request requestKey resume ih =>
    cases hreply : reply answer n request with
    | ok value =>
      rw [run_get_ok answer n request requestKey resume value hreply]
      exact ih value (n + 1) fun k hend => h k (.after value hend)
    | error fault =>
      have hfault : fault ≠ .cancelled key := by
        rintro rfl
        exact reply_ne_cancelled answer hanswer n request key hreply
      rw [run_get_error answer n request requestKey resume fault hreply]
      simpa using hfault

/-- What calls come to, made one after another when some requests were made and some calls begun
before. -/
def inTurn (answer : Nat → Except ClientFault Json) (sent number : Nat) :
    List (Exchange α) → List (Overlap.Report α)
  | [] => []
  | e :: rest =>
    let trace := e.run answer sent
    ⟨[⟨number, trace.result⟩], trace.requests⟩
      :: inTurn answer (sent + trace.requests.length) (number + 1) rest

theorem inTurn_withoutKeys (answer : Nat → Except ClientFault Json) (sent number : Nat)
    (calls : List (Exchange α)) :
    inTurn answer sent number (calls.map withoutKeys) = inTurn answer sent number calls := by
  induction calls generalizing sent number with
  | nil => rfl
  | cons e rest ih =>
    rw [List.map_cons, inTurn, inTurn, run_withoutKeys]
    exact congrArg _ (ih _ _)

theorem inTurn_calls (answer : Nat → Except ClientFault Json) (sent number : Nat)
    (calls : List (Exchange α)) :
    (inTurn answer sent number calls).map (·.ended.map (·.call)) =
      (List.range' number calls.length).map ([·]) := by
  induction calls generalizing sent number with
  | nil => rfl
  | cons e rest ih => exact congrArg _ (ih _ (number + 1))

theorem inTurn_ne_cancelled (answer : Nat → Except ClientFault Json)
    (hanswer : ∀ n key, answer n ≠ .error (.cancelled key)) (sent number : Nat)
    (calls : List (Exchange α)) (h : ∀ e ∈ calls, e.Lasting) :
    ∀ report ∈ inTurn answer sent number calls, ∀ ended ∈ report.ended, ∀ key,
      ended.result ≠ .error (.cancelled key) := by
  induction calls generalizing sent number with
  | nil => exact fun report hreport => absurd hreport List.not_mem_nil
  | cons e rest ih =>
    obtain ⟨he, hrest⟩ := List.forall_mem_cons.mp h
    refine List.forall_mem_cons.mpr ⟨?_, ih _ _ hrest⟩
    intro ended hended
    rw [List.mem_singleton.mp hended]
    exact run_ne_cancelled answer hanswer sent e he

end Exchange

namespace Overlap

variable {α : Type}

structure Quiet (o : Overlap) : Prop where
  waiting : o.waiting = []
  traffic : o.traffic.Quiet

theorem quiet_start : ({} : Overlap).Quiet := ⟨rfl, rfl, by simp⟩

theorem settle_eq_self (o : Overlap) (h : o.waiting = []) : o.settle (α := α) = (o, []) := by
  obtain ⟨traffic, sent, started, waiting⟩ := o
  obtain rfl := h
  rfl

theorem reply_eq_response (responses : List Response) (n : Nat) :
    ∃ r, Script.reply (responses.map .response) n = .response r ∧
      Script.answer (responses.map .response) n = r.outcome := by
  have hreply : Script.reply (responses.map .response) n =
      .response (responses.getD n .exhausted) := by
    simp only [Script.reply, List.getD_eq_getElem?_getD, List.getElem?_map]
    cases responses[n]? <;> rfl
  exact ⟨_, hreply, by rw [Script.answer, hreply]⟩

theorem answer_ne_cancelled (responses : List Response) (n : Nat) (key : String) :
    Script.answer (responses.map .response) n ≠ .error (.cancelled key) := by
  obtain ⟨r, -, hanswer⟩ := reply_eq_response responses n
  rw [hanswer]
  exact outcome_ne_cancelled r key

theorem quiet_finish (o : Overlap) (h : o.Quiet) (key : Option String) (sent : Nat) :
    ({ o.begin key with sent }.finish o.traffic.next).Quiet where
  waiting := h.waiting
  traffic := o.traffic.quiet_serve h.traffic key

def counted (o : Overlap) (request : Request) : Nat :=
  if request.isSendable then o.sent + 1 else o.sent

theorem proceed_get (responses : List Response) (call : Nat) (o : Overlap) (h : o.Quiet)
    (request : Request) (key : Option String) (resume : Json → Exchange α) :
    let script := responses.map Reply.response
    let next := { o.begin key with sent := o.counted request }.finish o.traffic.next
    proceed script call o (.get request key resume) =
      match Exchange.reply (Script.answer script) o.sent request with
      | .ok value =>
        let (o', rest) := proceed script call next (resume value)
        (o', ⟨rest.ended, request :: rest.requests⟩)
      | .error fault => (next, ⟨[⟨call, .error fault⟩], [request].filter (·.isSendable)⟩) := by
  have hsettle := settle_eq_self (α := α) (o.begin key) h.waiting
  have hsent : (o.begin key).sent = o.sent := rfl
  obtain ⟨r, hreply, hanswer⟩ := reply_eq_response responses o.sent
  intro script next
  rw [proceed, Exchange.reply]
  by_cases sendable : request.isSendable = true
  · have hnext : next = { o.begin key with sent := o.sent + 1 }.finish o.traffic.next := by
      simp only [next, counted, sendable, if_true]
    simp only [hsettle, hsent, sendable, if_true, script, hreply, hanswer, hnext]
    cases r.outcome with
    | ok value => rfl
    | error fault => simp [sendable]
  · have hnext : next = (o.begin key).finish o.traffic.next := by
      simp only [next, counted, sendable]
      rfl
    simp [hsettle, sendable, hnext]

/-- A call that is made while nothing else happens comes to what it comes to alone. -/
theorem proceed_of_quiet (responses : List Response) (call : Nat) (o : Overlap) (h : o.Quiet)
    (e : Exchange α) :
    let script := responses.map Reply.response
    let trace := e.run (Script.answer script) o.sent
    ∃ o', proceed script call o e = (o', ⟨[⟨call, trace.result⟩], trace.requests⟩) ∧ o'.Quiet ∧
      o'.sent = o.sent + trace.requests.length ∧ o'.started = o.started := by
  induction e generalizing o with
  | done result => exact ⟨o, rfl, h, rfl, rfl⟩
  | get request key resume ih =>
    intro script trace
    have hproceed := proceed_get responses call o h request key resume
    let next := { o.begin key with sent := o.counted request }.finish o.traffic.next
    have hnext : next.Quiet := quiet_finish o h key _
    cases hreply : Exchange.reply (Script.answer script) o.sent request with
    | ok value =>
      have sendable := Exchange.isSendable_of_reply _ o.sent request value hreply
      have hcounted : next.sent = o.sent + 1 := if_pos sendable
      obtain ⟨o', hrest, hquiet, hsent, hstarted⟩ := ih value next hnext
      rw [hcounted] at hrest hsent
      let rest := (resume value).run (Script.answer script) (o.sent + 1)
      have htrace : trace = ⟨rest.result, request :: rest.attempted⟩ :=
        Exchange.run_get_ok _ o.sent request key resume value hreply
      have hrequests : trace.requests = request :: rest.requests := by
        rw [htrace, Exchange.Trace.requests, List.filter_cons_of_pos sendable,
          Exchange.Trace.requests]
      refine ⟨o', ?_, hquiet, ?_, hstarted⟩
      · rw [hproceed, hreply, hrequests, htrace]
        dsimp only
        rw [hrest]
      · rw [hrequests, hsent]
        exact Nat.succ_add_eq_add_succ _ _
    | error fault =>
      have htrace : trace = ⟨.error fault, [request]⟩ :=
        Exchange.run_get_error _ o.sent request key resume fault hreply
      refine ⟨next, ?_, hnext, ?_, rfl⟩
      · rw [hproceed, hreply, htrace]
        rfl
      · rw [htrace]
        by_cases sendable : request.isSendable = true <;>
          simp [next, finish, counted, Exchange.Trace.requests, sendable]

def after (script : Script) (o : Overlap) (steps : List (Step α)) : Overlap :=
  steps.foldl (fun o s => (step script o s).1) o

theorem step_of_quiet (responses : List Response) (o : Overlap) (h : o.Quiet) (e : Exchange α) :
    let script := responses.map Reply.response
    let trace := e.run (Script.answer script) o.sent
    ∃ o', step script o (.start e) = (o', ⟨[⟨o.started, trace.result⟩], trace.requests⟩) ∧
      o'.Quiet ∧ o'.sent = o.sent + trace.requests.length ∧ o'.started = o.started + 1 :=
  proceed_of_quiet responses o.started { o with started := o.started + 1 } ⟨h.waiting, h.traffic⟩ e

theorem quiet_after (responses : List Response) (o : Overlap) (h : o.Quiet)
    (calls : List (Exchange α)) :
    (after (responses.map Reply.response) o (calls.map .start)).Quiet := by
  induction calls generalizing o with
  | nil => exact h
  | cons e rest ih =>
    obtain ⟨o', hstep, hquiet, -, -⟩ := step_of_quiet responses o h e
    rw [List.map_cons, after, List.foldl_cons, hstep]
    exact ih o' hquiet

theorem run_of_quiet (responses : List Response) (o : Overlap) (h : o.Quiet)
    (calls : List (Exchange α)) :
    let script := responses.map Reply.response
    run script o (calls.map .start) =
      Exchange.inTurn (Script.answer script) o.sent o.started calls := by
  intro script
  induction calls generalizing o with
  | nil => rfl
  | cons e rest ih =>
    obtain ⟨o', hstep, hquiet, hsent, hstarted⟩ := step_of_quiet responses o h e
    rw [List.map_cons, run, hstep, Exchange.inTurn, ← hsent, ← hstarted]
    dsimp only
    rw [ih o' hquiet, List.mergeSort_singleton]

/-- A call that is awaited makes the requests of a blocking one and gives its result, and as many
requests are counted afterwards. -/
def Matches (script : Script) (o : Overlap) (e : Exchange α)
    (waited : Session × Exchange.Trace α) : Prop :=
  (step script o (.start e)).2 = ⟨[⟨o.started, waited.2.result⟩], waited.2.requests⟩ ∧
    (step script o (.start e)).1.sent = waited.1.sent

theorem matches_wait (responses : List Response) (o : Overlap) (h : o.Quiet) (s : Session)
    (counted : s.sent = o.sent) (e : Exchange α) :
    let script := responses.map Reply.response
    Matches script o e (s.wait (Script.answer script) e) := by
  obtain ⟨o', hstep, -, hsent, -⟩ := step_of_quiet responses o h e
  intro script
  unfold Matches Session.wait
  rw [hstep, counted]
  exact ⟨rfl, hsent⟩

structure MatchesBlocking (α : Type) (script : Script) (o : Overlap) (s : Session) : Prop where
  list : ∀ (item : Json.Reader α) (q : Query),
    Matches script o (q.send s.client item) (s.list script.answer item q.selection q.page)
  all : ∀ (item : Json.Reader α) (q : Query),
    Matches script o (q.all s.client item) (s.all script.answer item q.selection)
  view : ∀ (item : Json.Reader α) (q : Query) (id : String),
    Matches script o (q.view s.client item id) (s.view script.answer item q.selection id)
  records : ∀ (t : RecordType) (page : Page),
    Matches script o (Query.send ⟨t.selection, page⟩ s.client t.format.reader)
      (s.records script.answer t page)

/-- Request keys are invisible in calls that are awaited one after another. The calls make the same
requests and give the same results when the keys are erased; each ends in its own step, and none as
cancelled; nothing is left between them; and the blocking calls do the same. -/
theorem request_keys_unseen (responses : List Response) (asked : List (Inquiry α)) :
    let script := responses.map Reply.response
    let calls := asked.map fun i => Step.start i.exchange
    let erased := asked.map fun i => Step.start i.withoutKeys.exchange
    let o := after script {} calls
    run script {} calls = run script {} erased ∧
    (run script {} calls).map (·.ended.map (·.call)) = (List.range asked.length).map ([·]) ∧
    (∀ report ∈ run script {} calls, ∀ ended ∈ report.ended, ∀ key,
      ended.result ≠ .error (.cancelled key)) ∧
    o.Quiet ∧
    ∀ (β : Type) (client : Client), MatchesBlocking β script o ⟨client, o.sent⟩ := by
  intro script calls erased o
  have hcalls : calls = (asked.map Inquiry.exchange).map Step.start := by
    rw [List.map_map]
    rfl
  have herased : erased = ((asked.map Inquiry.exchange).map Exchange.withoutKeys).map .start := by
    rw [List.map_map, List.map_map]
    exact List.map_congr_left fun i _ => congrArg Step.start i.exchange_withoutKeys
  have hrun : run script {} calls =
      Exchange.inTurn (Script.answer script) 0 0 (asked.map Inquiry.exchange) :=
    hcalls ▸ run_of_quiet responses {} quiet_start _
  have hquiet : o.Quiet := by
    have hafter := quiet_after responses {} quiet_start (asked.map Inquiry.exchange)
    rw [← hcalls] at hafter
    exact hafter
  refine ⟨?_, ?_, ?_, hquiet, fun β client => ?_⟩
  · rw [hrun, herased, run_of_quiet responses {} quiet_start, Exchange.inTurn_withoutKeys]
  · rw [hrun, Exchange.inTurn_calls, List.length_map, List.range_eq_range']
  · rw [hrun]
    refine Exchange.inTurn_ne_cancelled _ (answer_ne_cancelled responses) 0 0 _ ?_
    rw [List.forall_mem_map]
    exact fun i _ => i.lasting_exchange
  · have hmatches {γ : Type} (e : Exchange γ) :=
      matches_wait responses o hquiet ⟨client, o.sent⟩ rfl e
    exact
      { list := fun item q => hmatches _
        all := fun item q => hmatches _
        view := fun item q id => hmatches _
        records := fun t page => hmatches _ }

/-- Two queries with one key, the first for all posts: the second one does not cancel it. -/
theorem request_keys_unseen_feed :
    let query : Query := { selection := { key := "posts", requestKey := some "feed" } }
    let asked : List (Inquiry Json) :=
      [⟨.loopback, Json.Reader.any, query, .all⟩, ⟨.loopback, Json.Reader.any, query, .first⟩]
    let script := [Response.ofCount 2, Response.ofCount 1].map Reply.response
    ∃ first second, (run script {} (asked.map fun i => .start i.exchange)).map (·.ended) =
        [[first], [second]] ∧
      first.result ≠ .error (.cancelled "feed") ∧ second.result ≠ .error (.cancelled "feed") := by
  intro query asked script
  obtain ⟨-, hcalls, hresults, -, -⟩ :=
    request_keys_unseen [Response.ofCount 2, Response.ofCount 1] asked
  obtain ⟨r₁, rest, hrun, h₁, hrest⟩ := List.map_eq_cons_iff.mp hcalls
  obtain ⟨r₂, tail, rfl, h₂, htail⟩ := List.map_eq_cons_iff.mp hrest
  obtain rfl := List.map_eq_nil_iff.mp htail
  obtain ⟨first, hfirst, -⟩ := List.map_eq_singleton_iff.mp h₁
  obtain ⟨second, hsecond, -⟩ := List.map_eq_singleton_iff.mp h₂
  rw [hrun] at hresults
  refine ⟨first, second, ?_, ?_, ?_⟩
  · rw [hrun, List.map_cons, List.map_cons, List.map_nil, hfirst, hsecond]
  · exact hresults r₁ (by simp) first (by simp [hfirst]) "feed"
  · exact hresults r₂ (by simp) second (by simp [hsecond]) "feed"

end Overlap

end RecordSelection
