import Mathlib.Data.List.Induction
import RecordSelection.Client.Overlap
import RecordSelection.Proofs.Client.Overtaken
import RecordSelection.Proofs.Client.Steps

/-!
# Calls that run as far as they can

Calls of which each runs as far as it can before the next one starts take their steps in one of the
orders that are possible at all. In such an order only the call begun last makes further requests,
so no call is overtaken by an older one.
-/

set_option autoImplicit false

namespace RecordSelection.Calls

variable {γ β : Type} {exchange : γ → Exchange β}

def Awaits (s : Calls γ β) (w : Waiting) : Prop :=
  (∃ c resume, s.party? w.call = some ⟨c, .waiting w.request resume⟩) ∧
    s.traffic.keyOf? w.request = w.key

theorem lt_of_awaits (s : Calls γ β) (w : Waiting) (h : s.Awaits w) :
    w.call < s.parties.length := by
  obtain ⟨⟨c, resume, found⟩, -⟩ := h
  exact (List.getElem?_eq_some_iff.mp found).1

theorem awaits_of_kept (s s' : Calls γ β) (w : Waiting) (kept : Kept s s' w.call)
    (h : s.Awaits w) : s'.Awaits w ∧
      s'.traffic.isAborted w.request = s.traffic.isAborted w.request := by
  obtain ⟨⟨c, resume, found⟩, hkey⟩ := h
  have hflight := kept.flight c w.request resume found
  refine ⟨⟨⟨c, resume, kept.party.trans found⟩, ?_⟩, ?_⟩
  · rw [Traffic.keyOf?, hflight]
    exact hkey
  · rw [Traffic.isAborted, hflight, Traffic.isAborted]

theorem steps_settled (fetched : Fetched) (ws : List Waiting) (s : Calls γ β)
    (h : Orderly exchange s)
    (waiting : ∀ w ∈ ws, s.Awaits w ∧ s.traffic.isAborted w.request = true)
    (apart : (ws.map (·.call)).Nodup) :
    ∃ s', Steps exchange s (ws.map fun w => .resume w.call fetched) s' ∧
      s'.traffic = s.traffic.advanceAll (ws.map fun w => .resume w.request) ∧
      ∀ w ∈ ws, ∃ c, s'.party? w.call =
        some ⟨c, .ready (.done (.error (.cancelled (w.key.getD ""))))⟩ := by
  induction ws generalizing s with
  | nil => exact ⟨s, .none, rfl, by simp⟩
  | cons w ws ih =>
    obtain ⟨⟨⟨c, resume, found⟩, hkey⟩, haborted⟩ := waiting w List.mem_cons_self
    obtain ⟨u, hstep, htraffic, hnow⟩ :=
      step_cancelled h w.call c w.request resume found haborted fetched
    rw [hkey] at hnow
    obtain ⟨hw, hapart⟩ := List.nodup_cons.mp apart
    have hrest : ∀ v ∈ ws, u.Awaits v ∧ u.traffic.isAborted v.request = true := by
      intro v hv
      obtain ⟨hawaits, hv'⟩ := waiting v (List.mem_cons_of_mem w hv)
      have hne : v.call ≠ w.call := fun heq => hw (List.mem_map.mpr ⟨v, hv, heq⟩)
      have hkept := awaits_of_kept s u v (kept_step h _ hstep w.call rfl v.call hne) hawaits
      exact ⟨hkept.1, hkept.2.trans hv'⟩
    obtain ⟨s', hsteps, hlast, hended⟩ := ih u (orderly_step h _ hstep) hrest hapart
    refine ⟨s', steps_append (steps_one _ hstep) hsteps, ?_, ?_⟩
    · rw [hlast, List.map_cons, Traffic.advanceAll, Traffic.advanceAll, List.foldl_cons,
        Traffic.advance, htraffic, Option.getD_some]
    · intro v hv
      rcases List.mem_cons.mp hv with rfl | hv
      · exact ⟨c, party?_of_steps_done hsteps v.call c _ hnow⟩
      · exact hended v hv

structure Shows (o : Overlap) (s : Calls γ β) : Prop where
  traffic : o.traffic = s.traffic
  started : o.started = s.parties.length
  waiting : ∀ w ∈ o.waiting, s.Awaits w
  apart : (o.waiting.map (·.call)).Nodup

def Continues (i : Nat) (es : List (Event γ)) : Prop :=
  ∀ e ∈ es, e.begun? = none ∧ ∀ j, e = .ask j → j = i

theorem begun_of_continues (i : Nat) (es : List (Event γ)) (h : Continues i es) : begun es = [] :=
  List.filterMap_eq_nil_iff.mpr fun e he => (h e he).1

theorem continues_append (i : Nat) (es es' : List (Event γ)) (h : Continues i es)
    (h' : Continues i es') : Continues i (es ++ es') := by
  intro e he
  rcases List.mem_append.mp he with he | he
  · exact h e he
  · exact h' e he

def Reported (s : Calls γ β) (ended : List (Ended β)) : Prop :=
  ∀ x ∈ ended, ∃ c, s.party? x.call = some ⟨c, .ready (.done x.result)⟩

theorem reported_of_steps {s s' : Calls γ β} {es : List (Event γ)} (ended : List (Ended β))
    (steps : Steps exchange s es s') (h : s.Reported ended) : s'.Reported ended := by
  intro x hx
  obtain ⟨c, hc⟩ := h x hx
  exact ⟨c, party?_of_steps_done steps x.call c x.result hc⟩

theorem shows_of_kept {o o' : Overlap} {s s' : Calls γ β} (h : Shows o s)
    (traffic : o'.traffic = s'.traffic) (started : o'.started = o.started)
    (length : s'.parties.length = s.parties.length)
    (waiting : o'.waiting.Sublist o.waiting)
    (kept : ∀ w ∈ o'.waiting, Kept s s' w.call) : Shows o' s' where
  traffic := traffic
  started := by rw [started, h.started, length]
  waiting := fun w hw => (awaits_of_kept s s' w (kept w hw) (h.waiting w (waiting.subset hw))).1
  apart := h.apart.sublist (waiting.map _)

theorem steps_settle {o : Overlap} {s : Calls γ β} (h : Orderly exchange s) (shows : Shows o s)
    (settled : Overlap × List (Ended β)) (settles : o.settle = settled) :
    ∃ es s', Steps exchange s es s' ∧ Shows settled.1 s' ∧ s'.Reported settled.2 ∧
      (∀ j, Continues j es) ∧
      ∀ i c n resume, s.party? i = some ⟨c, .waiting n resume⟩ →
        s.traffic.isAborted n = false → Kept s s' i := by
  subst settles
  let ws := o.waiting.filter fun w => o.traffic.isAborted w.request
  have hws : ∀ w ∈ ws, s.Awaits w ∧ s.traffic.isAborted w.request = true := by
    intro w hw
    obtain ⟨hmem, haborted⟩ := List.mem_filter.mp hw
    exact ⟨shows.waiting w hmem, shows.traffic ▸ haborted⟩
  have hapart : (ws.map (·.call)).Nodup :=
    shows.apart.sublist (List.filter_sublist.map _)
  obtain ⟨s', hsteps, htraffic, hended⟩ :=
    steps_settled (.ofResponse .exhausted) ws s h hws hapart
  -- A call whose request was not aborted is none of those that end here.
  have hkept : ∀ i c n resume, s.party? i = some ⟨c, .waiting n resume⟩ →
      s.traffic.isAborted n = false → Kept s s' i := by
    intro i c n resume hi hrunning
    refine kept_of_steps h hsteps i fun e he => ?_
    obtain ⟨w, hw, rfl⟩ := List.mem_map.mp he
    refine ⟨w.call, rfl, ?_⟩
    rintro rfl
    obtain ⟨⟨⟨d, rest, hd⟩, -⟩, haborted⟩ := hws w hw
    obtain ⟨rfl, rfl, rfl⟩ : c = d ∧ n = w.request ∧ resume = rest := by
      simpa using hi.symm.trans hd
    exact absurd (hrunning.symm.trans haborted) (by simp)
  have hquiet : ∀ j, Continues j
      (ws.map fun w => (.resume w.call (.ofResponse .exhausted) : Event γ)) := by
    intro j e he
    obtain ⟨w, -, rfl⟩ := List.mem_map.mp he
    exact ⟨rfl, nofun⟩
  refine ⟨_, s', hsteps, ?_, ?_, hquiet, hkept⟩
  · refine shows_of_kept shows ?_ rfl ?_ List.filter_sublist fun w hw => ?_
    · rw [htraffic, ← shows.traffic]
      rfl
    · rw [length_of_steps hsteps, begun_of_continues 0 _ (hquiet 0), List.length_nil, Nat.add_zero]
    · obtain ⟨hmem, hrunning⟩ := List.mem_filter.mp hw
      obtain ⟨⟨c, resume, found⟩, -⟩ := shows.waiting w hmem
      refine hkept w.call c w.request resume found ?_
      rw [← shows.traffic]
      simpa using hrunning
  · intro x hx
    obtain ⟨w, hw, rfl⟩ := List.mem_map.mp hx
    exact hended w hw

structure Requested (o : Overlap) (s : Calls γ β) (i : Nat) (c : γ) (n : Nat)
    (key : Option String) (resume : Json → Exchange β) : Prop where
  shows : Shows o s
  party : s.party? i = some ⟨c, .waiting n resume⟩
  flight : ∃ f, s.traffic.flight? n = some f ∧ f.key = key ∧ f.task = .running
  other : ∀ w ∈ o.waiting, w.call ≠ i

theorem requested_of_ask {o : Overlap} {s s' : Calls γ β} (h : Orderly exchange s) (i : Nat)
    (c : γ) (key : Option String) (resume : Json → Exchange β) (before : o.traffic = s.traffic)
    (waiting : ∀ w ∈ o.waiting, s.Awaits w ∧ w.call ≠ i) (apart : (o.waiting.map (·.call)).Nodup)
    (started : o.started = s'.parties.length) (traffic : s'.traffic = s.traffic.ask key)
    (parties : ∀ j, s'.party? j =
      if j = i then some ⟨c, .waiting s.traffic.next resume⟩ else s.party? j) :
    Requested (o.begin key) s' i c o.traffic.next key resume := by
  obtain ⟨es, run⟩ := h.traffic
  have hasked := Traffic.asked_ask es s.traffic run key
  rw [← traffic] at hasked
  obtain ⟨f, hf, hkey, hruns, -⟩ := hasked.own
  refine ⟨⟨?_, started, fun w hw => ?_, apart⟩, ?_, ?_, fun w hw => (waiting w hw).2⟩
  · rw [traffic, ← before]
    rfl
  · obtain ⟨⟨⟨d, rest, found⟩, hown⟩, hne⟩ := waiting w hw
    refine ⟨⟨d, rest, (parties w.call).trans ((if_neg hne).trans found)⟩, ?_⟩
    obtain ⟨-, g, -, hg, -⟩ := h.waiting w.call d w.request rest found
    obtain ⟨g', hg', hchange⟩ := hasked.others w.request g hg
    rw [Traffic.keyOf?_eq _ _ g hg] at hown
    rw [Traffic.keyOf?_eq _ _ g' hg', ← hown]
    rcases hchange with rfl | ⟨-, -, -, rfl⟩
    · rfl
    · exact Traffic.abort_key g
  · rw [before]
    exact (parties i).trans (if_pos rfl)
  · rw [before]
    exact ⟨f, hf, hkey, hruns⟩

def Advances (exchange : γ → Exchange β) (i : Nat) (s : Calls γ β)
    (after : Overlap × Overlap.Report β) : Prop :=
  ∃ es s', Steps exchange s es s' ∧ Continues i es ∧ Shows after.1 s' ∧ s'.Reported after.2.ended

theorem steps_finish {o : Overlap} {s : Calls γ β} (h : Orderly exchange s) (i : Nat) (c : γ)
    (n : Nat) (key : Option String) (resume : Json → Exchange β)
    (requested : Requested o s i c n key resume) (fetched : Fetched) :
    ∃ s', Steps exchange s [.finish i, .resume i fetched] s' ∧ Shows (o.finish n) s' ∧
      s'.party? i = some ⟨c, .ready ((Exchange.done fetched.outcome).bind resume)⟩ := by
  obtain ⟨f, hf, -, hruns⟩ := requested.flight
  obtain ⟨s', hsteps, htraffic, hparty⟩ :=
    steps_answered h i c n resume requested.party f hf hruns fetched
  refine ⟨s', hsteps, shows_of_kept requested.shows ?_ rfl ?_ (List.Sublist.refl _) ?_, hparty⟩
  · rw [htraffic, ← requested.shows.traffic]
    rfl
  · exact length_of_steps hsteps
  · intro w hw
    refine kept_of_steps h hsteps w.call fun e he => ⟨i, ?_, requested.other w hw⟩
    rcases List.mem_cons.mp he with rfl | he
    · rfl
    · obtain rfl := List.mem_singleton.mp he
      rfl

theorem requested_of_settle {o : Overlap} {s : Calls γ β} (h : Orderly exchange s) (i : Nat)
    (c : γ) (n : Nat) (key : Option String) (resume : Json → Exchange β)
    (requested : Requested o s i c n key resume) (settled : Overlap × List (Ended β))
    (settles : o.settle = settled) :
    ∃ es s', Steps exchange s es s' ∧ Continues i es ∧ s'.Reported settled.2 ∧
      Requested settled.1 s' i c n key resume := by
  obtain ⟨es, s', hsteps, hshows, hreported, hcontinues, hkept⟩ :=
    steps_settle h requested.shows settled settles
  obtain ⟨f, hf, hkey, hruns⟩ := requested.flight
  have hrunning : s.traffic.isAborted n = false := by simp [Traffic.isAborted, hf, hruns]
  have hown := hkept i c n resume requested.party hrunning
  refine ⟨es, s', hsteps, hcontinues i, hreported, hshows, hown.party.trans requested.party, ?_, ?_⟩
  · exact ⟨f, (hown.flight c n resume requested.party).trans hf, hkey, hruns⟩
  · intro w hw
    rw [← settles] at hw
    exact requested.other w (List.mem_filter.mp hw).1

theorem shows_held {o : Overlap} {s : Calls γ β} (i : Nat) (c : γ) (n : Nat) (key : Option String)
    (resume : Json → Exchange β) (requested : Requested o s i c n key resume) :
    Shows { o with waiting := o.waiting ++ [⟨i, key, n⟩] } s := by
  obtain ⟨f, hf, hkey, -⟩ := requested.flight
  refine ⟨requested.shows.traffic, requested.shows.started, fun w hw => ?_, ?_⟩
  · rcases List.mem_append.mp hw with hw | hw
    · exact requested.shows.waiting w hw
    · obtain rfl := List.mem_singleton.mp hw
      exact ⟨⟨c, resume, requested.party⟩, (Traffic.keyOf?_eq _ n f hf).trans hkey⟩
  · rw [List.map_append, List.nodup_append]
    refine ⟨requested.shows.apart, by simp, fun a ha b hb => ?_⟩
    obtain ⟨w, hw, rfl⟩ := List.mem_map.mp ha
    obtain rfl := List.mem_singleton.mp hb
    exact requested.other w hw

theorem continues_finish (i : Nat) (fetched : Fetched) :
    Continues i [(.finish i : Event γ), .resume i fetched] := by
  intro e he
  rcases List.mem_cons.mp he with rfl | he
  · exact ⟨rfl, nofun⟩
  · obtain rfl := List.mem_singleton.mp he
    exact ⟨rfl, nofun⟩

theorem reported_append {s : Calls γ β} (ended ended' : List (Ended β)) (h : s.Reported ended)
    (h' : s.Reported ended') : s.Reported (ended ++ ended') := by
  intro x hx
  rcases List.mem_append.mp hx with hx | hx
  · exact h x hx
  · exact h' x hx

theorem advances_fault {o : Overlap} {s : Calls γ β} (h : Orderly exchange s) (i : Nat) (c : γ)
    (n : Nat) (key : Option String) (resume : Json → Exchange β)
    (requested : Requested o s i c n key resume) (fetched : Fetched) (fault : ClientFault)
    (fails : fetched.outcome = .error fault) (ended : List (Ended β)) (requests : List Request)
    (reported : s.Reported ended) :
    Advances exchange i s (o.finish n, ⟨ended ++ [⟨i, .error fault⟩], requests⟩) := by
  obtain ⟨s', hsteps, hshows, hparty⟩ := steps_finish h i c n key resume requested fetched
  rw [fails] at hparty
  refine ⟨_, s', hsteps, continues_finish i fetched, hshows, ?_⟩
  apply reported_append ended _ (reported_of_steps ended hsteps reported)
  intro x hx
  obtain rfl := List.mem_singleton.mp hx
  exact ⟨c, hparty⟩

theorem advances_append {s s' : Calls γ β} {es : List (Event γ)} (i : Nat)
    (steps : Steps exchange s es s') (continues : Continues i es)
    (after : Overlap × Overlap.Report β) (h : Advances exchange i s' after) :
    Advances exchange i s after := by
  obtain ⟨es', s'', hsteps, hcontinues, hafter⟩ := h
  exact ⟨_, s'', steps_append steps hsteps, continues_append i es es' continues hcontinues, hafter⟩

theorem advances_requested (script : Script) (i : Nat) (c : γ) (request : Request)
    (key : Option String) (resume : Json → Exchange β)
    (rest : ∀ value o s, Orderly exchange s → Shows o s →
      s.party? i = some ⟨c, .ready (resume value)⟩ →
      Advances exchange i s (Overlap.proceed script i o (resume value)))
    (o : Overlap) (s : Calls γ β) (h : Orderly exchange s)
    (requested : Requested (o.begin key) s i c o.traffic.next key resume) :
    Advances exchange i s (Overlap.proceed script i o (.get request key resume)) := by
  obtain ⟨settled, hsettled⟩ : ∃ settled, (o.begin key).settle (α := β) = settled := ⟨_, rfl⟩
  obtain ⟨es, u, hsteps, hcontinues, hreported, hrequested⟩ :=
    requested_of_settle h i c _ key resume requested settled hsettled
  have hu := orderly_of_steps h hsteps
  apply advances_append i hsteps hcontinues
  -- Whether the request counts as made does not matter to the calls.
  have hsent : Requested { settled.1 with sent := settled.1.sent + 1 } u i c o.traffic.next key
      resume :=
    ⟨⟨hrequested.shows.traffic, hrequested.shows.started, hrequested.shows.waiting,
      hrequested.shows.apart⟩, hrequested.party, hrequested.flight, hrequested.other⟩
  simp only [Overlap.proceed, hsettled]
  by_cases hsendable : request.isSendable = true
  · rw [if_pos hsendable]
    cases script.reply settled.1.sent with
    | held => exact ⟨[], u, .none, nofun, shows_held i c _ key resume hsent, hreported⟩
    | response response =>
      cases hresponse : response.outcome with
      | error fault =>
        simp only [hresponse]
        exact advances_fault hu i c _ key resume hsent (.ofResponse response) fault hresponse
          settled.2 [request] hreported
      | ok value =>
        simp only [hresponse]
        obtain ⟨v, hfinish, hshows, hparty⟩ :=
          steps_finish hu i c _ key resume hsent (.ofResponse response)
        rw [show (Fetched.ofResponse response).outcome = .ok value from hresponse] at hparty
        obtain ⟨es', w, hrest, hgoes, hlast, hends⟩ :=
          rest value _ v (orderly_of_steps hu hfinish) hshows hparty
        refine ⟨_, w, steps_append hfinish hrest, ?_, hlast, ?_⟩
        · exact continues_append i _ es' (continues_finish i _) hgoes
        · exact reported_append settled.2 _
            (reported_of_steps _ (steps_append hfinish hrest) hreported) hends
  · rw [if_neg hsendable]
    exact advances_fault hu i c _ key resume hrequested (.ofFailure Exchange.notSendable) _ rfl
      settled.2 [] hreported

theorem advances_ready (script : Script) (i : Nat) (c : γ) (e : Exchange β) (o : Overlap)
    (s : Calls γ β) (h : Orderly exchange s) (shows : Shows o s)
    (ready : s.party? i = some ⟨c, .ready e⟩) :
    Advances exchange i s (Overlap.proceed script i o e) := by
  induction e generalizing o s with
  | done result =>
    refine ⟨[], s, .none, nofun, shows, fun x hx => ?_⟩
    obtain rfl := List.mem_singleton.mp hx
    exact ⟨c, ready⟩
  | get request key resume ih =>
    have hask : Step exchange s (.ask i) _ := .asked ready
    have hother : ∀ w ∈ o.waiting, s.Awaits w ∧ w.call ≠ i := by
      intro w hw
      have hawaits := shows.waiting w hw
      refine ⟨hawaits, ?_⟩
      rintro rfl
      obtain ⟨⟨d, rest, found⟩, -⟩ := hawaits
      exact nomatch ready.symm.trans found
    have hrequested := requested_of_ask (o := o) h i c key resume shows.traffic hother shows.apart
      (shows.started.trans (length_of_steps (steps_one _ hask)).symm) rfl
      (party?_put _ i c _ _ ready)
    apply advances_append i (steps_one _ hask)
    · intro e he
      obtain rfl := List.mem_singleton.mp he
      exact ⟨rfl, fun j hj => (Event.ask.inj hj).symm⟩
    · exact advances_requested script i c request key resume ih o _ (orderly_step h _ hask)
        hrequested

theorem steps_start (script : Script) (o : Overlap) (s : Calls γ β) (h : Orderly exchange s)
    (shows : Shows o s) (c : γ) :
    ∃ es s', Steps exchange s (.begin c :: es) s' ∧ Continues s.parties.length es ∧
      Shows (o.step script (.start (exchange c))).1 s' ∧
      s'.Reported (o.step script (.start (exchange c))).2.ended := by
  have hstart : o.step script (.start (exchange c)) = Overlap.proceed script s.parties.length
      { o with started := o.started + 1 } (exchange c) := by
    rw [← shows.started]
    rfl
  rw [hstart]
  cases hruns : exchange c with
  | done result =>
    have hstep : Step exchange s (.begin c) _ := .ended hruns
    have hadd := party?_add s c (.ready (.done result))
    refine ⟨[], _, steps_one _ hstep, nofun, ⟨shows.traffic, ?_, fun w hw => ?_, shows.apart⟩, ?_⟩
    · rw [length_of_steps (steps_one _ hstep), ← shows.started]
      rfl
    · have hne := Nat.ne_of_lt (lt_of_awaits s w (shows.waiting w hw))
      obtain ⟨⟨d, rest, found⟩, hkey⟩ := shows.waiting w hw
      exact ⟨⟨d, rest, (hadd w.call).trans ((if_neg hne).trans found)⟩, hkey⟩
    · intro x hx
      obtain rfl := List.mem_singleton.mp hx
      exact ⟨c, (hadd s.parties.length).trans (if_pos rfl)⟩
  | get request key resume =>
    have hstep : Step exchange s (.begin c) _ := .begun hruns
    have hother : ∀ w ∈ o.waiting, s.Awaits w ∧ w.call ≠ s.parties.length := fun w hw =>
      ⟨shows.waiting w hw, Nat.ne_of_lt (lt_of_awaits s w (shows.waiting w hw))⟩
    have hlength := length_of_steps (steps_one _ hstep)
    have hrequested := requested_of_ask (o := { o with started := o.started + 1 }) h
      s.parties.length c key resume shows.traffic hother shows.apart
      ((congrArg (· + 1) shows.started).trans hlength.symm) rfl (party?_add _ c _)
    obtain ⟨es, s', hsteps, hcontinues, hafter⟩ := advances_requested script s.parties.length c
      request key resume (fun value => advances_ready script _ c (resume value)) _ _
      (orderly_step h _ hstep) hrequested
    exact ⟨es, s', steps_append (steps_one _ hstep) hsteps, hcontinues, hafter⟩

theorem waiting_of_call (ws : List Waiting) (apart : (ws.map (·.call)).Nodup) (i : Nat) :
    ws.filter (·.call == i) = [] ∨ ∃ w ∈ ws, ws.filter (·.call == i) = [w] ∧ w.call = i := by
  have hapart := apart.sublist ((List.filter_sublist (p := (·.call == i))).map _)
  have hmem : ∀ w ∈ ws.filter (·.call == i), w ∈ ws ∧ w.call = i := by
    intro w hw
    simpa using List.mem_filter.mp hw
  generalize ws.filter (·.call == i) = found at hapart hmem
  match found with
  | [] => exact .inl rfl
  | [w] => exact .inr ⟨w, (hmem w (by simp)).1, rfl, (hmem w (by simp)).2⟩
  | v :: w :: rest => simp [(hmem v (by simp)).2, (hmem w (by simp)).2] at hapart

theorem steps_drop (script : Script) (o : Overlap) (s : Calls γ β) (h : Orderly exchange s)
    (shows : Shows o s) (i : Nat) (after : Overlap × Overlap.Report β)
    (drops : o.step script (.drop i) = after) :
    ∃ es s', Steps exchange s es s' ∧ begun es = [] ∧ (∀ j, .ask j ∉ es) ∧ Shows after.1 s' := by
  subst drops
  have hother : ∀ w ∈ o.waiting.filter (·.call != i), w.call ≠ i := by
    intro w hw
    simpa using (List.mem_filter.mp hw).2
  rcases waiting_of_call o.waiting shows.apart i with hnone | ⟨w, hw, hone, rfl⟩
  · refine ⟨[], s, .none, rfl, by simp, ?_⟩
    refine shows_of_kept shows ?_ rfl rfl List.filter_sublist fun _ _ => ⟨rfl, fun _ _ _ _ => rfl⟩
    rw [← shows.traffic, Overlap.step, hnone]
    rfl
  · obtain ⟨⟨c, resume, found⟩, -⟩ := shows.waiting w hw
    obtain ⟨-, f, -, hf, hawaited⟩ := h.waiting w.call c w.request resume found
    have hdrop := Traffic.step_eq_some_of_step _ _ _ (.drop hf hawaited)
    have hstep : Step exchange s (.drop w.call) _ := .dropped found hdrop
    refine ⟨_, _, steps_one _ hstep, rfl, by simp, ?_⟩
    refine shows_of_kept shows ?_ rfl (length_of_steps (steps_one _ hstep)) List.filter_sublist
      fun v hv => kept_step h _ hstep w.call rfl v.call (hother v hv)
    rw [Overlap.step, hone, shows.traffic]
    simp only [List.map_cons, List.map_nil, Traffic.advanceAll, List.foldl_cons, List.foldl_nil,
      Traffic.advance, hdrop, Option.getD_some]
    rfl

/-- Only the call begun last makes further requests. -/
def NewestAsks (es : List (Event γ)) : Prop :=
  ∀ before j after, es = before ++ .ask j :: after → (begun before).length = j + 1

theorem newestAsks_concat (es : List (Event γ)) (h : NewestAsks es) (e : Event γ)
    (last : ∀ j, e = .ask j → (begun es).length = j + 1) : NewestAsks (es ++ [e]) := by
  intro before j after hes
  rcases List.eq_nil_or_concat after with rfl | ⟨rest, x, rfl⟩
  · obtain ⟨rfl, he⟩ := List.append_inj' hes rfl
    exact last j (List.cons.inj he).1
  · have hes' : es ++ [e] = (before ++ .ask j :: rest) ++ [x] := by
      rw [hes, List.concat_eq_append, List.append_assoc, List.cons_append]
    obtain ⟨rfl, -⟩ := List.append_inj' hes' rfl
    exact h before j rest rfl

theorem newestAsks_append (es es' : List (Event γ)) (h : NewestAsks es) (quiet : begun es' = [])
    (last : ∀ j, .ask j ∈ es' → (begun es).length = j + 1) : NewestAsks (es ++ es') := by
  induction es' using List.reverseRecOn with
  | nil => rwa [List.append_nil]
  | append_singleton es' e ih =>
    rw [begun_append, List.append_eq_nil_iff] at quiet
    rw [← List.append_assoc]
    apply newestAsks_concat _ (ih quiet.1 fun j hj => last j (List.mem_append_left _ hj))
    rintro j rfl
    rw [begun_append, quiet.1, List.append_nil]
    exact last j (by simp)

def schedule (exchange : γ → Exchange β) : γ ⊕ Nat → Overlap.Step β
  | .inl c => .start (exchange c)
  | .inr i => .drop i

def started (steps : List (γ ⊕ Nat)) : List γ := steps.filterMap Sum.getLeft?

theorem scheduled_step (script : Script) (o : Overlap) (es : List (Event γ)) (s : Calls γ β)
    (run : Run exchange es s) (shows : Shows o s) (newest : NewestAsks es) (x : γ ⊕ Nat) :
    ∃ es' s', Run exchange es' s' ∧ NewestAsks es' ∧ begun es' = begun es ++ started [x] ∧
      Shows (o.step script (schedule exchange x)).1 s' ∧
      s'.Reported (o.step script (schedule exchange x)).2.ended := by
  have h := orderly_of_run exchange es s run
  have hlength : (begun es).length = s.parties.length := by
    simpa using (congrArg List.length (calls_of_run run)).symm
  cases x with
  | inl c =>
    obtain ⟨es', s', hsteps, hcontinues, hafter⟩ := steps_start script o s h shows c
    have hquiet := begun_of_continues _ es' hcontinues
    refine ⟨_, s', run_append run hsteps, ?_, ?_, hafter⟩
    · rw [← List.singleton_append, ← List.append_assoc]
      apply newestAsks_append _ es' (newestAsks_concat es newest (.begin c) nofun) hquiet
      intro j hj
      obtain rfl := (hcontinues (.ask j) hj).2 j rfl
      rw [begun_append, List.length_append, hlength]
      rfl
    · rw [← List.singleton_append, begun_append, begun_append, hquiet, List.append_nil]
      rfl
  | inr i =>
    obtain ⟨es', s', hsteps, hquiet, hasks, hshows⟩ := steps_drop script o s h shows i _ rfl
    refine ⟨_, s', run_append run hsteps, ?_, ?_, hshows, fun x hx => absurd hx List.not_mem_nil⟩
    · exact newestAsks_append es es' newest hquiet fun j hj => absurd hj (hasks j)
    · rw [begun_append, hquiet]
      rfl

/-- Whatever is done with calls that run as far as they can, what is reported of them at any time
is what they come to in some run in which only the call begun last makes further requests. -/
theorem scheduled_run (script : Script) (steps : List (γ ⊕ Nat)) (o : Overlap)
    (es : List (Event γ)) (s : Calls γ β) (run : Run exchange es s) (shows : Shows o s)
    (newest : NewestAsks es) (report : Overlap.Report β)
    (reported : report ∈ Overlap.run script o (steps.map (schedule exchange))) :
    ∃ es' s', Run exchange es' s' ∧ NewestAsks es' ∧
      begun es' <+: begun es ++ started steps ∧ s'.Reported report.ended := by
  induction steps generalizing o es s with
  | nil => exact absurd reported List.not_mem_nil
  | cons x steps ih =>
    obtain ⟨es', s', hrun, hnewest, hbegun, hshows, hended⟩ :=
      scheduled_step script o es s run shows newest x
    have hstarted : begun es ++ started (x :: steps) = begun es' ++ started steps := by
      rw [hbegun, List.append_assoc]
      exact congrArg (begun es ++ ·) (List.filterMap_append (l := [x]))
    rw [hstarted]
    rcases List.mem_cons.mp reported with rfl | hrest
    · refine ⟨es', s', hrun, hnewest, List.prefix_append _ _, fun y hy => ?_⟩
      exact hended y (List.mem_mergeSort.mp hy)
    · exact ih _ es' s' hrun hshows hnewest hrest

/-- Among calls that run as far as they can the newest one wins: when a call is reported to have
ended as cancelled, another one with its key was started after it. -/
theorem newer_call_of_cancelled {α : Type} (script : Script) (steps : List (Call α ⊕ Nat))
    (report : Overlap.Report (Call.Given α))
    (reported : report ∈ Overlap.run script {} (steps.map (schedule Call.exchange)))
    (x : Ended (Call.Given α)) (ended : x ∈ report.ended) (key : String)
    (cancelled : x.result = .error (.cancelled key)) :
    ∃ c, (started steps)[x.call]? = some c ∧ c.key = some key ∧
      ∃ j other, x.call < j ∧ (started steps)[j]? = some other ∧ other.key = some key := by
  obtain ⟨es, s, hrun, hnewest, hbegun, hended⟩ := scheduled_run script steps {} [] {} .start
    ⟨rfl, rfl, by simp, by simp⟩ (by simp [NewestAsks]) report reported
  have hstarted : ∀ (calls : List (Call α)) (i : Nat) (c : Call α), calls <+: begun es →
      calls[i]? = some c → (started steps)[i]? = some c := by
    intro calls i c hprefix hc
    obtain ⟨rest, hrest⟩ := hprefix.trans hbegun
    have hi : i < calls.length := (List.getElem?_eq_some_iff.mp hc).1
    rw [show started steps = calls ++ rest from hrest.symm, List.getElem?_append_left hi, hc]
  have hcall : ∀ {before} {mid : Calls (Call α) (Call.Given α)} {i : Nat} {c : Call α} {stage},
      Run Call.exchange before mid → mid.party? i = some ⟨c, stage⟩ →
      (begun before)[i]? = some c := by
    intro before mid i c stage hmid hparty
    rw [← calls_of_run hmid, List.getElem?_map, show mid.parties[i]? = _ from hparty]
    rfl
  obtain ⟨c, hc⟩ := hended x ended
  rw [cancelled] at hc
  obtain ⟨hkey, before, e, after, mid, d, n, resume, other, rfl, hmid, hwaits, hother, hmakes⟩ :=
    (accounted_of_run es s hrun).ended x.call c key hc
  have hbefore : x.call < (begun before).length :=
    (List.getElem?_eq_some_iff.mp (hcall hmid hwaits)).1
  refine ⟨c, hstarted _ _ c (List.prefix_refl _) (hcall hrun hc), hkey, ?_⟩
  rcases hmakes with rfl | ⟨j, stage, rfl, hj, hparty, -⟩
  · refine ⟨(begun before).length, other, hbefore, ?_, hother⟩
    apply hstarted _ _ other (List.prefix_refl _)
    rw [begun_append, List.getElem?_append_right (Nat.le_refl _), Nat.sub_self]
    rfl
  · -- Only the call begun last asks, so it was begun after the one that waits.
    have hlast := hnewest before j after rfl
    have hprefix : begun before <+: begun (before ++ .ask j :: after) := by
      rw [begun_append]
      exact List.prefix_append _ _
    exact ⟨j, other, by omega, hstarted _ j other hprefix (hcall hmid hparty), hother⟩

end RecordSelection.Calls
