import RecordSelection.Proofs.Client.Calls

/-!
# Some steps of calls

What any number of steps does to the calls on a client: an ended call stays as it is, the calls are
those that were begun, and a call that takes no step of its own is left alone while no request is
made. How a call comes to the end of a request, if it was aborted and if it was not.
-/

set_option autoImplicit false

namespace RecordSelection.Calls

variable {γ β : Type} {exchange : γ → Exchange β}

inductive Steps (exchange : γ → Exchange β) (s : Calls γ β) :
    List (Event γ) → Calls γ β → Prop where
  | none : Steps exchange s [] s
  | more {es : List (Event γ)} {s' s'' : Calls γ β} (e : Event γ)
      (steps : Steps exchange s es s') (next : Step exchange s' e s'') :
      Steps exchange s (es ++ [e]) s''

theorem steps_append {s s' s'' : Calls γ β} {es es' : List (Event γ)}
    (first : Steps exchange s es s') (rest : Steps exchange s' es' s'') :
    Steps exchange s (es ++ es') s'' := by
  induction rest with
  | none => rwa [List.append_nil]
  | more e _ next ih =>
    rw [← List.append_assoc]
    exact .more e ih next

theorem steps_one {s s' : Calls γ β} (e : Event γ) (next : Step exchange s e s') :
    Steps exchange s [e] s' := .more e .none next

theorem run_append {s s' : Calls γ β} {es es' : List (Event γ)} (run : Run exchange es s)
    (steps : Steps exchange s es' s') : Run exchange (es ++ es') s' := by
  induction steps with
  | none => rwa [List.append_nil]
  | more e _ next ih =>
    rw [← List.append_assoc]
    exact .step e ih next

theorem party?_of_steps_done {s s' : Calls γ β} {es : List (Event γ)}
    (steps : Steps exchange s es s') (i : Nat) (c : γ) (result : Except ClientFault β)
    (ended : s.party? i = some ⟨c, .ready (.done result)⟩) :
    s'.party? i = some ⟨c, .ready (.done result)⟩ := by
  induction steps with
  | none => exact ended
  | @more _ s' s'' e _ next ih =>
    have hother : ∀ j stage (p : Party γ β), s'.party? j = some p →
        p.stage ≠ .ready (.done result) → ∀ t,
        ({ s' with traffic := t }.put j p.call stage).party? i =
          some ⟨c, .ready (.done result)⟩ := by
      intro j stage p hj hstage t
      have hij : i ≠ j := by
        rintro rfl
        obtain rfl := Option.some.inj (hj.symm.trans ih)
        exact hstage rfl
      exact (party?_put _ j p.call p stage hj i).trans ((if_neg hij).trans ih)
    have hold : ∀ d stage t, ({ s' with traffic := t }.add d stage).party? i =
        some ⟨c, .ready (.done result)⟩ := by
      intro d stage t
      have hi : i < s'.parties.length := (List.getElem?_eq_some_iff.mp ih).1
      exact (party?_add _ d stage i).trans ((if_neg (Nat.ne_of_lt hi)).trans ih)
    cases next with
    | ended _ => exact hold _ _ _
    | begun _ => exact hold _ _ _
    | asked found => exact hother _ _ _ found nofun _
    | finished _ _ => exact ih
    | resumed _ found _ _ => exact hother _ _ _ found nofun _
    | dropped found _ => exact hother _ _ _ found nofun _

theorem step_cancelled {s : Calls γ β} (h : Orderly exchange s) (i : Nat) (c : γ) (n : Nat)
    (resume : Json → Exchange β) (found : s.party? i = some ⟨c, .waiting n resume⟩)
    (aborted : s.traffic.isAborted n = true) (fetched : Fetched) :
    ∃ s', Step exchange s (.resume i fetched) s' ∧ s.traffic.step (.resume n) = some s'.traffic ∧
      s'.party? i =
        some ⟨c, .ready (.done (.error (.cancelled ((s.traffic.keyOf? n).getD ""))))⟩ := by
  obtain ⟨request, f, -, hf, hawaited⟩ := h.waiting i c n resume found
  have hended : f.task = .aborted := by simpa [Traffic.isAborted, hf] using aborted
  have hstep := Traffic.step_eq_some_of_step _ _ _ (.cancelled hf hawaited hended)
  have hgot : (s.traffic.release n f (some .cancelled)).result? (fun _ => fetched) n =
      some (.error (.cancelled (f.key.getD ""))) := by
    simp [Traffic.result?, Traffic.flight?_release _ n f _ hf]
  rw [Traffic.keyOf?_eq _ n f hf]
  exact ⟨_, .resumed fetched found hstep hgot, hstep,
    (party?_put _ i c _ _ found i).trans (if_pos rfl)⟩

theorem steps_answered {s : Calls γ β} (h : Orderly exchange s) (i : Nat) (c : γ) (n : Nat)
    (resume : Json → Exchange β) (found : s.party? i = some ⟨c, .waiting n resume⟩) (f : Flight)
    (hf : s.traffic.flight? n = some f) (runs : f.task = .running) (fetched : Fetched) :
    ∃ s', Steps exchange s [.finish i, .resume i fetched] s' ∧
      s'.traffic = s.traffic.advanceAll [.finish n, .resume n] ∧
      s'.party? i = some ⟨c, .ready ((Exchange.done fetched.outcome).bind resume)⟩ := by
  obtain ⟨request, g, -, hg, hawaited⟩ := h.waiting i c n resume found
  obtain rfl := Option.some.inj (hg.symm.trans hf)
  let ended : Flight := { g with task := .finished }
  let t := s.traffic.set n ended
  have hended : t.flight? n = some ended :=
    (Traffic.flight?_set _ n g ended hf n).trans (if_pos rfl)
  have hfinish : s.traffic.step (.finish n) = some t :=
    Traffic.step_eq_some_of_step _ _ _ (.finish hf runs)
  have hresume : t.step (.resume n) = some (t.release n ended (some .answer)) :=
    Traffic.step_eq_some_of_step _ _ _ (.answer hended hawaited rfl)
  have hgot : (t.release n ended (some .answer)).result? (fun _ => fetched) n =
      some fetched.outcome := by
    simp [Traffic.result?, Traffic.flight?_release t n ended _ hended]
  have hall : s.traffic.advanceAll [.finish n, .resume n] = t.release n ended (some .answer) := by
    simp only [Traffic.advanceAll, List.foldl_cons, List.foldl_nil, Traffic.advance, hfinish,
      hresume, Option.getD_some]
  have hsteps : Steps exchange s [.finish i, .resume i fetched] _ :=
    .more _ (steps_one _ (.finished found hfinish)) (.resumed fetched found hresume hgot)
  exact ⟨_, hsteps, hall.symm, (party?_put _ i c _ _ found i).trans (if_pos rfl)⟩

def Event.call? : Event γ → Option Nat
  | .begin _ => none
  | .ask _ => none
  | .finish i => some i
  | .resume i _ => some i
  | .drop i => some i

def Event.begun? : Event γ → Option γ
  | .begin c => some c
  | _ => none

def begun (es : List (Event γ)) : List γ := es.filterMap Event.begun?

theorem begun_append (es es' : List (Event γ)) : begun (es ++ es') = begun es ++ begun es' :=
  List.filterMap_append

theorem orderly_of_steps {s s' : Calls γ β} {es : List (Event γ)} (h : Orderly exchange s)
    (steps : Steps exchange s es s') : Orderly exchange s' := by
  induction steps with
  | none => exact h
  | more e _ next ih => exact orderly_step ih e next

theorem calls_put (s : Calls γ β) (i : Nat) (c : γ) (old stage : Stage β)
    (found : s.party? i = some ⟨c, old⟩) :
    (s.put i c stage).parties.map (·.call) = s.parties.map (·.call) := by
  apply List.ext_getElem?
  intro j
  have hput : (s.put i c stage).parties[j]? = _ := party?_put s i c _ stage found j
  rw [List.getElem?_map, List.getElem?_map, hput]
  split
  · rename_i hj
    rw [hj, show s.parties[i]? = _ from found]
    rfl
  · rfl

theorem calls_of_steps {s s' : Calls γ β} {es : List (Event γ)} (steps : Steps exchange s es s') :
    s'.parties.map (·.call) = s.parties.map (·.call) ++ begun es := by
  induction steps with
  | none => simp [begun]
  | @more _ s' _ e _ next ih =>
    rw [begun_append, ← List.append_assoc, ← ih]
    cases next with
    | ended _ => exact List.map_append
    | begun _ => exact List.map_append
    | asked found =>
      exact (calls_put { s' with traffic := _ } _ _ _ _ found).trans (List.append_nil _).symm
    | finished _ _ => exact (List.append_nil _).symm
    | resumed _ found _ _ =>
      exact (calls_put { s' with traffic := _ } _ _ _ _ found).trans (List.append_nil _).symm
    | dropped found _ =>
      exact (calls_put { s' with traffic := _ } _ _ _ _ found).trans (List.append_nil _).symm

theorem length_of_steps {s s' : Calls γ β} {es : List (Event γ)} (steps : Steps exchange s es s') :
    s'.parties.length = s.parties.length + (begun es).length := by
  simpa using congrArg List.length (calls_of_steps steps)

theorem calls_of_run {es : List (Event γ)} {s : Calls γ β} (run : Run exchange es s) :
    s.parties.map (·.call) = begun es := by
  induction run with
  | start => rfl
  | step e _ next ih => rw [calls_of_steps (steps_one e next), ih, begun_append]

structure Kept (s s' : Calls γ β) (i : Nat) : Prop where
  party : s'.party? i = s.party? i
  flight : ∀ c n resume, s.party? i = some ⟨c, .waiting n resume⟩ →
    s'.traffic.flight? n = s.traffic.flight? n

theorem kept_step {s s' : Calls γ β} (h : Orderly exchange s) (e : Event γ)
    (hs : Step exchange s e s') (i : Nat) (own : e.call? = some i) (j : Nat) (hj : j ≠ i) :
    Kept s s' j := by
  have hflight {n c resume t} (te : Traffic.Event) (hown : te.request? = some n)
      (hregister : ∀ k, te ≠ .register k) (found : s.party? i = some ⟨c, .waiting n resume⟩)
      (next : s.traffic.step te = some t) : ∀ d m rest,
      s.party? j = some ⟨d, .waiting m rest⟩ → t.flight? m = s.traffic.flight? m :=
    fun d m rest hd =>
      flight?_of_other h i c n resume found te hown hregister t next j d m rest hd hj
  cases hs with
  | ended _ => exact nomatch own
  | begun _ => exact nomatch own
  | asked _ => exact nomatch own
  | finished found next =>
    obtain rfl := Option.some.inj own
    exact ⟨rfl, hflight (.finish _) rfl nofun found next⟩
  | resumed _ found next _ =>
    obtain rfl := Option.some.inj own
    exact ⟨(party?_put _ _ _ _ _ found j).trans (if_neg hj),
      hflight (.resume _) rfl nofun found next⟩
  | dropped found next =>
    obtain rfl := Option.some.inj own
    exact ⟨(party?_put _ _ _ _ _ found j).trans (if_neg hj),
      hflight (.drop _) rfl nofun found next⟩

theorem kept_of_steps {s s' : Calls γ β} {es : List (Event γ)} (h : Orderly exchange s)
    (steps : Steps exchange s es s') (j : Nat)
    (others : ∀ e ∈ es, ∃ i, e.call? = some i ∧ j ≠ i) : Kept s s' j := by
  induction steps with
  | none => exact ⟨rfl, fun _ _ _ _ => rfl⟩
  | more e steps next ih =>
    have hbefore := ih fun e he => others e (List.mem_append_left _ he)
    obtain ⟨i, hown, hj⟩ := others e (by simp)
    have hlast := kept_step (orderly_of_steps h steps) e next i hown j hj
    refine ⟨hlast.party.trans hbefore.party, fun c n resume hc => ?_⟩
    rw [hlast.flight c n resume (hbefore.party.trans hc), hbefore.flight c n resume hc]

end RecordSelection.Calls
