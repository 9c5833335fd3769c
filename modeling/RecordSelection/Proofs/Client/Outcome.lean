import Mathlib.Data.List.Basic
import RecordSelection.Client.Transport
import RecordSelection.Proofs.Client.Change

/-!
# What the caller of a request sees

A request is superseded when another one is registered under its key before its task has ended.
Over every run these are exactly the requests whose callers see that they were cancelled; all other
callers that see an end see what the request itself came to.
-/

set_option autoImplicit false

namespace RecordSelection

theorem statusFault_ne_cancelled (status : Nat) (body key : String) :
    Response.statusFault status body ≠ .cancelled key := by
  unfold Response.statusFault
  dsimp only
  repeat' split
  all_goals simp

theorem outcome_ne_cancelled (r : Response) (key : String) :
    r.outcome ≠ .error (.cancelled key) := by
  unfold Response.outcome
  split
  · simp
  · split
    · cases Json.read Json.Reader.any r.body <;> simp [Except.mapError]
    · simpa using statusFault_ne_cancelled r.status r.body key

structure Fetched where
  outcome : Except ClientFault Json
  own : ∀ key, outcome ≠ .error (.cancelled key)

namespace Fetched

def ofResponse (r : Response) : Fetched := ⟨r.outcome, outcome_ne_cancelled r⟩

def ofFailure (reason : String) : Fetched := ⟨.error (.network reason), by simp⟩

end Fetched

namespace Traffic

/-- What the caller of a request has got, if it has seen the end: what the request came to, or
that a newer one took its place. -/
def result? (t : Traffic) (fetched : Nat → Fetched) (n : Nat) :
    Option (Except ClientFault Json) := do
  let f ← t.flight? n
  let seen ← f.seen
  match seen with
  | .answer => some (fetched n).outcome
  | .cancelled => some (.error (.cancelled (f.key.getD "")))

/-- After the request was registered, and before its task had ended, another one was registered
under its key. -/
def Superseded (es : List Event) (t : Traffic) (n : Nat) : Prop :=
  ∃ before m after, es = before ++ .register m :: after ∧ m ≠ n ∧ t.keyOf? m = t.keyOf? n ∧
    .register n ∈ before ∧ .finish n ∉ before

theorem mem_registered (es : List Event) (n : Nat) : n ∈ registered es ↔ .register n ∈ es := by
  unfold registered
  rw [List.mem_filterMap]
  constructor
  · rintro ⟨e, he, hn⟩
    cases e <;> simp_all
  · exact fun h => ⟨_, h, rfl⟩

theorem keyOf?_of_step (es : List Event) (e : Event) (t t' : Traffic) (h : Exact es t)
    (hs : Step t e t') (n : Nat) (f : Flight) (hf : t.flight? n = some f) :
    t'.keyOf? n = t.keyOf? n := by
  obtain ⟨f', hf', hchange⟩ := change_of_step es e t t' h hs n f hf
  rw [keyOf?_eq t n f hf, keyOf?_eq t' n f' hf', change_key t n f f' e hchange]

theorem lt_next_of_mem (es : List Event) (t : Traffic) (run : Run es t) (e : Event) (n : Nat)
    (he : e ∈ es) (hn : e.request? = some n) : n < t.next := by
  induction run with
  | start => simp at he
  | @step es t t' e' _ hnext ih =>
    have hs := step_of_eq_some t t' e' hnext
    have hle : t.next ≤ t'.next := by
      rw [next_of_step t t' e' hs]
      split <;> omega
    rcases List.mem_append.mp he with he | he
    · exact Nat.lt_of_lt_of_le (ih he) hle
    · obtain rfl := List.mem_singleton.mp he
      have hfound : t.flight? n ≠ none := by
        intro hnone
        cases hs <;> simp_all [Event.request?]
      rw [ne_eq, flight?_eq_none_iff] at hfound
      omega

theorem not_mem_of_next (es : List Event) (t : Traffic) (run : Run es t) (e : Event)
    (hn : e.request? = some t.next) : e ∉ es :=
  fun he => Nat.lt_irrefl _ (lt_next_of_mem es t run e t.next he hn)

theorem superseded_step (es : List Event) (e : Event) (t t' : Traffic) (h : Exact es t)
    (hs : Step t e t') (n : Nat) (f : Flight) (hf : t.flight? n = some f) :
    Superseded (es ++ [e]) t' n ↔ Superseded es t n ∨
      ∃ m, e = .register m ∧ m ≠ n ∧ t.keyOf? m = t.keyOf? n ∧
        .register n ∈ es ∧ .finish n ∉ es := by
  have hn := keyOf?_of_step es e t t' h hs n f hf
  have hkey : ∀ m, .register m ∈ es ++ [e] → t'.keyOf? m = t.keyOf? m := by
    intro m hm
    obtain ⟨g, hg⟩ : ∃ g, t.flight? m = some g := by
      rcases List.mem_append.mp hm with hm | hm
      · obtain ⟨g, -, hg, -⟩ := h.entered m ((mem_registered es m).mpr hm)
        exact ⟨g, hg⟩
      · obtain rfl := List.mem_singleton.mp hm
        cases hs with
        | register found _ _ _ => exact ⟨_, found⟩
    exact keyOf?_of_step es e t t' h hs m g hg
  constructor
  · rintro ⟨before, m, after, hes, hm, hsame, hreg, hfin⟩
    rw [hn, hkey m (hes ▸ by simp)] at hsame
    rcases List.eq_nil_or_concat after with rfl | ⟨rest, last, rfl⟩
    · obtain ⟨rfl, hlast⟩ := List.append_inj' hes rfl
      exact .inr ⟨m, by simpa using hlast, hm, hsame, hreg, hfin⟩
    · have hes' : es ++ [e] = (before ++ .register m :: rest) ++ [last] := by
        rw [hes, List.concat_eq_append, List.append_assoc, List.cons_append]
      obtain ⟨rfl, -⟩ := List.append_inj' hes' rfl
      exact .inl ⟨before, m, rest, rfl, hm, hsame, hreg, hfin⟩
  · rintro (⟨before, m, after, rfl, hm, hsame, hreg, hfin⟩ | ⟨m, rfl, hm, hsame, hreg, hfin⟩)
    · refine ⟨before, m, after ++ [e], by simp, hm, ?_, hreg, hfin⟩
      rw [hn, hkey m (by simp), hsame]
    · refine ⟨es, m, [], rfl, hm, ?_, hreg, hfin⟩
      rw [hn, hkey m (by simp), hsame]

/-- What the steps of a run say of one request. -/
structure Told (es : List Event) (t : Traffic) (n : Nat) (f : Flight) : Prop where
  finished : f.task = .finished ↔ .finish n ∈ es
  aborted : f.task = .aborted → f.released = true ∨ Superseded es t n
  superseded : Superseded es t n → f.task = .aborted
  answered : f.seen = some .answer → f.task = .finished
  cancelled : f.seen = some .cancelled → Superseded es t n

theorem heldBy_of_running (es : List Event) (t : Traffic) (h : Exact es t) (n : Nat) (f : Flight)
    (key : String) (hf : t.flight? n = some f) (hkey : f.key = some key) (hreg : .register n ∈ es)
    (hrun : f.task = .running) : t.HeldBy key n := by
  have hmem : n ∈ registeredUnder es t key := by
    rw [mem_registeredUnder, mem_registered, keyOf?_eq t n f hf]
    exact ⟨hreg, hkey⟩
  exact running_holds es t h n f key hf hrun (h.latest n f key hf hmem hrun)

theorem registered_of_heldBy (es : List Event) (t : Traffic) (h : Exact es t) (n : Nat)
    (key : String) (held : t.HeldBy key n) : .register n ∈ es ∧ t.keyOf? n = some key := by
  obtain ⟨holder, hholder, rfl⟩ := Option.map_eq_some_iff.mp held
  obtain ⟨hlast, -⟩ := (h.holder key holder).mp hholder
  obtain ⟨hreg, hkey⟩ := (mem_registeredUnder es t key _).mp (List.mem_of_getLast? hlast)
  exact ⟨(mem_registered es _).mp hreg, hkey⟩

theorem aborted_of_unheld (es : List Event) (m : Nat) (t t' : Traffic) (h : Exact es t)
    (hs : Step t (.register m) t') (n : Nat) (f : Flight) (hf : t.flight? n = some f)
    (ht : Told es t n f) (hsame : t.keyOf? m = t.keyOf? n) (hreg : .register n ∈ es)
    (hfin : .finish n ∉ es) (unheld : ∀ key, t.keyOf? m = some key → ¬t.HeldBy key n) :
    f.task = .aborted := by
  cases hs with
  | @register _ g key found keyed _ _ =>
    have hm := (keyOf?_eq t m g found).trans keyed
    have hkey : f.key = some key := (keyOf?_eq t n f hf).symm.trans (hsame.symm.trans hm)
    cases htask : f.task with
    | running =>
      exact absurd (heldBy_of_running es t h n f key hf hkey hreg htask) (unheld key hm)
    | finished => exact absurd (ht.finished.mp htask) hfin
    | aborted => rfl

theorem told_of_task_eq (es : List Event) (e : Event) (t t' : Traffic) (n : Nat) (f f' : Flight)
    (ht : Told es t n f) (hfin : .finish n ∈ es ++ [e] ↔ .finish n ∈ es)
    (hsup : Superseded (es ++ [e]) t' n ↔ Superseded es t n) (htask : f'.task = f.task)
    (hreleased : f.released = true → f'.released = true)
    (hanswered : f'.seen = some .answer → f'.task = .finished)
    (hcancelled : f'.seen = some .cancelled → Superseded es t n) : Told (es ++ [e]) t' n f' where
  finished := by rw [htask, hfin, ht.finished]
  aborted := by
    rw [htask, hsup]
    exact fun ha => (ht.aborted ha).imp_left hreleased
  superseded := by
    rw [htask, hsup]
    exact ht.superseded
  answered := hanswered
  cancelled := fun hc => hsup.mpr (hcancelled hc)

/-- A request that loses its key while it runs is aborted, and superseded from then on. -/
theorem told_evicted (es : List Event) (m : Nat) (t t' : Traffic) (h : Exact es t)
    (hs : Step t (.register m) t') (n : Nat) (f : Flight) (key : String)
    (hf : t.flight? n = some f) (other : m ≠ n) (keyed : t.keyOf? m = some key)
    (held : t.HeldBy key n) (ht : Told es t n f) : Told (es ++ [.register m]) t' n f.abort := by
  have hsup := superseded_step es (.register m) t t' h hs n f hf
  have hfin : .finish n ∈ es ++ [.register m] ↔ .finish n ∈ es := by simp
  obtain ⟨hreg, hkey⟩ := registered_of_heldBy es t h n key held
  have hnew : f.task ≠ .finished → Superseded (es ++ [.register m]) t' n := fun hne =>
    hsup.mpr (.inr ⟨m, rfl, other, keyed.trans hkey.symm, hreg, fun hmem =>
      hne (ht.finished.mpr hmem)⟩)
  cases htask : f.task with
  | running =>
    rw [abort_running f htask]
    have hS := hnew (by simp [htask])
    have hno : .finish n ∉ es := fun hmem => by simpa [htask] using ht.finished.mpr hmem
    refine ⟨by simp [hno], fun _ => .inr hS, fun _ => rfl, ?_, fun _ => hS⟩
    intro ha
    exact absurd (ht.answered ha) (by simp [htask])
  | finished =>
    -- The task has ended, so nothing can be done to it any more.
    rw [abort_eq_self f (by simp [htask])]
    have hsame : Superseded (es ++ [.register m]) t' n ↔ Superseded es t n := by
      rw [hsup]
      refine or_iff_left ?_
      rintro ⟨-, -, -, -, -, hno⟩
      exact hno (ht.finished.mp htask)
    exact told_of_task_eq es _ t t' n f f ht hfin hsame rfl id ht.answered ht.cancelled
  | aborted =>
    rw [abort_eq_self f (by simp [htask])]
    have hS := hnew (by simp [htask])
    exact ⟨ht.finished.trans hfin.symm, fun _ => .inr hS, fun _ => htask, ht.answered, fun _ => hS⟩

theorem told_step (es : List Event) (e : Event) (t t' : Traffic) (h : Exact es t)
    (hs : Step t e t') (n : Nat) (f f' : Flight) (hf : t.flight? n = some f)
    (hchange : Change t n f e f') (ht : Told es t n f) : Told (es ++ [e]) t' n f' := by
  have hsup := superseded_step es e t t' h hs n f hf
  have hfin : e ≠ .finish n → (.finish n ∈ es ++ [e] ↔ .finish n ∈ es) := by
    intro hne
    simp [Ne.symm hne]
  have hquiet : (∀ m, e = .register m → m = n) →
      (Superseded (es ++ [e]) t' n ↔ Superseded es t n) := by
    intro hno
    rw [hsup]
    refine or_iff_left ?_
    rintro ⟨m, rfl, hm, -⟩
    exact hm (hno m rfl)
  cases hchange with
  | stays _ other unheld =>
    have hne : e ≠ .finish n := fun he => other (by rw [he]; rfl)
    refine ⟨ht.finished.trans (hfin hne).symm, ?_, ?_, ht.answered, ?_⟩
    · exact fun ha => (ht.aborted ha).imp_right fun hS => hsup.mpr (.inl hS)
    · intro hS
      rcases hsup.mp hS with hS | ⟨m, rfl, -, hsame, hreg, hno⟩
      · exact ht.superseded hS
      · exact aborted_of_unheld es m t t' h hs n f hf ht hsame hreg hno fun key => unheld m key rfl
    · exact fun hc => hsup.mpr (.inl (ht.cancelled hc))
  | evicted m key other keyed held =>
    exact told_evicted es m t t' h hs n f key hf other keyed held ht
  | registered ticket keyed fresh kept =>
    exact told_of_task_eq es _ t t' n f _ ht (hfin (by simp)) (hquiet (by simp)) rfl id
      ht.answered ht.cancelled
  | finished runs =>
    have hno : ¬Superseded es t n := fun hS => by simpa [runs] using ht.superseded hS
    refine ⟨by simp, by simp, ?_, by simp, fun hc => absurd (ht.cancelled hc) hno⟩
    intro hS
    exact absurd ((hquiet (by simp)).mp hS) hno
  | answered awaited ended =>
    exact told_of_task_eq es _ t t' n f _ ht (hfin (by simp)) (hquiet (by simp)) rfl (fun _ => rfl)
      (fun _ => ended) (by simp)
  | cancelled awaited ended =>
    have hS : Superseded es t n := by
      refine (ht.aborted ended).resolve_left fun hreleased => ?_
      simp [Flight.isAwaited, hreleased] at awaited
    exact told_of_task_eq es _ t t' n f _ ht (hfin (by simp)) (hquiet (by simp)) rfl (fun _ => rfl)
      (by simp) (fun _ => hS)
  | dropped awaited =>
    have hsame := hquiet (by simp)
    refine ⟨?_, fun _ => .inl rfl, ?_, by simp, by simp⟩
    · rw [hfin (by simp), ← ht.finished]
      cases htask : f.task <;> simp [Flight.abort, htask]
    · intro hS
      have htask := ht.superseded (hsame.mp hS)
      rw [abort_eq_self f (by simp [htask])]
      exact htask

theorem told_of_run (es : List Event) (t : Traffic) (run : Run es t) (n : Nat) (f : Flight)
    (hf : t.flight? n = some f) : Told es t n f := by
  induction run generalizing n f with
  | start => simp [flight?] at hf
  | @step es t t' e run hnext ih =>
    have h := exact_of_run es t run
    have hs := step_of_eq_some t t' e hnext
    cases hold : t.flight? n with
    | some g =>
      obtain ⟨f', hf', hchange⟩ := change_of_step es e t t' h hs n g hold
      obtain rfl := Option.some.inj (hf'.symm.trans hf)
      exact told_step es e t t' h hs n g f' hold hchange (ih n g hold)
    | none =>
      obtain ⟨key, rfl, rfl, rfl⟩ := spawned_of_step t t' e hs n f hf hold
      have hno : .finish t.next ∉ es := not_mem_of_next es t run _ rfl
      have hS : ¬Superseded (es ++ [.spawn key]) t' t.next := by
        rintro ⟨before, m, after, hes, -, -, hreg, -⟩
        have hmem : .register t.next ∈ es ++ [.spawn key] := by
          rw [hes]
          exact List.mem_append_left _ hreg
        simp [not_mem_of_next es t run (.register t.next) rfl] at hmem
      exact ⟨by simp [hno], by simp, fun hcase => absurd hcase hS, by simp, by simp⟩

/-- The caller of a request that has seen its end saw that it was cancelled exactly if the request
was superseded. -/
theorem seen_eq_cancelled_iff (es : List Event) (t : Traffic) (run : Run es t) (n : Nat)
    (f : Flight) (hf : t.flight? n = some f) (resumed : f.seen ≠ none) :
    f.seen = some .cancelled ↔ Superseded es t n := by
  have ht := told_of_run es t run n f hf
  refine ⟨ht.cancelled, fun hS => ?_⟩
  obtain ⟨seen, hseen⟩ := Option.ne_none_iff_exists'.mp resumed
  cases seen with
  | answer =>
    have hend := ht.answered hseen
    exact absurd (hend.symm.trans (ht.superseded hS)) (by simp)
  | cancelled => exact hseen

theorem result?_of_answer (t : Traffic) (fetched : Nat → Fetched) (n : Nat) (f : Flight)
    (hf : t.flight? n = some f) (hseen : f.seen = some .answer) :
    t.result? fetched n = some (fetched n).outcome := by
  simp [result?, hf, hseen]

theorem result?_of_cancelled (t : Traffic) (fetched : Nat → Fetched) (n : Nat) (f : Flight)
    (hf : t.flight? n = some f) (hseen : f.seen = some .cancelled) :
    t.result? fetched n = some (.error (.cancelled (f.key.getD ""))) := by
  simp [result?, hf, hseen]

theorem registered_of_run (es : List Event) (t : Traffic) (run : Run es t) :
    (registered es).Nodup ∧ ∀ n ∈ registered es, ∃ key, t.keyOf? n = some key := by
  induction run with
  | start => simp [registered]
  | @step es t t' e run hnext ih =>
    have h := exact_of_run es t run
    have hs := step_of_eq_some t t' e hnext
    obtain ⟨hnodup, hkeyed⟩ := ih
    have hold : ∀ n ∈ registered es, ∃ key, t'.keyOf? n = some key := by
      intro n hn
      obtain ⟨f, -, hf, -⟩ := h.entered n hn
      rw [keyOf?_of_step es e t t' h hs n f hf]
      exact hkeyed n hn
    cases hs with
    | @register n f key found keyed fresh _ =>
      have hnew : n ∉ registered es := by
        intro hn
        obtain ⟨g, ticket, hg, hticket⟩ := h.entered n hn
        exact ne_of_ticket t n n f g ticket found fresh hg hticket rfl
      rw [registered_register]
      constructor
      · rw [List.nodup_append]
        refine ⟨hnodup, by simp, fun a ha b hb => ?_⟩
        rintro rfl
        exact hnew (List.mem_singleton.mp hb ▸ ha)
      · intro m hm
        rcases List.mem_append.mp hm with hm | hm
        · exact hold m hm
        · obtain rfl := List.mem_singleton.mp hm
          have hs := step_of_eq_some t _ _ hnext
          rw [keyOf?_of_step es _ t _ h hs m f found, keyOf?_eq t m f found]
          exact ⟨key, keyed⟩
    | _ =>
      rw [show registered (es ++ [_]) = registered es by simp [registered]]
      exact ⟨hnodup, hold⟩

theorem key_of_superseded (es : List Event) (t : Traffic) (run : Run es t) (n : Nat) (f : Flight)
    (hf : t.flight? n = some f) (hS : Superseded es t n) : ∃ key, f.key = some key := by
  obtain ⟨before, m, after, rfl, -, -, hreg, -⟩ := hS
  have hn := (mem_registered _ n).mpr (List.mem_append_left (.register m :: after) hreg)
  obtain ⟨key, hkey⟩ := (registered_of_run _ t run).2 n hn
  exact ⟨key, (keyOf?_eq t n f hf).symm.trans hkey⟩

theorem not_superseded_of_last (es : List Event) (t : Traffic) (run : Run es t) (key : String)
    (n : Nat) (hlast : (registeredUnder es t key).getLast? = some n) : ¬Superseded es t n := by
  rintro ⟨before, m, after, rfl, -, hsame, hreg, -⟩
  have hkey := ((mem_registeredUnder _ t key n).mp (List.mem_of_getLast? hlast)).2
  have hnodup := (registered_of_run _ t run).1
  have hsplit : registered (before ++ .register m :: after) =
      registered before ++ m :: registered after := by
    simp [registered]
  have hunder : registeredUnder (before ++ .register m :: after) t key =
      registeredUnder before t key ++ m :: registeredUnder after t key := by
    simp [registeredUnder, hsplit, hsame, hkey]
  rw [hunder, List.getLast?_append_cons] at hlast
  -- So it would have been registered a second time, with the other request or after it.
  have hagain : n ∈ m :: registered after := by
    rcases List.mem_cons.mp (List.mem_of_getLast? hlast) with rfl | hmem
    · exact List.mem_cons_self
    · exact List.mem_cons_of_mem _ ((mem_registeredUnder after t key n).mp hmem).1
  rw [hsplit, List.nodup_append] at hnodup
  exact hnodup.2.2 n ((mem_registered before n).mpr hreg) n hagain rfl

end Traffic

end RecordSelection
