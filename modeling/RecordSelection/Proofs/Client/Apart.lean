import RecordSelection.Proofs.Client.Outcome

/-!
# Requests that share no key

A run in which only some requests take steps is again a run if no other request shares a key with
one of these, and it looks the same to them. The other requests are spawned, so that every request
keeps its number, and then never move. So the outcome of a request depends on those of its key.
-/

set_option autoImplicit false

namespace RecordSelection.Traffic

def stepsOf (P : Nat → Bool) (es : List Event) : List Event := es.filter (·.request?.all P)

structure Alike (f g : Flight) : Prop where
  key : g.key = f.key
  task : g.task = f.task
  ticket : g.ticket = none ↔ f.ticket = none
  released : g.released = f.released
  seen : g.seen = f.seen

/-- The requests of the first state are in the second, and some of them look the same there. -/
structure Mirrors (P : Nat → Bool) (t u : Traffic) : Prop where
  next : u.next = t.next
  keys : ∀ n, u.keyOf? n = t.keyOf? n
  alike : ∀ n f g, P n = true → t.flight? n = some f → u.flight? n = some g → Alike f g

def Closed (P : Nat → Bool) (t : Traffic) : Prop :=
  ∀ n m key, P n = true → t.keyOf? n = some key → t.keyOf? m = some key → P m = true

variable (P : Nat → Bool)

theorem registered_stepsOf (es : List Event) :
    registered (stepsOf P es) = (registered es).filter P := by
  unfold registered stepsOf
  rw [List.filterMap_filter, List.filter_filterMap]
  apply List.filterMap_congr
  intro e _
  cases e with
  | spawn key => rfl
  | _ n => cases hP : P n <;> simp [Event.request?, Option.filter, hP]

theorem heldBy_iff (es : List Event) (t : Traffic) (h : Exact es t) (key : String) (n : Nat) :
    t.HeldBy key n ↔ (registeredUnder es t key).getLast? = some n ∧
      ∃ f, t.flight? n = some f ∧ f.ticket ≠ none ∧ f.released = false := by
  unfold HeldBy
  rw [Option.map_eq_some_iff]
  constructor
  · rintro ⟨holder, hholder, rfl⟩
    obtain ⟨hlast, f, hf, hticket, hreleased⟩ := (h.holder key holder).mp hholder
    exact ⟨hlast, f, hf, by simp [hticket], hreleased⟩
  · rintro ⟨hlast, f, hf, hticket, hreleased⟩
    obtain ⟨ticket, hticket⟩ := Option.ne_none_iff_exists'.mp hticket
    exact ⟨⟨ticket, n⟩, (h.holder key ⟨ticket, n⟩).mpr ⟨hlast, f, hf, hticket, hreleased⟩, rfl⟩

theorem flight?_of_mirrors (t u : Traffic) (hm : Mirrors P t u) (n : Nat) (f : Flight)
    (hf : t.flight? n = some f) : ∃ g, u.flight? n = some g := by
  rw [← Option.ne_none_iff_exists', ne_eq, flight?_eq_none_iff, hm.next, ← flight?_eq_none_iff, hf]
  simp

theorem mirrors_symm (t u : Traffic) (hm : Mirrors P t u) : Mirrors P u t where
  next := hm.next.symm
  keys n := (hm.keys n).symm
  alike n f g hP hf hg := by
    obtain ⟨hkey, htask, hticket, hreleased, hseen⟩ := hm.alike n g f hP hg hf
    exact ⟨hkey.symm, htask.symm, hticket.symm, hreleased.symm, hseen.symm⟩

theorem heldBy_of_mirrors (es : List Event) (t u : Traffic) (ht : Exact es t)
    (hu : Exact (stepsOf P es) u) (hm : Mirrors P t u) (hclosed : Closed P t) (n : Nat)
    (hP : P n = true) (key : String) : u.HeldBy key n ↔ t.HeldBy key n := by
  have hunder : t.keyOf? n = some key →
      registeredUnder (stepsOf P es) u key = registeredUnder es t key := by
    intro hn
    rw [registeredUnder, registered_stepsOf, List.filter_filter, registeredUnder]
    apply List.filter_congr
    intro m _
    rw [hm.keys m]
    by_cases hkey : t.keyOf? m = some key
    · simp [hkey, hclosed n m key hP hn hkey]
    · simp [hkey]
  have hlast : (registeredUnder (stepsOf P es) u key).getLast? = some n ↔
      (registeredUnder es t key).getLast? = some n := by
    by_cases hn : t.keyOf? n = some key
    · rw [hunder hn]
    · constructor
      · intro hlast
        have hmem := (mem_registeredUnder _ u key n).mp (List.mem_of_getLast? hlast)
        exact absurd (hm.keys n ▸ hmem.2) hn
      · intro hlast
        exact absurd ((mem_registeredUnder _ t key n).mp (List.mem_of_getLast? hlast)).2 hn
  have hflight : ∀ t u : Traffic, Mirrors P t u →
      (∃ f, t.flight? n = some f ∧ f.ticket ≠ none ∧ f.released = false) →
      ∃ g, u.flight? n = some g ∧ g.ticket ≠ none ∧ g.released = false := by
    rintro t u hm ⟨f, hf, hticket, hreleased⟩
    obtain ⟨g, hg⟩ := flight?_of_mirrors P t u hm n f hf
    have halike := hm.alike n f g hP hf hg
    exact ⟨g, hg, by rwa [ne_eq, halike.ticket], halike.released.trans hreleased⟩
  rw [heldBy_iff _ u hu, heldBy_iff es t ht, hlast]
  exact and_congr_right fun _ => ⟨hflight u t (mirrors_symm P t u hm), hflight t u hm⟩

theorem alike_abort (f g : Flight) (h : Alike f g) : Alike f.abort g.abort := by
  obtain ⟨hkey, htask, hticket, hreleased, hseen⟩ := h
  constructor <;> simp [*, Flight.abort] <;> split <;> simp [*]

theorem alike_of_change (t u : Traffic) (n : Nat) (f f' g g' : Flight) (e : Event)
    (h : Alike f g) (hkeys : ∀ m, u.keyOf? m = t.keyOf? m)
    (hheld : ∀ key, u.HeldBy key n ↔ t.HeldBy key n) (hf : Change t n f e f')
    (hg : Change u n g e g') : Alike f' g' := by
  have habort := alike_abort f g h
  obtain ⟨hkey, htask, hticket, hreleased, hseen⟩ := h
  cases hf with
  | stays _ other unheld =>
    cases hg with
    | stays _ _ _ => exact ⟨hkey, htask, hticket, hreleased, hseen⟩
    | evicted m key _ keyed held =>
      exact absurd ((hheld key).mp held) (unheld m key rfl (hkeys m ▸ keyed))
    | _ => exact absurd rfl other
  | evicted m key other keyed held =>
    cases hg with
    | stays _ _ unheld =>
      exact absurd ((hheld key).mpr held) (unheld m key rfl ((hkeys m).trans keyed))
    | evicted _ _ _ _ _ => exact habort
    | registered _ _ _ _ => exact absurd rfl other
  | registered ticket keyed fresh kept =>
    cases hg with
    | stays _ other _ => exact absurd rfl other
    | evicted _ _ other _ _ => exact absurd rfl other
    | registered _ _ _ _ => exact ⟨hkey, htask, by simp, hreleased, hseen⟩
  | finished runs =>
    cases hg with
    | stays _ other _ => exact absurd rfl other
    | finished _ => exact ⟨hkey, rfl, hticket, hreleased, hseen⟩
  | answered _ ended =>
    cases hg with
    | stays _ other _ => exact absurd rfl other
    | answered _ _ => exact ⟨hkey, htask, hticket, rfl, rfl⟩
    | cancelled _ ended' => simp [htask, ended] at ended'
  | cancelled _ ended =>
    cases hg with
    | stays _ other _ => exact absurd rfl other
    | answered _ ended' => simp [htask, ended] at ended'
    | cancelled _ _ => exact ⟨hkey, htask, hticket, rfl, rfl⟩
  | dropped _ =>
    cases hg with
    | stays _ other _ => exact absurd rfl other
    | dropped _ => exact ⟨habort.key, habort.task, habort.ticket, rfl, rfl⟩

theorem keyOf?_of_next (t u : Traffic) (n : Nat) (hnext : u.next = t.next)
    (hn : t.flight? n = none) : u.keyOf? n = t.keyOf? n := by
  have hu := (flight?_eq_none_iff u n).mpr (hnext ▸ (flight?_eq_none_iff t n).mp hn)
  simp [keyOf?, hn, hu]

/-- A step taken in both states keeps the second one looking like the first. -/
theorem mirrors_of_steps (es us : List Event) (e : Event) (t t' u u' : Traffic) (ht : Exact es t)
    (hu : Exact us u) (hm : Mirrors P t u)
    (hheld : ∀ n, P n = true → ∀ key, u.HeldBy key n ↔ t.HeldBy key n) (hs : Step t e t')
    (hsu : Step u e u') : Mirrors P t' u' := by
  have hnext : u'.next = t'.next := by
    rw [next_of_step t t' e hs, next_of_step u u' e hsu, hm.next]
  refine ⟨hnext, fun n => ?_, fun n f g hP hf hg => ?_⟩
  · cases hold : t.flight? n with
    | some f =>
      obtain ⟨g, hg⟩ := flight?_of_mirrors P t u hm n f hold
      rw [keyOf?_of_step es e t t' ht hs n f hold, keyOf?_of_step us e u u' hu hsu n g hg]
      exact hm.keys n
    | none =>
      cases hnew : t'.flight? n with
      | none => exact keyOf?_of_next t' u' n hnext hnew
      | some f =>
        obtain ⟨key, rfl, rfl, rfl⟩ := spawned_of_step t t' e hs n f hnew hold
        cases hsu
        rw [keyOf?_eq t' _ _ hnew, ← hm.next, keyOf?_eq _ u.next { key }]
        rw [flight?_spawn, if_pos rfl]
  · cases hold : t.flight? n with
    | some f₀ =>
      obtain ⟨g₀, hg₀⟩ := flight?_of_mirrors P t u hm n f₀ hold
      obtain ⟨f', hf', hchange⟩ := change_of_step es e t t' ht hs n f₀ hold
      obtain ⟨g', hg', hchange'⟩ := change_of_step us e u u' hu hsu n g₀ hg₀
      obtain rfl := Option.some.inj (hf'.symm.trans hf)
      obtain rfl := Option.some.inj (hg'.symm.trans hg)
      exact alike_of_change t u n f₀ f' g₀ g' e (hm.alike n f₀ g₀ hP hold hg₀) hm.keys
        (hheld n hP) hchange hchange'
    | none =>
      have hnone : u.flight? n = none := by
        rw [flight?_eq_none_iff, hm.next, ← flight?_eq_none_iff, hold]
      obtain ⟨key, rfl, -, rfl⟩ := spawned_of_step t t' e hs n f hf hold
      obtain ⟨key', he, -, rfl⟩ := spawned_of_step u u' _ hsu n g hg hnone
      obtain rfl := Event.spawn.inj he
      exact ⟨rfl, rfl, Iff.rfl, rfl, rfl⟩

theorem step_of_mirrors (e : Event) (t t' u : Traffic) (hm : Mirrors P t u) (hs : Step t e t')
    (hP : e.request?.all P = true) : ∃ u', Step u e u' := by
  have hfound : ∀ n f, P n = true → t.flight? n = some f →
      ∃ g, u.flight? n = some g ∧ Alike f g := by
    intro n f hP hf
    obtain ⟨g, hg⟩ := flight?_of_mirrors P t u hm n f hf
    exact ⟨g, hg, hm.alike n f g hP hf hg⟩
  have hawaited : ∀ f g, Alike f g → f.isAwaited = true → g.isAwaited = true := by
    intro f g h
    have hticket : g.ticket.isSome = f.ticket.isSome := by
      rw [Bool.eq_iff_iff, Option.isSome_iff_ne_none, Option.isSome_iff_ne_none, ne_eq, h.ticket]
    simp [Flight.isAwaited, h.key, h.released, hticket]
  cases hs with
  | spawn key => exact ⟨_, .spawn key⟩
  | @register n f key found keyed fresh kept =>
    obtain ⟨g, hg, h⟩ := hfound n f (by simpa [Event.request?] using hP) found
    exact ⟨_, .register hg (h.key.trans keyed) (h.ticket.mpr fresh) (h.released.trans kept)⟩
  | @finish n f found runs =>
    obtain ⟨g, hg, h⟩ := hfound n f (by simpa [Event.request?] using hP) found
    exact ⟨_, .finish hg (h.task.trans runs)⟩
  | @answer n f found awaited ended =>
    obtain ⟨g, hg, h⟩ := hfound n f (by simpa [Event.request?] using hP) found
    exact ⟨_, .answer hg (hawaited f g h awaited) (h.task.trans ended)⟩
  | @cancelled n f found awaited ended =>
    obtain ⟨g, hg, h⟩ := hfound n f (by simpa [Event.request?] using hP) found
    exact ⟨_, .cancelled hg (hawaited f g h awaited) (h.task.trans ended)⟩
  | @drop n f found awaited =>
    obtain ⟨g, hg, h⟩ := hfound n f (by simpa [Event.request?] using hP) found
    exact ⟨_, .drop hg (hawaited f g h awaited)⟩

theorem mirrors_of_other (es : List Event) (e : Event) (t t' u : Traffic) (ht : Exact es t)
    (hm : Mirrors P t u) (hclosed : Closed P t) (hs : Step t e t')
    (hP : e.request?.all P = false) : Mirrors P t' u := by
  obtain ⟨m, hrequest, hother⟩ : ∃ m, e.request? = some m ∧ P m = false := by
    cases hrequest : e.request? with
    | none => simp [hrequest] at hP
    | some m => exact ⟨m, rfl, by simpa [hrequest] using hP⟩
  have hnext : u.next = t'.next := by
    rw [next_of_step t t' e hs, if_neg (by simp [hrequest]), hm.next]
  have hsame : t'.next = t.next := hnext.symm.trans hm.next
  refine ⟨hnext, fun n => ?_, fun n f g hn hf hg => ?_⟩
  · rw [hm.keys n]
    cases hold : t.flight? n with
    | some f => rw [keyOf?_of_step es e t t' ht hs n f hold]
    | none => exact (keyOf?_of_next t t' n hsame hold).symm
  · cases hold : t.flight? n with
    | none =>
      obtain ⟨key, rfl, -⟩ := spawned_of_step t t' e hs n f hf hold
      simp [Event.request?] at hrequest
    | some f₀ =>
      obtain ⟨f', hf', hchange⟩ := change_of_step es e t t' ht hs n f₀ hold
      obtain rfl := Option.some.inj (hf'.symm.trans hf)
      have hmn : m ≠ n := by
        rintro rfl
        simp [hother] at hn
      cases hchange with
      | stays _ _ _ => exact hm.alike n _ g hn hold hg
      | evicted m' key _ keyed held =>
        obtain rfl : m' = m := Option.some.inj hrequest
        have hkey := (registered_of_heldBy es t ht n key held).2
        exact absurd (hclosed n m' key hn hkey keyed) (by simp [hother])
      | _ => exact absurd (Option.some.inj hrequest).symm hmn

theorem closed_of_step (es : List Event) (e : Event) (t t' : Traffic) (h : Exact es t)
    (hs : Step t e t') (hclosed : Closed P t') : Closed P t := by
  have hkeep : ∀ n key, t.keyOf? n = some key → t'.keyOf? n = some key := by
    intro n key hn
    obtain ⟨f, hf, -⟩ := Option.bind_eq_some_iff.mp hn
    rw [keyOf?_of_step es e t t' h hs n f hf, hn]
  intro n m key hP hn hm
  exact hclosed n m key hP (hkeep n key hn) (hkeep m key hm)

/-- The steps of requests that share no key with the others are a run of their own, and it looks
the same to them. -/
theorem run_stepsOf (es : List Event) (t : Traffic) (run : Run es t) (hclosed : Closed P t) :
    ∃ u, Run (stepsOf P es) u ∧ Mirrors P t u := by
  induction run with
  | start => exact ⟨_, .start, rfl, fun _ => rfl, by simp [flight?]⟩
  | @step es t t' e run hnext ih =>
    have ht := exact_of_run es t run
    have hs := step_of_eq_some t t' e hnext
    have hbefore := closed_of_step P es e t t' ht hs hclosed
    obtain ⟨u, hrun, hm⟩ := ih hbefore
    have hu := exact_of_run _ u hrun
    cases hP : e.request?.all P with
    | false =>
      have hsteps : stepsOf P (es ++ [e]) = stepsOf P es := by simp [stepsOf, hP]
      rw [hsteps]
      exact ⟨u, hrun, mirrors_of_other P es e t t' u ht hm hbefore hs hP⟩
    | true =>
      have hsteps : stepsOf P (es ++ [e]) = stepsOf P es ++ [e] := by simp [stepsOf, hP]
      obtain ⟨u', hsu⟩ := step_of_mirrors P e t t' u hm hs hP
      rw [hsteps]
      refine ⟨u', .step e hrun (step_eq_some_of_step u u' e hsu), ?_⟩
      exact mirrors_of_steps P es _ e t t' u u' ht hu hm
        (heldBy_of_mirrors P es t u ht hu hm hbefore) hs hsu

def sharesKey (t : Traffic) (n m : Nat) : Bool :=
  m == n || (t.keyOf? n).isSome && t.keyOf? m == t.keyOf? n

theorem closed_sharesKey (t : Traffic) (n : Nat) : Closed (t.sharesKey n) t := by
  intro m k key hm hkey hkey'
  unfold sharesKey at hm ⊢
  rw [Bool.or_eq_true, Bool.and_eq_true, beq_iff_eq, beq_iff_eq] at hm ⊢
  rcases hm with rfl | ⟨hsome, hsame⟩
  · simp [hkey, hkey']
  · exact .inr ⟨hsome, hkey'.trans (hkey.symm.trans hsame)⟩

theorem result?_of_alike (t u : Traffic) (fetched : Nat → Fetched) (n : Nat) (f g : Flight)
    (hf : t.flight? n = some f) (hg : u.flight? n = some g) (h : Alike f g) :
    u.result? fetched n = t.result? fetched n := by
  simp [result?, hf, hg, h.key, h.seen]

end RecordSelection.Traffic
