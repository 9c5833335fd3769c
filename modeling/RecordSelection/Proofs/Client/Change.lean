import RecordSelection.Proofs.Client.Holders

/-!
# What a step does to one request

A step changes the request that it is a step of, and a registration aborts the request that held
the key. All other requests stay as they are. So what holds of one request over a run is shown by
looking at the few ways in which a step can change it.
-/

set_option autoImplicit false

namespace RecordSelection.Traffic

def Event.request? : Event → Option Nat
  | .spawn _ => none
  | .register n => some n
  | .finish n => some n
  | .resume n => some n
  | .drop n => some n

def HeldBy (t : Traffic) (key : String) (n : Nat) : Prop :=
  (t.registry.holders.get? key).map (·.request) = some n

/-- The ways in which a step can change a request. -/
inductive Change (t : Traffic) (n : Nat) (f : Flight) : Event → Flight → Prop where
  | stays (e : Event) (other : e.request? ≠ some n)
      (unheld : ∀ m key, e = .register m → t.keyOf? m = some key → ¬t.HeldBy key n) :
      Change t n f e f
  | evicted (m : Nat) (key : String) (other : m ≠ n) (keyed : t.keyOf? m = some key)
      (held : t.HeldBy key n) : Change t n f (.register m) f.abort
  | registered (ticket : Nat) (keyed : f.key ≠ none) (fresh : f.ticket = none)
      (kept : f.released = false) : Change t n f (.register n) { f with ticket := some ticket }
  | finished (runs : f.task = .running) : Change t n f (.finish n) { f with task := .finished }
  | answered (awaited : f.isAwaited = true) (ended : f.task = .finished) :
      Change t n f (.resume n) { f with released := true, seen := some .answer }
  | cancelled (awaited : f.isAwaited = true) (ended : f.task = .aborted) :
      Change t n f (.resume n) { f with released := true, seen := some .cancelled }
  | dropped (awaited : f.isAwaited = true) :
      Change t n f (.drop n) { f.abort with released := true, seen := none }

theorem abort_eq_self (f : Flight) (h : f.task ≠ .running) : f.abort = f := if_neg h

theorem abort_running (f : Flight) (h : f.task = .running) :
    f.abort = { f with task := .aborted } := if_pos h

theorem step_eq_some_of_step (t t' : Traffic) (e : Event) (hs : Step t e t') :
    t.step e = some t' := by
  cases hs with
  | spawn key => rfl
  | @register n f key found keyed fresh kept =>
    cases hp : t.registry.holders.get? key <;>
      simp [step, found, keyed, fresh, kept, enter, Registry.register, hp]
  | finish found runs => simp [step, found, runs]
  | answer found awaited ended => simp [step, found, awaited, ended]
  | cancelled found awaited ended => simp [step, found, awaited, ended]
  | drop found awaited => simp [step, found, awaited]

theorem change_of_enter (es : List Event) (t : Traffic) (h : Exact es t) (m : Nat) (g : Flight)
    (key : String) (hg : t.flight? m = some g) (hkey : g.key = some key) (hfresh : g.ticket = none)
    (hkept : g.released = false) (n : Nat) (f : Flight) (hf : t.flight? n = some f) :
    ∃ f', (t.enter m g key).flight? n = some f' ∧ Change t n f (.register m) f' := by
  have hat := after_enter es t h m g key hg hfresh n
  by_cases hn : n = m
  · subst hn
    obtain rfl := Option.some.inj (hg.symm.trans hf)
    refine ⟨_, (hat _).2 (.inl ⟨rfl, rfl⟩), .registered _ ?_ hfresh hkept⟩
    simp [hkey]
  · have hkeym : t.keyOf? m = some key := (keyOf?_eq t m g hg).trans hkey
    refine ⟨_, (hat _).2 (.inr ⟨hn, f, hf, rfl⟩), ?_⟩
    by_cases hheld : t.HeldBy key n
    · rw [show t.evict key n f = f.abort from if_pos hheld]
      exact .evicted m key (Ne.symm hn) hkeym hheld
    · rw [show t.evict key n f = f from if_neg hheld]
      refine .stays _ (by simpa [Event.request?] using Ne.symm hn) ?_
      rintro _ k ⟨⟩ hk
      obtain rfl := Option.some.inj (hkeym.symm.trans hk)
      exact hheld

theorem change_of_release (t : Traffic) (e : Event) (m : Nat) (g : Flight) (seen : Option Seen)
    (hg : t.flight? m = some g) (he : e.request? = some m) (hregister : ∀ k, e ≠ .register k)
    (hown : Change t m g e { g.abort with released := true, seen }) (n : Nat) (f : Flight)
    (hf : t.flight? n = some f) :
    ∃ f', (t.release m g seen).flight? n = some f' ∧ Change t n f e f' := by
  have hat := after_release t m g seen hg n
  by_cases hn : n = m
  · subst hn
    obtain rfl := Option.some.inj (hg.symm.trans hf)
    exact ⟨_, (hat _).2 (.inl ⟨rfl, rfl⟩), hown⟩
  · refine ⟨f, (hat f).2 (.inr ⟨hn, hf⟩), .stays e ?_ ?_⟩
    · rw [he]
      simpa using Ne.symm hn
    · exact fun k _ hk => absurd hk (hregister k)

theorem change_of_step (es : List Event) (e : Event) (t t' : Traffic) (h : Exact es t)
    (hs : Step t e t') (n : Nat) (f : Flight) (hf : t.flight? n = some f) :
    ∃ f', t'.flight? n = some f' ∧ Change t n f e f' := by
  cases hs with
  | spawn key =>
    refine ⟨f, ?_, .stays _ (by simp [Event.request?]) (by simp)⟩
    rw [flight?_spawn, if_neg (ne_next t n f hf), hf]
  | @register m g key found keyed fresh kept =>
    exact change_of_enter es t h m g key found keyed fresh kept n f hf
  | @finish m g found runs =>
    by_cases hn : n = m
    · subst hn
      obtain rfl := Option.some.inj (found.symm.trans hf)
      refine ⟨_, ?_, .finished runs⟩
      rw [flight?_set t n g _ found, if_pos rfl]
    · refine ⟨f, ?_, .stays _ ?_ (by simp)⟩
      · rw [flight?_set t m g _ found, if_neg hn, hf]
      · simpa [Event.request?] using Ne.symm hn
  | @answer m g found awaited ended =>
    refine change_of_release t _ m g _ found rfl (by simp) ?_ n f hf
    rw [abort_eq_self g (by simp [ended])]
    exact .answered awaited ended
  | @cancelled m g found awaited ended =>
    refine change_of_release t _ m g _ found rfl (by simp) ?_ n f hf
    rw [abort_eq_self g (by simp [ended])]
    exact .cancelled awaited ended
  | @drop m g found awaited =>
    exact change_of_release t _ m g _ found rfl (by simp) (.dropped awaited) n f hf

@[simp] theorem next_set (t : Traffic) (n : Nat) (f : Flight) : (t.set n f).next = t.next := by
  simp [next, set]

@[simp] theorem next_release (t : Traffic) (n : Nat) (f : Flight) (seen : Option Seen) :
    (t.release n f seen).next = t.next := by
  unfold release
  split <;> simp [next, set]

@[simp] theorem next_enter (t : Traffic) (n : Nat) (f : Flight) (key : String) :
    (t.enter n f key).next = t.next := by
  unfold enter
  split <;> simp [next, set, abortAt]

theorem next_of_step (t t' : Traffic) (e : Event) (hs : Step t e t') :
    t'.next = if e.request? = none then t.next + 1 else t.next := by
  cases hs with
  | spawn key => simp [next, Event.request?]
  | register _ _ _ _ => simp [Event.request?]
  | finish _ _ => simp [Event.request?]
  | answer _ _ _ => simp [Event.request?]
  | cancelled _ _ _ => simp [Event.request?]
  | drop _ _ => simp [Event.request?]

theorem flight?_eq_none_iff (t : Traffic) (n : Nat) : t.flight? n = none ↔ t.next ≤ n :=
  List.getElem?_eq_none_iff

theorem spawned_of_step (t t' : Traffic) (e : Event) (hs : Step t e t') (n : Nat) (f' : Flight)
    (hf' : t'.flight? n = some f') (hnone : t.flight? n = none) :
    ∃ key, e = .spawn key ∧ n = t.next ∧ f' = { key } := by
  by_cases he : e.request? = none
  · cases hs with
    | spawn key =>
      rw [flight?_spawn] at hf'
      split at hf'
      · rename_i hn
        exact ⟨key, rfl, hn, (Option.some.inj hf').symm⟩
      · exact absurd (hnone.symm.trans hf') (by simp)
    | _ => simp [Event.request?] at he
  · have hnext := next_of_step t t' e hs
    rw [if_neg he] at hnext
    rw [flight?_eq_none_iff, ← hnext, ← flight?_eq_none_iff] at hnone
    exact absurd (hnone.symm.trans hf') (by simp)

theorem change_key (t : Traffic) (n : Nat) (f f' : Flight) (e : Event)
    (h : Change t n f e f') : f'.key = f.key := by
  cases h <;> simp

end RecordSelection.Traffic
