import RecordSelection.Client.Traffic
import RecordSelection.Proofs.Dictionary

/-!
# Runs of requests on one client

The steps of the requests as a relation with one case for each kind of step, and runs: the states
that a list of steps in any order leads to. A run keeps its steps, so that a statement on a state
can speak of the order in which requests were registered.
-/

set_option autoImplicit false

namespace RecordSelection.Traffic

/-- The state after a request with a key was registered: it holds the key, and the request that
held the key before is aborted. -/
def enter (t : Traffic) (n : Nat) (f : Flight) (key : String) : Traffic :=
  let entered : Traffic :=
    { t.set n { f with ticket := some (t.registry.last+1) } with
      registry :=
        ⟨t.registry.last+1, t.registry.holders.insert key ⟨t.registry.last+1, n⟩⟩ }
  match t.registry.holders.get? key with
  | some holder => entered.abortAt holder.request
  | none => entered

inductive Step (t : Traffic) : Event → Traffic → Prop where
  | spawn (key : Option String) :
      Step t (.spawn key) { t with flights := t.flights ++ [{ key }] }
  | register {n : Nat} {f : Flight} {key : String} (found : t.flight? n = some f)
      (keyed : f.key = some key) (fresh : f.ticket = none) (kept : f.released = false) :
      Step t (.register n) (t.enter n f key)
  | finish {n : Nat} {f : Flight} (found : t.flight? n = some f) (runs : f.task = .running) :
      Step t (.finish n) (t.set n { f with task := .finished })
  | answer {n : Nat} {f : Flight} (found : t.flight? n = some f) (awaited : f.isAwaited = true)
      (ended : f.task = .finished) : Step t (.resume n) (t.release n f (some .answer))
  | cancelled {n : Nat} {f : Flight} (found : t.flight? n = some f) (awaited : f.isAwaited = true)
      (ended : f.task = .aborted) : Step t (.resume n) (t.release n f (some .cancelled))
  | drop {n : Nat} {f : Flight} (found : t.flight? n = some f) (awaited : f.isAwaited = true) :
      Step t (.drop n) (t.release n f none)

theorem step_of_eq_some (t t' : Traffic) (e : Event) (h : t.step e = some t') : Step t e t' := by
  cases e with
  | spawn key =>
    obtain rfl := Option.some.inj h
    exact .spawn key
  | register n =>
    obtain ⟨f, found, h⟩ := Option.bind_eq_some_iff.1 h
    cases hk : f.key with
    | none => simp [hk] at h
    | some key =>
      cases ht : f.ticket with
      | some ticket => simp [hk, ht] at h
      | none =>
        simp only [hk, ht] at h
        split at h
        · exact absurd h (by simp)
        · rename_i hr
          have he : t.enter n f key = t' := by
            cases hp : t.registry.holders.get? key <;>
              simpa [enter, Registry.register, hp, hk] using h
          rw [← he]
          exact .register found hk ht (by simpa using hr)
  | finish n =>
    obtain ⟨f, found, h⟩ := Option.bind_eq_some_iff.1 h
    split at h
    · rename_i hr
      obtain rfl := Option.some.inj h
      exact .finish found hr
    · exact absurd h (by simp)
  | resume n =>
    obtain ⟨f, found, h⟩ := Option.bind_eq_some_iff.1 h
    split at h
    · rename_i ha
      cases ht : f.task with
      | running => simp [ht] at h
      | finished =>
        simp only [ht, Option.some.injEq] at h
        rw [← h]
        exact .answer found ha ht
      | aborted =>
        simp only [ht, Option.some.injEq] at h
        rw [← h]
        exact .cancelled found ha ht
    · exact absurd h (by simp)
  | drop n =>
    obtain ⟨f, found, h⟩ := Option.bind_eq_some_iff.1 h
    split at h
    · rename_i ha
      obtain rfl := Option.some.inj h
      exact .drop found ha
    · exact absurd h (by simp)

/-- The states that a list of steps leads to. -/
inductive Run : List Event → Traffic → Prop where
  | start : Run [] {}
  | step {es : List Event} {t t' : Traffic} (e : Event) (run : Run es t)
      (next : t.step e = some t') : Run (es ++ [e]) t'

theorem flight?_spawn (t : Traffic) (key : Option String) (m : Nat) :
    flight? { t with flights := t.flights ++ [{ key }] } m =
      if m = t.next then some { key } else t.flight? m := by
  unfold flight?
  rcases Nat.lt_trichotomy m t.next with h | h | h
  · rw [if_neg (Nat.ne_of_lt h)]
    exact List.getElem?_append_left h
  · rw [if_pos h, h]
    exact List.getElem?_concat_length
  · have hlong : t.flights.length < m := h
    rw [if_neg (Nat.ne_of_gt h), List.getElem?_eq_none (by simp; omega),
      List.getElem?_eq_none (by omega)]

theorem ne_next (t : Traffic) (n : Nat) (f : Flight) (hf : t.flight? n = some f) : n ≠ t.next := by
  rintro rfl
  exact absurd hf (by simp [flight?, next])

theorem flight?_set (t : Traffic) (n : Nat) (f g : Flight) (found : t.flight? n = some f)
    (m : Nat) : (t.set n g).flight? m = if m = n then some g else t.flight? m := by
  obtain ⟨hn, -⟩ := List.getElem?_eq_some_iff.1 found
  unfold flight? set
  rw [List.getElem?_set]
  by_cases h : n = m
  · simp [h.symm, hn]
  · simp [h, Ne.symm h]

theorem flight?_abortAt (t : Traffic) (n m : Nat) :
    (t.abortAt n).flight? m = if m = n then (t.flight? m).map Flight.abort else t.flight? m := by
  simp only [flight?, abortAt, List.getElem?_modify, eq_comm (a := m)]
  split <;> simp

@[simp] theorem abortAt_registry (t : Traffic) (n : Nat) :
    (t.abortAt n).registry = t.registry := rfl

@[simp] theorem set_registry (t : Traffic) (n : Nat) (f : Flight) :
    (t.set n f).registry = t.registry := rfl

theorem enter_registry (t : Traffic) (n : Nat) (f : Flight) (key : String) :
    (t.enter n f key).registry =
      ⟨t.registry.last+1, t.registry.holders.insert key ⟨t.registry.last+1, n⟩⟩ := by
  unfold enter
  cases t.registry.holders.get? key <;> rfl

@[simp] theorem abort_key (f : Flight) : f.abort.key = f.key := by
  unfold Flight.abort
  split <;> rfl

@[simp] theorem abort_ticket (f : Flight) : f.abort.ticket = f.ticket := by
  unfold Flight.abort
  split <;> rfl

@[simp] theorem abort_released (f : Flight) : f.abort.released = f.released := by
  unfold Flight.abort
  split <;> rfl

theorem abort_task_ne_running (f : Flight) : f.abort.task ≠ .running := by
  unfold Flight.abort
  split
  · simp
  · assumption

def evict (t : Traffic) (key : String) (m : Nat) (g : Flight) : Flight :=
  if (t.registry.holders.get? key).map (·.request) = some m then g.abort else g

theorem evict_key (t : Traffic) (key : String) (m : Nat) (g : Flight) :
    (t.evict key m g).key = g.key := by
  unfold evict
  split <;> simp

theorem evict_ticket (t : Traffic) (key : String) (m : Nat) (g : Flight) :
    (t.evict key m g).ticket = g.ticket := by
  unfold evict
  split <;> simp

theorem evict_released (t : Traffic) (key : String) (m : Nat) (g : Flight) :
    (t.evict key m g).released = g.released := by
  unfold evict
  split <;> simp

theorem evict_running (t : Traffic) (key : String) (m : Nat) (g : Flight)
    (h : (t.evict key m g).task = .running) :
    g.task = .running ∧ (t.registry.holders.get? key).map (·.request) ≠ some m := by
  unfold evict at h
  split at h
  · exact absurd h (abort_task_ne_running g)
  · exact ⟨h, by assumption⟩

theorem flight?_enter (t : Traffic) (n : Nat) (f : Flight) (key : String)
    (found : t.flight? n = some f)
    (hother : ∀ holder, t.registry.holders.get? key = some holder → holder.request ≠ n)
    (m : Nat) :
    (t.enter n f key).flight? m =
      if m = n then some { f with ticket := some (t.registry.last+1) }
      else (t.flight? m).map (t.evict key m) := by
  have hs := flight?_set t n f { f with ticket := some (t.registry.last+1) } found m
  unfold enter
  cases hp : t.registry.holders.get? key with
  | none =>
    have hid : t.evict key m = id := by
      funext g
      simp [evict, hp]
    rw [hid, Option.map_id_apply]
    exact hs
  | some holder =>
    have hne := hother holder hp
    rw [flight?_abortAt]
    change (if m = holder.request then (flight? (t.set n _) m).map Flight.abort
      else flight? (t.set n _) m) = _
    rw [hs]
    by_cases hm : m = n
    · have hh : m ≠ holder.request := fun h => hne (h.symm.trans hm)
      simp [hm, hm ▸ hh]
    · by_cases hh : m = holder.request
      · have hev : t.evict key m = Flight.abort := by
          funext g
          simp [evict, hp, hh]
        rw [if_pos hh, if_neg hm, if_neg hm, hev]
      · have hev : t.evict key m = id := by
          funext g
          simp [evict, hp, Ne.symm hh]
        rw [if_neg hh, if_neg hm, if_neg hm, hev, Option.map_id_apply]

theorem flight?_release (t : Traffic) (n : Nat) (f : Flight) (seen : Option Seen)
    (found : t.flight? n = some f) (m : Nat) :
    (t.release n f seen).flight? m =
      if m = n then some { f.abort with released := true, seen } else t.flight? m := by
  rw [← flight?_set t n f _ found m]
  unfold release
  split <;> rfl

theorem release_holders (t : Traffic) (n : Nat) (f : Flight) (seen : Option Seen) (key : String)
    (ticket : Nat) (hk : f.key = some key) (ht : f.ticket = some ticket) (k : String) :
    (t.release n f seen).registry.holders.get? k =
      if k = key ∧ (t.registry.holders.get? key).map (·.ticket) = some ticket then none
      else t.registry.holders.get? k := by
  simp only [release, hk, ht, Registry.release, set_registry]
  cases hp : t.registry.holders.get? key with
  | none => simp
  | some holder =>
    by_cases hh : holder.ticket = ticket
    · simp [hh, Dictionary.get?_erase]
    · simp [hh]

theorem release_registry_of_unkeyed (t : Traffic) (n : Nat) (f : Flight) (seen : Option Seen)
    (h : f.key = none ∨ f.ticket = none) : (t.release n f seen).registry = t.registry := by
  unfold release
  split
  · simp_all
  · rfl

@[simp] theorem release_last (t : Traffic) (n : Nat) (f : Flight) (seen : Option Seen) :
    (t.release n f seen).registry.last = t.registry.last := by
  unfold release
  split
  · simp only [Registry.release, set_registry]
    split
    · split <;> rfl
    · rfl
  · rfl

end RecordSelection.Traffic
