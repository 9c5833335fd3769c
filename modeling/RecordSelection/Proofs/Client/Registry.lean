import RecordSelection.Proofs.Client.Outcome

/-!
# The registry after any run

Which keys are held, and by which requests, in terms of the steps that were taken: a request gives
its key up when its caller sees the end of it or goes away, or when a newer one is registered.
-/

set_option autoImplicit false

namespace RecordSelection.Traffic

theorem released_of_change (t : Traffic) (n : Nat) (f f' : Flight) (e : Event)
    (h : Change t n f e f') :
    f'.released = true ↔ f.released = true ∨ e = .resume n ∨ e = .drop n := by
  cases h with
  | stays _ other unheld =>
    have hresume : e ≠ .resume n := fun he => other (by rw [he]; rfl)
    have hdrop : e ≠ .drop n := fun he => other (by rw [he]; rfl)
    simp [hresume, hdrop]
  | _ => simp

/-- A request is released once its caller saw the end of it or went away. -/
theorem released_iff_of_run (es : List Event) (t : Traffic) (run : Run es t) (n : Nat) (f : Flight)
    (hf : t.flight? n = some f) : f.released = true ↔ .resume n ∈ es ∨ .drop n ∈ es := by
  induction run generalizing n f with
  | start => simp [flight?] at hf
  | @step es t t' e run hnext ih =>
    have hs := step_of_eq_some t t' e hnext
    cases hold : t.flight? n with
    | some g =>
      obtain ⟨f', hf', hchange⟩ := change_of_step es e t t' (exact_of_run es t run) hs n g hold
      obtain rfl := Option.some.inj (hf'.symm.trans hf)
      rw [released_of_change t n g f' e hchange, ih n g hold]
      simp [or_or_or_comm, eq_comm]
    | none =>
      obtain ⟨key, rfl, rfl, rfl⟩ := spawned_of_step t t' e hs n f hf hold
      have hresume : .resume t.next ∉ es := not_mem_of_next es t run _ rfl
      have hdrop : .drop t.next ∉ es := not_mem_of_next es t run _ rfl
      simp [hresume, hdrop]

/-- In every state that requests on one client can reach, in any order of their steps, a key is
held by the request registered under it last as long as that is not released; all older requests
of the key have ended or are aborted, so that at most one still runs; and once every registered
request is released no key is held. A request is released by its caller, who sees the end of it or
goes away. -/
theorem registry_exact (es : List Event) (t : Traffic) (run : Run es t) :
    (∀ key holder, t.registry.holders.get? key = some holder ↔ Holds es t key holder) ∧
    (∀ key n f, n ∈ registeredUnder es t key →
      (registeredUnder es t key).getLast? ≠ some n → t.flight? n = some f →
      f.task = .aborted ∨ f.task = .finished) ∧
    (∀ key n m f g, n ∈ registeredUnder es t key → m ∈ registeredUnder es t key →
      t.flight? n = some f → t.flight? m = some g → f.task = .running → g.task = .running →
      n = m) ∧
    ((∀ n f, t.flight? n = some f → f.ticket ≠ none → f.released = true) →
      t.registry.isEmpty = true) ∧
    ∀ n f, t.flight? n = some f → (f.released = true ↔ .resume n ∈ es ∨ .drop n ∈ es) := by
  have h := exact_of_run es t run
  refine ⟨h.holder, ?_, ?_, ?_, released_iff_of_run es t run⟩
  · intro key n f hn hold hf
    cases hrun : f.task with
    | running => exact absurd (h.latest n f key hf hn hrun) hold
    | finished => exact .inr rfl
    | aborted => exact .inl rfl
  · intro key n m f g hn hm hf hg hrunf hrung
    have hlast := h.latest n f key hf hn hrunf
    rw [h.latest m g key hg hm hrung] at hlast
    exact (Option.some.inj hlast).symm
  · intro hall
    rw [Registry.isEmpty, List.isEmpty_iff, Dictionary.entries_eq_nil_iff]
    intro key
    rw [Option.eq_none_iff_forall_ne_some]
    intro holder hh
    obtain ⟨-, f, hf, ht, hrel⟩ := (h.holder key holder).1 hh
    exact absurd (hrel.symm.trans (hall _ f hf (by simp [ht]))) (by simp)

/-- A request is superseded under its key and released late: the newer one keeps the key, until its
own caller goes away. The key is free then, though the request is still the last one of the key. -/
theorem registry_exact_late_release :
    let late : List Event := [.spawn (some "feed"), .register 0, .spawn (some "feed"),
      .register 1, .resume 0]
    ∃ t t', Run late t ∧ t.registry.holders.get? "feed" = some ⟨2, 1⟩ ∧
      Holds late t "feed" ⟨2, 1⟩ ∧
      Run (late ++ [.drop 1]) t' ∧
      (registeredUnder (late ++ [.drop 1]) t' "feed").getLast? = some 1 ∧
      (∃ f, t'.flight? 1 = some f ∧ f.released = true) ∧
      t'.registry.holders.get? "feed" = none ∧ t'.registry.isEmpty = true := by
  intro late
  have first := Run.step (.register 0) (.step (.spawn (some "feed")) .start rfl) rfl
  have second := Run.step (.register 1) (.step (.spawn (some "feed")) first rfl) rfl
  have run := Run.step (.resume 0) second rfl
  have gone := Run.step (.drop 1) run rfl
  obtain ⟨-, -, -, -, hreleased⟩ := registry_exact _ _ gone
  have hlast := (hreleased 1 _ rfl).mpr (.inr (by decide))
  exact ⟨_, _, run, rfl, ((registry_exact _ _ run).1 "feed" ⟨2, 1⟩).1 rfl, gone, rfl,
    ⟨_, rfl, hlast⟩, rfl, rfl⟩

end RecordSelection.Traffic
