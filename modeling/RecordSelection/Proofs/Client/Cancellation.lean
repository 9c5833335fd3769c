import RecordSelection.Proofs.Client.Apart

/-!
# Cancellation of requests

Whether the caller of a request sees that it was cancelled is settled by the registrations under
its key and by the end of its task, and by nothing else that happens on the client.
-/

set_option autoImplicit false

namespace RecordSelection.Traffic

/-- The caller of a request that has seen the end got a cancellation under a key exactly if that is
the key of the request and another one was registered under it, after the request and before its
task had ended. Otherwise it got what the request came to; so does the caller of the request that
was registered last under its key. It got the same as in the run without all steps of requests that
do not share its key. -/
theorem result_exact (fetched : Nat → Fetched) (es : List Event) (t : Traffic) (run : Run es t)
    (n : Nat) (f : Flight) (found : t.flight? n = some f) (resumed : f.seen ≠ none) :
    (∀ key, t.result? fetched n = some (.error (.cancelled key)) ↔
      f.key = some key ∧ Superseded es t n) ∧
    (¬Superseded es t n → t.result? fetched n = some (fetched n).outcome) ∧
    (∀ key, (registeredUnder es t key).getLast? = some n →
      t.result? fetched n = some (fetched n).outcome) ∧
    ∃ u, Run (stepsOf (t.sharesKey n) es) u ∧ u.result? fetched n = t.result? fetched n := by
  have hseen := seen_eq_cancelled_iff es t run n f found resumed
  have hanswer : ¬Superseded es t n → t.result? fetched n = some (fetched n).outcome := by
    intro hS
    apply result?_of_answer t fetched n f found
    obtain ⟨seen, hs⟩ := Option.ne_none_iff_exists'.mp resumed
    cases seen with
    | answer => exact hs
    | cancelled => exact absurd (hseen.mp hs) hS
  refine ⟨fun key => ?_, hanswer, fun key hlast => ?_, ?_⟩
  · by_cases hS : Superseded es t n
    · obtain ⟨own, hown⟩ := key_of_superseded es t run n f found hS
      rw [result?_of_cancelled t fetched n f found (hseen.mpr hS), hown]
      simp [hS]
    · rw [hanswer hS]
      have hfetched := (fetched n).own key
      simp [hS, hfetched]
  · exact hanswer (not_superseded_of_last es t run key n hlast)
  · obtain ⟨u, hrun, hm⟩ := run_stepsOf (t.sharesKey n) es t run (closed_sharesKey t n)
    obtain ⟨g, hg⟩ := flight?_of_mirrors _ t u hm n f found
    have halike := hm.alike n f g (by simp [sharesKey]) found hg
    exact ⟨u, hrun, result?_of_alike t u fetched n f g found hg halike⟩

/-- A request is superseded under its key while one under another key is in flight. -/
theorem result_exact_superseded :
    let es : List Event := [.spawn (some "feed"), .register 0, .spawn (some "menu"), .register 1,
      .spawn (some "feed"), .register 2, .resume 0]
    ∃ t f, Run es t ∧ t.flight? 0 = some f ∧ f.seen ≠ none ∧ f.key = some "feed" ∧
      Superseded es t 0 ∧
      t.result? (fun _ => .ofResponse {}) 0 = some (.error (.cancelled "feed")) := by
  intro es
  have first := Run.step (.register 0) (.step (.spawn (some "feed")) .start rfl) rfl
  have other := Run.step (.register 1) (.step (.spawn (some "menu")) first rfl) rfl
  have second := Run.step (.register 2) (.step (.spawn (some "feed")) other rfl) rfl
  have run : Run es (advanceAll {} es) := Run.step (.resume 0) second rfl
  have hS : Superseded es (advanceAll {} es) 0 :=
    ⟨es.take 5, 2, [.resume 0], rfl, by decide, rfl, by decide, by decide⟩
  refine ⟨_, _, run, rfl, by simp, rfl, hS, ?_⟩
  exact ((result_exact _ _ _ run 0 _ rfl (by simp)).1 "feed").mpr ⟨rfl, hS⟩

end RecordSelection.Traffic
