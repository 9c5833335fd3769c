import Mathlib.Tactic.ByContra
import RecordSelection.Proofs.Client.Run

/-!
# The holder of a request key

After any run a key is held by the request that was registered under it last, and by no request
once that one is released. Every request registered under the key before has ended or is aborted.
-/

set_option autoImplicit false

namespace RecordSelection.Traffic

def registered (es : List Event) : List Nat :=
  es.filterMap fun
    | .register n => some n
    | _ => none

def keyOf? (t : Traffic) (n : Nat) : Option String := (t.flight? n).bind (·.key)

def registeredUnder (es : List Event) (t : Traffic) (key : String) : List Nat :=
  (registered es).filter fun n => t.keyOf? n = some key

/-- The request was registered under the key after all others, and is not released. -/
def Holds (es : List Event) (t : Traffic) (key : String) (holder : Holder) : Prop :=
  (registeredUnder es t key).getLast? = some holder.request ∧
    ∃ f, t.flight? holder.request = some f ∧ f.ticket = some holder.ticket ∧ f.released = false

/-- What holds of the registry and the requests after a run. -/
structure Exact (es : List Event) (t : Traffic) : Prop where
  entered : ∀ n ∈ registered es, ∃ f ticket, t.flight? n = some f ∧ f.ticket = some ticket
  issued : ∀ n f ticket, t.flight? n = some f → f.ticket = some ticket →
    ticket ≤ t.registry.last
  own : ∀ n m f g ticket, t.flight? n = some f → t.flight? m = some g →
    f.ticket = some ticket → g.ticket = some ticket → n = m
  holder : ∀ key holder, t.registry.holders.get? key = some holder ↔ Holds es t key holder
  latest : ∀ n f key, t.flight? n = some f → n ∈ registeredUnder es t key →
    f.task = .running → (registeredUnder es t key).getLast? = some n
  stopped : ∀ n f, t.flight? n = some f → f.released = true → f.task ≠ .running

theorem registered_register (es : List Event) (n : Nat) :
    registered (es ++ [.register n]) = registered es ++ [n] := by
  simp [registered]

theorem mem_registeredUnder (es : List Event) (t : Traffic) (key : String) (n : Nat) :
    n ∈ registeredUnder es t key ↔ n ∈ registered es ∧ t.keyOf? n = some key := by
  simp [registeredUnder]

theorem keyOf?_eq (t : Traffic) (n : Nat) (f : Flight) (h : t.flight? n = some f) :
    t.keyOf? n = f.key := by
  simp [keyOf?, h]

theorem keyOf?_of_registeredUnder (es : List Event) (t : Traffic) (key : String) (n : Nat)
    (f : Flight) (hf : t.flight? n = some f) (h : (registeredUnder es t key).getLast? = some n) :
    f.key = some key := by
  have hm := (mem_registeredUnder es t key n).1 (List.mem_of_getLast? h)
  rw [← keyOf?_eq t n f hf]
  exact hm.2

theorem registeredUnder_congr (es : List Event) (t t' : Traffic) (key : String)
    (h : ∀ n ∈ registered es, t'.keyOf? n = t.keyOf? n) :
    registeredUnder es t' key = registeredUnder es t key := by
  apply List.filter_congr
  intro n hn
  rw [h n hn]

structure Keeps (t t' : Traffic) : Prop where
  old : ∀ n f, t.flight? n = some f →
    ∃ f', t'.flight? n = some f' ∧ f'.key = f.key ∧ f'.ticket = f.ticket
  back : ∀ n f' ticket, t'.flight? n = some f' → f'.ticket = some ticket →
    ∃ f, t.flight? n = some f ∧ f.ticket = some ticket ∧ (f'.task = .running → f.task = .running)
  last : t'.registry.last = t.registry.last

theorem registeredUnder_of_keeps (es : List Event) (e : Event) (t t' : Traffic) (h : Exact es t)
    (hr : registered (es ++ [e]) = registered es) (hkeeps : Keeps t t') (key : String) :
    registeredUnder (es ++ [e]) t' key = registeredUnder es t key := by
  rw [registeredUnder, hr]
  apply registeredUnder_congr
  intro n hn
  obtain ⟨f, _, hf, _⟩ := h.entered n hn
  obtain ⟨f', hf', hkey, -⟩ := hkeeps.old n f hf
  rw [keyOf?_eq t n f hf, keyOf?_eq t' n f' hf', hkey]

theorem exact_of_keeps (es : List Event) (e : Event) (t t' : Traffic) (h : Exact es t)
    (hr : registered (es ++ [e]) = registered es) (hkeeps : Keeps t t')
    (hholder : ∀ key holder, t'.registry.holders.get? key = some holder ↔
      Holds (es ++ [e]) t' key holder)
    (hstopped : ∀ n f, t'.flight? n = some f → f.released = true → f.task ≠ .running) :
    Exact (es ++ [e]) t' := by
  have hentered : ∀ n ∈ registered es, ∃ f' ticket,
      t'.flight? n = some f' ∧ f'.ticket = some ticket := by
    intro n hn
    obtain ⟨f, ticket, hf, ht⟩ := h.entered n hn
    obtain ⟨f', hf', -, ht'⟩ := hkeeps.old n f hf
    exact ⟨f', ticket, hf', ht'.trans ht⟩
  constructor
  case entered =>
    rw [hr]
    exact hentered
  case issued =>
    intro n f' ticket hf' ht
    obtain ⟨f, hf, ht, -⟩ := hkeeps.back n f' ticket hf' ht
    rw [hkeeps.last]
    exact h.issued n f ticket hf ht
  case own =>
    intro n m f' g' ticket hf' hg' htf htg
    obtain ⟨f, hf, htf, -⟩ := hkeeps.back n f' ticket hf' htf
    obtain ⟨g, hg, htg, -⟩ := hkeeps.back m g' ticket hg' htg
    exact h.own n m f g ticket hf hg htf htg
  case holder => exact hholder
  case latest =>
    intro n f' key hf' hn hrun
    rw [registeredUnder_of_keeps es e t t' h hr hkeeps] at hn ⊢
    obtain ⟨g, ticket, hg, ht⟩ := hentered n ((mem_registeredUnder es t key n).1 hn).1
    obtain rfl := Option.some.inj (hf'.symm.trans hg)
    obtain ⟨f, hf, -, hran⟩ := hkeeps.back n f' ticket hf' ht
    exact h.latest n f key hf hn (hran hrun)
  case stopped => exact hstopped

/-- A step that registers nothing and leaves the registry alone, changes no request but by ending
it, and adds only fresh ones, keeps the registry exact. -/
theorem exact_quiet (es : List Event) (e : Event) (t t' : Traffic) (h : Exact es t)
    (hr : registered (es ++ [e]) = registered es) (hreg : t'.registry = t.registry)
    (hold : ∀ n f, t.flight? n = some f → ∃ task,
      t'.flight? n = some { f with task } ∧ (task = .running → f.task = .running))
    (hnew : ∀ n f', t'.flight? n = some f' → t.flight? n = none →
      f'.ticket = none ∧ f'.released = false) :
    Exact (es ++ [e]) t' := by
  have hback : ∀ n f', t'.flight? n = some f' →
      (∃ f task, t.flight? n = some f ∧ f' = { f with task } ∧
        (task = .running → f.task = .running)) ∨ f'.ticket = none ∧ f'.released = false := by
    intro n f' hf'
    cases hf : t.flight? n with
    | none => exact .inr (hnew n f' hf' hf)
    | some f =>
      obtain ⟨task, hg, ht⟩ := hold n f hf
      exact .inl ⟨f, task, rfl, Option.some.inj (hf'.symm.trans hg), ht⟩
  have hkeeps : Keeps t t' := by
    constructor
    case old =>
      intro n f hf
      obtain ⟨task, hf', -⟩ := hold n f hf
      exact ⟨_, hf', rfl, rfl⟩
    case back =>
      intro n f' ticket hf' ht
      rcases hback n f' hf' with ⟨f, task, hf, rfl, hran⟩ | ⟨hnone, -⟩
      · exact ⟨f, hf, ht, hran⟩
      · exact absurd (hnone.symm.trans ht) (by simp)
    case last => rw [hreg]
  apply exact_of_keeps es e t t' h hr hkeeps
  · intro key holder
    rw [hreg, h.holder, Holds, Holds, registeredUnder_of_keeps es e t t' h hr hkeeps]
    constructor
    · rintro ⟨hl, f, hf, ht, hrel⟩
      obtain ⟨task, hf', -⟩ := hold _ f hf
      exact ⟨hl, _, hf', ht, hrel⟩
    · rintro ⟨hl, f', hf', ht, hrel⟩
      rcases hback _ f' hf' with ⟨f, task, hf, rfl, -⟩ | ⟨hnone, -⟩
      · exact ⟨hl, f, hf, ht, hrel⟩
      · exact absurd (hnone.symm.trans ht) (by simp)
  · intro n f' hf' hrel
    rcases hback n f' hf' with ⟨f, task, hf, rfl, ht⟩ | ⟨-, hnone⟩
    · exact fun hrun => h.stopped n f hf hrel (ht hrun)
    · exact absurd (hnone.symm.trans hrel) (by simp)

theorem running_holds (es : List Event) (t : Traffic) (h : Exact es t) (n : Nat) (f : Flight)
    (key : String) (hf : t.flight? n = some f) (hrun : f.task = .running)
    (hl : (registeredUnder es t key).getLast? = some n) :
    (t.registry.holders.get? key).map (·.request) = some n := by
  obtain ⟨g, ticket, hg, ht⟩ :=
    h.entered n ((mem_registeredUnder es t key n).1 (List.mem_of_getLast? hl)).1
  obtain rfl := Option.some.inj (hf.symm.trans hg)
  have hrel : f.released = false := by
    by_contra hr
    exact h.stopped n f hf (by simpa using hr) hrun
  rw [(h.holder key ⟨ticket, n⟩).2 ⟨hl, f, hf, ht, hrel⟩]
  rfl

theorem ne_of_ticket (t : Traffic) (n m : Nat) (f g : Flight) (ticket : Nat)
    (hf : t.flight? n = some f) (ht : f.ticket = none) (hg : t.flight? m = some g)
    (htg : g.ticket = some ticket) : m ≠ n := by
  rintro rfl
  obtain rfl := Option.some.inj (hf.symm.trans hg)
  exact absurd (ht.symm.trans htg) (by simp)

theorem not_holding (es : List Event) (t : Traffic) (h : Exact es t) (n : Nat) (f : Flight)
    (hf : t.flight? n = some f) (ht : f.ticket = none) (key : String) (holder : Holder)
    (hh : t.registry.holders.get? key = some holder) : holder.request ≠ n := by
  obtain ⟨-, g, hg, htg, -⟩ := (h.holder key holder).1 hh
  exact ne_of_ticket t n _ f g _ hf ht hg htg

theorem after_enter (es : List Event) (t : Traffic) (h : Exact es t) (n : Nat) (f : Flight)
    (key : String) (hf : t.flight? n = some f) (ht : f.ticket = none) (m : Nat) (g' : Flight) :
    (t.enter n f key).flight? m = some g' ↔
      m = n ∧ g' = { f with ticket := some (t.registry.last+1) } ∨
      m ≠ n ∧ ∃ g, t.flight? m = some g ∧ g' = t.evict key m g := by
  rw [flight?_enter t n f key hf (not_holding es t h n f hf ht key)]
  by_cases hm : m = n
  · simp [hm, eq_comm]
  · simp [hm, Option.map_eq_some_iff, eq_comm (b := g')]

theorem registeredUnder_enter (es : List Event) (t : Traffic) (h : Exact es t) (n : Nat)
    (f : Flight) (key : String) (hf : t.flight? n = some f) (hk : f.key = some key)
    (ht : f.ticket = none) (k : String) :
    registeredUnder (es ++ [.register n]) (t.enter n f key) k =
      registeredUnder es t k ++ if k = key then [n] else [] := by
  have hat := after_enter es t h n f key hf ht
  have hself := keyOf?_eq (t.enter n f key) n _ ((hat n _).2 (.inl ⟨rfl, rfl⟩))
  have hold : registeredUnder es (t.enter n f key) k = registeredUnder es t k := by
    apply registeredUnder_congr
    intro m hm
    obtain ⟨g, ticket, hg, htg⟩ := h.entered m hm
    have hne := ne_of_ticket t n m f g ticket hf ht hg htg
    rw [keyOf?_eq _ m _ ((hat m _).2 (.inr ⟨hne, g, hg, rfl⟩)), keyOf?_eq t m g hg, evict_key]
  rw [registeredUnder, registered_register, List.filter_append, ← hold]
  congr 1
  by_cases hkk : k = key
  · simp [hself, hk, hkk]
  · simp [hself, hk, hkk, Ne.symm hkk]

theorem holder_enter (es : List Event) (t : Traffic) (h : Exact es t) (n : Nat) (f : Flight)
    (key : String) (hf : t.flight? n = some f) (hk : f.key = some key) (ht : f.ticket = none)
    (hrel : f.released = false) (k : String) (holder : Holder) :
    (t.enter n f key).registry.holders.get? k = some holder ↔
      Holds (es ++ [.register n]) (t.enter n f key) k holder := by
  have hat := after_enter es t h n f key hf ht
  rw [enter_registry, Holds, registeredUnder_enter es t h n f key hf hk ht, Dictionary.get?_insert]
  by_cases hkk : key = k
  · subst hkk
    simp only [if_true, Option.some.injEq, List.getLast?_append, List.getLast?_singleton,
      Option.some_or]
    constructor
    · rintro rfl
      exact ⟨rfl, _, (hat n _).2 (.inl ⟨rfl, rfl⟩), rfl, hrel⟩
    · rintro ⟨hn, g', hg', htg, -⟩
      rcases (hat _ g').1 hg' with ⟨-, rfl⟩ | ⟨hne, -⟩
      · cases holder
        simp_all
      · exact absurd hn.symm hne
  · simp only [hkk, if_false, Ne.symm hkk, List.append_nil, h.holder, Holds]
    constructor
    · rintro ⟨hl, g, hg, htg, hgr⟩
      have hne := ne_of_ticket t n _ f g _ hf ht hg htg
      exact ⟨hl, _, (hat _ _).2 (.inr ⟨hne, g, hg, rfl⟩),
        (evict_ticket t key _ g).trans htg, (evict_released t key _ g).trans hgr⟩
    · rintro ⟨hl, g', hg', htg, hgr⟩
      rcases (hat _ g').1 hg' with ⟨hm, rfl⟩ | ⟨-, g, hg, rfl⟩
      · have hm' := (mem_registeredUnder es t k _).1 (List.mem_of_getLast? hl)
        obtain ⟨o, ticket, ho, hto⟩ := h.entered _ hm'.1
        exact absurd hm (ne_of_ticket t n _ f o ticket hf ht ho hto)
      · exact ⟨hl, g, hg, (evict_ticket t key _ g).symm.trans htg,
          (evict_released t key _ g).symm.trans hgr⟩

/-- After a registration a running request is the last one of its key, because the request that
was the last before held the key and was aborted. -/
theorem latest_enter (es : List Event) (t : Traffic) (h : Exact es t) (n : Nat) (f : Flight)
    (key : String) (hf : t.flight? n = some f) (hk : f.key = some key) (ht : f.ticket = none)
    (m : Nat) (g' : Flight) (k : String) (hg' : (t.enter n f key).flight? m = some g')
    (hm : m ∈ registeredUnder (es ++ [.register n]) (t.enter n f key) k)
    (hrun : g'.task = .running) :
    (registeredUnder (es ++ [.register n]) (t.enter n f key) k).getLast? = some m := by
  rw [registeredUnder_enter es t h n f key hf hk ht] at hm ⊢
  rcases (after_enter es t h n f key hf ht m g').1 hg' with ⟨rfl, rfl⟩ | ⟨hmn, g, hg, rfl⟩
  · have hkk : k = key := by
      by_contra hkk
      obtain ⟨o, ticket, ho, hto⟩ :=
        h.entered m ((mem_registeredUnder es t k m).1 (by simpa [hkk] using hm)).1
      exact ne_of_ticket t m m f o ticket hf ht ho hto rfl
    simp [hkk]
  · have hm' : m ∈ registeredUnder es t k := by
      rcases List.mem_append.1 hm with hm | hm
      · exact hm
      · split at hm <;> simp_all
    obtain ⟨hgrun, hheld⟩ := evict_running t key m g hrun
    have hl := h.latest m g k hg hm' hgrun
    have hkk : k ≠ key := by
      rintro rfl
      exact hheld (running_holds es t h m g k hg hgrun hl)
    simpa [hkk] using hl

theorem exact_register (es : List Event) (t : Traffic) (h : Exact es t) (n : Nat) (f : Flight)
    (key : String) (hf : t.flight? n = some f) (hk : f.key = some key) (ht : f.ticket = none)
    (hrel : f.released = false) : Exact (es ++ [.register n]) (t.enter n f key) := by
  have hat := after_enter es t h n f key hf ht
  constructor
  case entered =>
    intro m hm
    rw [registered_register, List.mem_append, List.mem_singleton] at hm
    by_cases hmn : m = n
    · exact ⟨_, _, (hat m _).2 (.inl ⟨hmn, rfl⟩), rfl⟩
    · obtain ⟨g, ticket, hg, htg⟩ := h.entered m (hm.resolve_right hmn)
      exact ⟨_, ticket, (hat m _).2 (.inr ⟨hmn, g, hg, rfl⟩), (evict_ticket t key m g).trans htg⟩
  case issued =>
    intro m g' ticket hg' htg
    rw [enter_registry]
    rcases (hat m g').1 hg' with ⟨-, rfl⟩ | ⟨-, g, hg, rfl⟩
    · exact Nat.le_of_eq (Option.some.inj htg).symm
    · rw [evict_ticket] at htg
      exact Nat.le_succ_of_le (h.issued m g ticket hg htg)
  case own =>
    intro m m' g g' ticket hg hg' htg htg'
    rcases (hat m g).1 hg with ⟨hm, rfl⟩ | ⟨hm, o, ho, rfl⟩ <;>
      rcases (hat m' g').1 hg' with ⟨hm', rfl⟩ | ⟨hm', o', ho', rfl⟩
    · exact hm.trans hm'.symm
    · rw [evict_ticket] at htg'
      have hle := h.issued m' o' ticket ho' htg'
      have heq := Option.some.inj htg
      omega
    · rw [evict_ticket] at htg
      have hle := h.issued m o ticket ho htg
      have heq := Option.some.inj htg'
      omega
    · rw [evict_ticket] at htg htg'
      exact h.own m m' o o' ticket ho ho' htg htg'
  case holder => exact holder_enter es t h n f key hf hk ht hrel
  case latest => exact latest_enter es t h n f key hf hk ht
  case stopped =>
    intro m g' hg' hgr
    rcases (hat m g').1 hg' with ⟨-, rfl⟩ | ⟨-, g, hg, rfl⟩
    · exact absurd (hrel.symm.trans hgr) (by simp)
    · rw [evict_released] at hgr
      exact fun hrun => h.stopped m g hg hgr (evict_running t key m g hrun).1

theorem after_release (t : Traffic) (n : Nat) (f : Flight) (seen : Option Seen)
    (hf : t.flight? n = some f) (m : Nat) (g : Flight) :
    (t.release n f seen).flight? m = some g ↔
      m = n ∧ g = { f.abort with released := true, seen } ∨ m ≠ n ∧ t.flight? m = some g := by
  rw [flight?_release t n f seen hf]
  by_cases hm : m = n
  · simp [hm, eq_comm]
  · simp [hm]

theorem keeps_release (t : Traffic) (n : Nat) (f : Flight) (seen : Option Seen)
    (hf : t.flight? n = some f) : Keeps t (t.release n f seen) := by
  have hat := after_release t n f seen hf
  constructor
  case old =>
    intro m g hg
    by_cases hm : m = n
    · subst hm
      obtain rfl := Option.some.inj (hf.symm.trans hg)
      exact ⟨_, (hat m _).2 (.inl ⟨rfl, rfl⟩), abort_key f, abort_ticket f⟩
    · exact ⟨g, (hat m g).2 (.inr ⟨hm, hg⟩), rfl, rfl⟩
  case back =>
    intro m g ticket hg ht
    rcases (hat m g).1 hg with ⟨rfl, rfl⟩ | ⟨-, hg⟩
    · refine ⟨f, hf, (abort_ticket f).symm.trans ht, fun hrun => ?_⟩
      exact absurd hrun (abort_task_ne_running f)
    · exact ⟨g, hg, ht, id⟩
  case last => exact release_last t n f seen

theorem holder_release (es : List Event) (t : Traffic) (h : Exact es t) (n : Nat) (f : Flight)
    (seen : Option Seen) (hf : t.flight? n = some f) (k : String) (holder : Holder) :
    (t.release n f seen).registry.holders.get? k = some holder ↔
      t.registry.holders.get? k = some holder ∧ holder.request ≠ n := by
  have hown : t.registry.holders.get? k = some holder → holder.request = n →
      f.key = some k ∧ f.ticket = some holder.ticket := by
    rintro hh rfl
    obtain ⟨hl, g, hg, ht, -⟩ := (h.holder k holder).1 hh
    obtain rfl := Option.some.inj (hf.symm.trans hg)
    exact ⟨keyOf?_of_registeredUnder es t k _ f hf hl, ht⟩
  by_cases hplain : f.key = none ∨ f.ticket = none
  · rw [release_registry_of_unkeyed t n f seen hplain]
    refine ⟨fun hh => ⟨hh, fun hn => ?_⟩, And.left⟩
    have hboth := hown hh hn
    simp [hboth.1, hboth.2] at hplain
  · obtain ⟨key, hk⟩ := Option.ne_none_iff_exists'.1 (not_or.1 hplain).1
    obtain ⟨ticket, ht⟩ := Option.ne_none_iff_exists'.1 (not_or.1 hplain).2
    rw [release_holders t n f seen key ticket hk ht]
    constructor
    · intro hh
      split at hh
      · exact absurd hh (by simp)
      · rename_i hkeep
        refine ⟨hh, fun hn => hkeep ?_⟩
        obtain ⟨hk', ht'⟩ := hown hh hn
        obtain rfl := Option.some.inj (hk.symm.trans hk')
        obtain rfl := Option.some.inj (ht.symm.trans ht')
        exact ⟨rfl, by rw [hh]; rfl⟩
    · rintro ⟨hh, hn⟩
      rw [if_neg, hh]
      rintro ⟨rfl, hsame⟩
      obtain ⟨-, g, hg, htg, -⟩ := (h.holder k holder).1 hh
      rw [hh, Option.map_some] at hsame
      exact hn (h.own _ n g f ticket hg hf (htg.trans hsame) ht)

theorem exact_release (es : List Event) (e : Event) (t : Traffic) (h : Exact es t) (n : Nat)
    (f : Flight) (seen : Option Seen) (hr : registered (es ++ [e]) = registered es)
    (hf : t.flight? n = some f) : Exact (es ++ [e]) (t.release n f seen) := by
  have hat := after_release t n f seen hf
  have hkeeps := keeps_release t n f seen hf
  apply exact_of_keeps es e t _ h hr hkeeps
  · intro key holder
    rw [holder_release es t h n f seen hf, h.holder, Holds, Holds,
      registeredUnder_of_keeps es e t _ h hr hkeeps]
    constructor
    · rintro ⟨⟨hl, g, hg, ht, hrel⟩, hn⟩
      exact ⟨hl, g, (hat _ g).2 (.inr ⟨hn, hg⟩), ht, hrel⟩
    · rintro ⟨hl, g, hg, ht, hrel⟩
      rcases (hat _ g).1 hg with ⟨-, rfl⟩ | ⟨hn, hg⟩
      · exact absurd hrel (by simp)
      · exact ⟨⟨hl, g, hg, ht, hrel⟩, hn⟩
  · intro m g hg hrel
    rcases (hat m g).1 hg with ⟨-, rfl⟩ | ⟨-, hg⟩
    · exact abort_task_ne_running f
    · exact h.stopped m g hg hrel

/-- One step keeps the registry exact. -/
theorem exact_step (es : List Event) (e : Event) (t t' : Traffic) (h : Exact es t)
    (hs : Step t e t') : Exact (es ++ [e]) t' := by
  cases hs with
  | spawn key =>
    refine exact_quiet es _ t _ h ?_ ?_ ?_ ?_
    · simp [registered]
    · rfl
    · intro n f hf
      refine ⟨f.task, ?_, id⟩
      rw [flight?_spawn, if_neg (ne_next t n f hf)]
      exact hf
    · intro n f' hf' hnone
      rw [flight?_spawn] at hf'
      split at hf'
      · obtain rfl := Option.some.inj hf'
        exact ⟨rfl, rfl⟩
      · exact absurd (hnone.symm.trans hf') (by simp)
  | register found keyed fresh kept => exact exact_register es t h _ _ _ found keyed fresh kept
  | @finish n f found runs =>
    refine exact_quiet es _ t _ h ?_ ?_ ?_ ?_
    · simp [registered]
    · rfl
    · intro m g hg
      rw [flight?_set t n f _ found]
      by_cases hm : m = n
      · subst hm
        obtain rfl := Option.some.inj (found.symm.trans hg)
        exact ⟨.finished, by rw [if_pos rfl], by simp⟩
      · exact ⟨g.task, by rw [if_neg hm, hg], id⟩
    · intro m g hg hnone
      rw [flight?_set t n f _ found] at hg
      split at hg
      · simp_all
      · exact absurd (hnone.symm.trans hg) (by simp)
  | answer found _ _ => exact exact_release es _ t h _ _ _ (by simp [registered]) found
  | cancelled found _ _ => exact exact_release es _ t h _ _ _ (by simp [registered]) found
  | drop found _ => exact exact_release es _ t h _ _ _ (by simp [registered]) found

theorem exact_of_run (es : List Event) (t : Traffic) (run : Run es t) : Exact es t := by
  induction run with
  | start =>
    constructor
    case holder =>
      intro key holder
      simp [Holds, registeredUnder, registered]
    all_goals simp [registered, registeredUnder, flight?]
  | step e _ next ih => exact exact_step _ e _ _ ih (step_of_eq_some _ _ e next)

end RecordSelection.Traffic
