import RecordSelection.Proofs.Client.Outcome
import RecordSelection.Proofs.Client.Remaining

/-!
# Calls on one client in any order of their steps

A call is a sequence of requests, so other calls can go on between any two steps of it. It is begun
when its first request is in flight; it sees the end of a request, and only then makes the next
one. A run is an order of such steps of any number of calls on one client.
-/

set_option autoImplicit false

namespace RecordSelection

namespace Traffic

def ask (t : Traffic) (key : Option String) : Traffic := t.advanceAll [.spawn key, .register t.next]

structure Asked (t : Traffic) (key : Option String) (t' : Traffic) : Prop where
  run : ∃ es, Run es t'
  own : ∃ f, t'.flight? t.next = some f ∧ f.key = key ∧ f.task = .running ∧ f.isAwaited = true
  others : ∀ n f, t.flight? n = some f → ∃ f', t'.flight? n = some f' ∧
    (f' = f ∨ ∃ k, key = some k ∧ f.key = some k ∧ f' = f.abort)

theorem ask_eq_register (es : List Event) (t : Traffic) (run : Run es t) (key : Option String) :
    ∃ u : Traffic, t.ask key = u.advance (.register t.next) ∧ Run (es ++ [.spawn key]) u ∧
      u.flight? t.next = some ({ key } : Flight) ∧
      ∀ n f, t.flight? n = some f → u.flight? n = some f := by
  refine ⟨_, rfl, .step _ run rfl, ?_, fun n f hf => ?_⟩
  · exact (flight?_spawn t key t.next).trans (if_pos rfl)
  · exact (flight?_spawn t key n).trans ((if_neg (ne_next t n f hf)).trans hf)

theorem asked_ask (es : List Event) (t : Traffic) (run : Run es t) (key : Option String) :
    Asked t key (t.ask key) := by
  obtain ⟨u, hask, hspawn, hnew, hold⟩ := ask_eq_register es t run key
  cases key with
  | none =>
    have hstep : u.step (.register t.next) = none := by simp [step, hnew]
    rw [hask, advance, hstep]
    exact ⟨⟨_, hspawn⟩, ⟨_, hnew, rfl, rfl, rfl⟩, fun n f hf => ⟨f, hold n f hf, .inl rfl⟩⟩
  | some k =>
    have hs : Step u (.register t.next) _ := .register hnew rfl rfl rfl
    have hstep := step_eq_some_of_step u _ _ hs
    have h := exact_of_run _ u hspawn
    have hkey : u.keyOf? t.next = some k := keyOf?_eq u t.next _ hnew
    rw [hask, advance, hstep]
    refine ⟨⟨_, .step _ hspawn hstep⟩, ?_, fun n f hf => ?_⟩
    · obtain ⟨f', hf', hchange⟩ := change_of_step _ _ u _ h hs t.next _ hnew
      cases hchange with
      | stays _ other _ => exact absurd rfl other
      | evicted _ _ other _ _ => exact absurd rfl other
      | registered ticket _ _ _ => exact ⟨_, hf', rfl, rfl, rfl⟩
    · obtain ⟨f', hf', hchange⟩ := change_of_step _ _ u _ h hs n f (hold n f hf)
      refine ⟨f', hf', ?_⟩
      cases hchange with
      | stays _ _ _ => exact .inl rfl
      | evicted _ key _ keyed held =>
        obtain rfl := Option.some.inj (hkey.symm.trans keyed)
        obtain ⟨-, hn⟩ := registered_of_heldBy _ u h n k held
        exact .inr ⟨k, rfl, (keyOf?_eq u n f (hold n f hf)).symm.trans hn, rfl⟩
      | registered _ _ _ _ => exact absurd rfl (ne_next t _ f hf)

theorem flight?_of_step_other (es : List Event) (e : Event) (t t' : Traffic) (h : Exact es t)
    (hs : Step t e t') (n m : Nat) (he : e.request? = some n) (hregister : ∀ k, e ≠ .register k)
    (hm : m ≠ n) (f : Flight) (hf : t.flight? m = some f) : t'.flight? m = some f := by
  obtain ⟨f', hf', hchange⟩ := change_of_step es e t t' h hs m f hf
  cases hchange with
  | stays _ _ _ => exact hf'
  | evicted k _ _ _ _ => exact absurd rfl (hregister k)
  | registered _ _ _ _ => exact absurd rfl (hregister m)
  | _ => exact absurd (Option.some.inj he) hm

end Traffic

variable {γ β : Type}

/-- How far a call has come: it waits for the end of a request, or is between two requests or at
its end, or its caller went away. -/
inductive Stage (β : Type) where
  | waiting (request : Nat) (resume : Json → Exchange β)
  | ready (rest : Exchange β)
  | abandoned

structure Party (γ β : Type) where
  call : γ
  stage : Stage β

structure Calls (γ β : Type) where
  traffic : Traffic := {}
  parties : List (Party γ β) := []

namespace Calls

inductive Event (γ : Type) where
  | begin (call : γ)
  | ask (call : Nat)
  | finish (call : Nat)
  | resume (call : Nat) (fetched : Fetched)
  | drop (call : Nat)

def put (s : Calls γ β) (i : Nat) (c : γ) (stage : Stage β) : Calls γ β :=
  { s with parties := s.parties.set i ⟨c, stage⟩ }

def add (s : Calls γ β) (c : γ) (stage : Stage β) : Calls γ β :=
  { s with parties := s.parties ++ [⟨c, stage⟩] }

def party? (s : Calls γ β) (i : Nat) : Option (Party γ β) := s.parties[i]?

inductive Step (exchange : γ → Exchange β) (s : Calls γ β) : Event γ → Calls γ β → Prop where
  | ended {c : γ} {result : Except ClientFault β} (runs : exchange c = .done result) :
      Step exchange s (.begin c) (s.add c (.ready (.done result)))
  | begun {c : γ} {request : Request} {key : Option String} {resume : Json → Exchange β}
      (runs : exchange c = .get request key resume) :
      Step exchange s (.begin c)
        ({ s with traffic := s.traffic.ask key }.add c (.waiting s.traffic.next resume))
  | asked {i : Nat} {c : γ} {request : Request} {key : Option String}
      {resume : Json → Exchange β}
      (found : s.party? i = some ⟨c, .ready (.get request key resume)⟩) :
      Step exchange s (.ask i)
        ({ s with traffic := s.traffic.ask key }.put i c (.waiting s.traffic.next resume))
  | finished {i : Nat} {c : γ} {n : Nat} {resume : Json → Exchange β} {t : Traffic}
      (found : s.party? i = some ⟨c, .waiting n resume⟩)
      (next : s.traffic.step (.finish n) = some t) :
      Step exchange s (.finish i) { s with traffic := t }
  | resumed {i : Nat} {c : γ} {n : Nat} {resume : Json → Exchange β} {t : Traffic}
      {result : Except ClientFault Json} (fetched : Fetched)
      (found : s.party? i = some ⟨c, .waiting n resume⟩)
      (next : s.traffic.step (.resume n) = some t)
      (got : t.result? (fun _ => fetched) n = some result) :
      Step exchange s (.resume i fetched)
        ({ s with traffic := t }.put i c (.ready ((Exchange.done result).bind resume)))
  | dropped {i : Nat} {c : γ} {n : Nat} {resume : Json → Exchange β} {t : Traffic}
      (found : s.party? i = some ⟨c, .waiting n resume⟩)
      (next : s.traffic.step (.drop n) = some t) :
      Step exchange s (.drop i) ({ s with traffic := t }.put i c .abandoned)

inductive Run (exchange : γ → Exchange β) : List (Event γ) → Calls γ β → Prop where
  | start : Run exchange [] {}
  | step {es : List (Event γ)} {s s' : Calls γ β} (e : Event γ) (run : Run exchange es s)
      (next : Step exchange s e s') : Run exchange (es ++ [e]) s'

theorem party?_add (s : Calls γ β) (c : γ) (stage : Stage β) (i : Nat) :
    (s.add c stage).party? i = if i = s.parties.length then some ⟨c, stage⟩ else s.party? i := by
  unfold party? add
  rcases Nat.lt_trichotomy i s.parties.length with h | h | h
  · rw [if_neg (Nat.ne_of_lt h)]
    exact List.getElem?_append_left h
  · rw [if_pos h, h]
    exact List.getElem?_concat_length
  · rw [if_neg (Nat.ne_of_gt h), List.getElem?_eq_none (by simp; omega),
      List.getElem?_eq_none (by omega)]

theorem party?_put (s : Calls γ β) (i : Nat) (c : γ) (p : Party γ β) (stage : Stage β)
    (found : s.party? i = some p) (j : Nat) :
    (s.put i c stage).party? j = if j = i then some ⟨c, stage⟩ else s.party? j := by
  obtain ⟨hi, -⟩ := List.getElem?_eq_some_iff.1 found
  unfold party? put
  rw [List.getElem?_set]
  by_cases h : i = j
  · simp [h.symm, hi]
  · simp [h, Ne.symm h]

/-- What holds of the calls after a run: those that wait have requests of their own, which are
unreleased, and those that have a further request to make have had an answer. -/
structure Orderly (exchange : γ → Exchange β) (s : Calls γ β) : Prop where
  traffic : ∃ es, Traffic.Run es s.traffic
  waiting : ∀ i c n resume, s.party? i = some ⟨c, .waiting n resume⟩ →
    ∃ request f, (exchange c).Reaches (.get request f.key resume) ∧
      s.traffic.flight? n = some f ∧ f.isAwaited = true
  further : ∀ i c request key resume, s.party? i = some ⟨c, .ready (.get request key resume)⟩ →
    ∃ r k next first, exchange c = .get r k next ∧
      (next first).Reaches (.get request key resume)
  apart : ∀ i j c d n resume next, s.party? i = some ⟨c, .waiting n resume⟩ →
    s.party? j = some ⟨d, .waiting n next⟩ → i = j

section

variable {exchange : γ → Exchange β} {s s' : Calls γ β}

theorem orderly_ask (h : Orderly exchange s) (i : Nat) (c : γ) (request : Request)
    (key : Option String) (resume : Json → Exchange β)
    (runs : (exchange c).Reaches (.get request key resume))
    (traffic : s'.traffic = s.traffic.ask key)
    (parties : ∀ j, s'.party? j =
      if j = i then some ⟨c, .waiting s.traffic.next resume⟩ else s.party? j) :
    Orderly exchange s' := by
  obtain ⟨es, run⟩ := h.traffic
  have hasked := Traffic.asked_ask es s.traffic run key
  rw [← traffic] at hasked
  have hold : ∀ j d n next, j ≠ i → s'.party? j = some ⟨d, .waiting n next⟩ →
      s.party? j = some ⟨d, .waiting n next⟩ ∧ n ≠ s.traffic.next := by
    intro j d n next hj hd
    rw [parties j, if_neg hj] at hd
    obtain ⟨-, f, -, hf, -⟩ := h.waiting j d n next hd
    exact ⟨hd, Traffic.ne_next s.traffic n f hf⟩
  have hnew : ∀ d n next, s'.party? i = some ⟨d, .waiting n next⟩ →
      d = c ∧ n = s.traffic.next ∧ next = resume := by
    intro d n next hd
    rw [parties i, if_pos rfl] at hd
    simpa [eq_comm] using hd
  refine ⟨hasked.run, ?_, ?_, ?_⟩
  · intro j d n next hd
    by_cases hj : j = i
    · subst hj
      obtain ⟨rfl, rfl, rfl⟩ := hnew d n next hd
      obtain ⟨f, hf, rfl, -, hawaited⟩ := hasked.own
      exact ⟨request, f, runs, hf, hawaited⟩
    · obtain ⟨r, f, hreach, hf, hawaited⟩ := h.waiting j d n next (hold j d n next hj hd).1
      obtain ⟨f', hf', rfl | ⟨-, -, -, rfl⟩⟩ := hasked.others n f hf
      · exact ⟨r, f', hreach, hf', hawaited⟩
      · exact ⟨r, f.abort, by simpa using hreach, hf', by simpa [Flight.isAwaited] using hawaited⟩
  · intro j d r k next hd
    rw [parties j] at hd
    split at hd
    · simp at hd
    · exact h.further j d r k next hd
  · intro j k d d' n next next' hd hd'
    by_cases hj : j = i
    · subst hj
      by_contra hk
      exact (hold k d' n next' (Ne.symm hk) hd').2 (hnew d n next hd).2.1
    · have hn := hold j d n next hj hd
      by_cases hk : k = i
      · subst hk
        exact absurd (hnew d' n next' hd').2.1 hn.2
      · exact h.apart j k d d' n next next' hn.1 (hold k d' n next' hk hd').1

theorem flight?_of_other (h : Orderly exchange s) (i : Nat) (c : γ) (n : Nat)
    (resume : Json → Exchange β) (found : s.party? i = some ⟨c, .waiting n resume⟩)
    (e : Traffic.Event) (own : e.request? = some n) (hregister : ∀ k, e ≠ .register k)
    (t : Traffic) (next : s.traffic.step e = some t) (j : Nat) (d : γ) (m : Nat)
    (rest : Json → Exchange β) (hd : s.party? j = some ⟨d, .waiting m rest⟩) (hj : j ≠ i) :
    t.flight? m = s.traffic.flight? m := by
  obtain ⟨es, run⟩ := h.traffic
  obtain ⟨-, f, -, hf, -⟩ := h.waiting j d m rest hd
  have hm : m ≠ n := by
    rintro rfl
    exact hj (h.apart j i d c m rest resume hd found)
  have hexact := Traffic.exact_of_run es s.traffic run
  have hs := Traffic.step_of_eq_some s.traffic t e next
  rw [Traffic.flight?_of_step_other es e s.traffic t hexact hs n m own hregister hm f hf, hf]

theorem orderly_own (h : Orderly exchange s) (i : Nat) (c : γ) (n : Nat)
    (resume : Json → Exchange β) (found : s.party? i = some ⟨c, .waiting n resume⟩)
    (e : Traffic.Event) (own : e.request? = some n) (hregister : ∀ k, e ≠ .register k)
    (next : s.traffic.step e = some s'.traffic) (p : Party γ β)
    (parties : ∀ j, s'.party? j = if j = i then some p else s.party? j)
    (waits : ∀ d m rest, p = ⟨d, .waiting m rest⟩ → d = c ∧ m = n ∧ rest = resume ∧
      ∀ f, s.traffic.flight? n = some f → f.isAwaited = true →
        ∃ f', s'.traffic.flight? n = some f' ∧ f'.key = f.key ∧ f'.isAwaited = true)
    (further : ∀ d r k rest, p = ⟨d, .ready (.get r k rest)⟩ →
      ∃ r' k' rest' first, exchange d = .get r' k' rest' ∧
        (rest' first).Reaches (.get r k rest)) : Orderly exchange s' := by
  obtain ⟨es, run⟩ := h.traffic
  have hold : ∀ j d m rest, s'.party? j = some ⟨d, .waiting m rest⟩ →
      s.party? j = some ⟨d, .waiting m rest⟩ := by
    intro j d m rest hd
    rw [parties j] at hd
    split at hd
    · rename_i hj
      obtain ⟨rfl, rfl, rfl, -⟩ := waits d m rest (Option.some.inj hd)
      rw [hj, found]
    · exact hd
  refine ⟨⟨_, .step e run next⟩, ?_, ?_, ?_⟩
  · intro j d m rest hd
    obtain ⟨r, f, hreach, hf, hawaited⟩ := h.waiting j d m rest (hold j d m rest hd)
    by_cases hj : j = i
    · subst hj
      rw [parties j, if_pos rfl] at hd
      obtain ⟨-, rfl, -, hown⟩ := waits d m rest (Option.some.inj hd)
      obtain ⟨f', hf', hkey, hawaited'⟩ := hown f hf hawaited
      exact ⟨r, f', hkey ▸ hreach, hf', hawaited'⟩
    · have hsame := flight?_of_other h i c n resume found e own hregister _ next j d m rest
        (hold j d m rest hd) hj
      exact ⟨r, f, hreach, hsame.trans hf, hawaited⟩
  · intro j d r k rest hd
    rw [parties j] at hd
    split at hd
    · exact further d r k rest (Option.some.inj hd)
    · exact h.further j d r k rest hd
  · intro j k d d' m rest rest' hd hd'
    exact h.apart j k d d' m rest rest' (hold j d m rest hd) (hold k d' m rest' hd')

theorem orderly_step (h : Orderly exchange s) (e : Event γ) (hs : Step exchange s e s') :
    Orderly exchange s' := by
  cases hs with
  | @ended c result runs =>
    have hold : ∀ i d n resume, (s.add c (.ready (.done result))).party? i =
        some ⟨d, .waiting n resume⟩ → s.party? i = some ⟨d, .waiting n resume⟩ := by
      intro i d n resume hd
      rw [party?_add] at hd
      split at hd
      · simp at hd
      · exact hd
    refine ⟨h.traffic, fun i d n resume hd => h.waiting i d n resume (hold i d n resume hd), ?_,
      fun i j d d' n resume next hd hd' =>
        h.apart i j d d' n resume next (hold i d n resume hd) (hold j d' n next hd')⟩
    intro i d r k resume hd
    rw [party?_add] at hd
    split at hd
    · simp at hd
    · exact h.further i d r k resume hd
  | @begun c request key resume runs =>
    refine orderly_ask h s.parties.length c request key resume ?_ rfl (party?_add _ c _)
    rw [runs]
    exact .here _
  | @asked i c request key resume found =>
    obtain ⟨r, k, next, first, hfirst, hreach⟩ := h.further i c request key resume found
    refine orderly_ask h i c request key resume ?_ rfl (party?_put _ i c _ _ found)
    rw [hfirst]
    exact .after first hreach
  | @finished i c n resume t found next =>
    refine orderly_own h i c n resume found (.finish n) rfl nofun
      next ⟨c, .waiting n resume⟩ ?_ ?_ nofun
    · intro j
      by_cases hj : j = i
      · rw [if_pos hj, hj]
        exact found
      · rw [if_neg hj]
        rfl
    · rintro d m rest ⟨⟩
      refine ⟨rfl, rfl, rfl, fun f hf hawaited => ?_⟩
      obtain ⟨es, run⟩ := h.traffic
      have hs := Traffic.step_of_eq_some _ _ _ next
      obtain ⟨f', hf', hchange⟩ :=
        Traffic.change_of_step es _ _ _ (Traffic.exact_of_run es _ run) hs n f hf
      cases hchange with
      | stays _ other _ => exact absurd rfl other
      | finished _ => exact ⟨_, hf', rfl, hawaited⟩
  | @resumed i c n resume t result fetched found next got =>
    refine orderly_own h i c n resume found (.resume n) rfl nofun next _
      (party?_put _ i c _ _ found) nofun ?_
    rintro d r k rest hd
    obtain ⟨rfl, hrest⟩ : d = c ∧ (Exchange.done result).bind resume = .get r k rest := by
      simpa [eq_comm] using hd
    obtain ⟨request, f, hreach, -, -⟩ := h.waiting i d n resume found
    cases result with
    | ok value =>
      have hvalue : resume value = .get r k rest := hrest
      rw [← hvalue]
      exact Exchange.reaches_after_answer _ request f.key resume value hreach
    | error fault => exact nomatch hrest
  | @dropped i c n resume t found next =>
    exact orderly_own h i c n resume found (.drop n) rfl nofun next ⟨c, .abandoned⟩
      (party?_put _ i c _ _ found) nofun nofun

end

theorem orderly_of_run (exchange : γ → Exchange β) (es : List (Event γ)) (s : Calls γ β)
    (run : Run exchange es s) : Orderly exchange s := by
  induction run with
  | start =>
    constructor
    case traffic => exact ⟨[], .start⟩
    all_goals simp [party?]
  | step e _ next ih => exact orderly_step ih e next

end Calls

end RecordSelection
