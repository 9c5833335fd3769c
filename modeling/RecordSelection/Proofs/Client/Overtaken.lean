import RecordSelection.Proofs.Client.Calls

/-!
# Calls that are overtaken

Which calls end as cancelled when calls come in any order on one client. A request that is made
later takes the key, and a call that asks for all records makes one for every page. So it can
overtake a call that was begun after it; every other call can only overtake older ones.
-/

set_option autoImplicit false

namespace RecordSelection.Calls

variable {α : Type}

/-- In one step of the run, while the call waits, another one with the key makes a request: it is
begun then, after the call, or it asks for all records and goes on to a further page. -/
def Overtaken (es : List (Event (Call α))) (i : Nat) (key : String) : Prop :=
  ∃ before e after mid c n resume other, es = before ++ e :: after ∧
    Run Call.exchange before mid ∧ mid.party? i = some ⟨c, .waiting n resume⟩ ∧
    other.key = some key ∧
    (e = .begin other ∨ ∃ j stage, e = .ask j ∧ j ≠ i ∧ mid.party? j = some ⟨other, stage⟩ ∧
      other.kind = .all)

theorem overtaken_append (es : List (Event (Call α))) (e : Event (Call α)) (i : Nat)
    (key : String) (h : Overtaken es i key) : Overtaken (es ++ [e]) i key := by
  obtain ⟨before, x, after, mid, c, n, resume, other, rfl, h⟩ := h
  exact ⟨before, x, after ++ [e], mid, c, n, resume, other, by simp, h⟩

structure Accounted (es : List (Event (Call α))) (s : Calls (Call α) (Call.Given α)) : Prop where
  waiting : ∀ i c n resume f, s.party? i = some ⟨c, .waiting n resume⟩ →
    s.traffic.flight? n = some f → f.task = .aborted →
    ∃ key, c.key = some key ∧ Overtaken es i key
  ended : ∀ i c key, s.party? i = some ⟨c, .ready (.done (.error (.cancelled key)))⟩ →
    c.key = some key ∧ Overtaken es i key

section

variable {es : List (Event (Call α))} {s s' : Calls (Call α) (Call.Given α)}

theorem key_of_waiting (run : Run Call.exchange es s) (i : Nat) (c : Call α) (n : Nat)
    (resume : Json → Exchange (Call.Given α)) (found : s.party? i = some ⟨c, .waiting n resume⟩)
    (f : Flight) (hf : s.traffic.flight? n = some f) : f.key = c.key := by
  obtain ⟨request, g, hreach, hg, -⟩ := (orderly_of_run _ es s run).waiting i c n resume found
  obtain rfl := Option.some.inj (hg.symm.trans hf)
  exact c.key_of_asks request g.key (Exchange.asks_of_reaches _ request g.key resume hreach)

theorem kind_of_further (run : Run Call.exchange es s) (i : Nat) (c : Call α) (request : Request)
    (key : Option String) (resume : Json → Exchange (Call.Given α))
    (found : s.party? i = some ⟨c, .ready (.get request key resume)⟩) :
    key = c.key ∧ c.kind = .all := by
  obtain ⟨r, k, next, first, hfirst, hreach⟩ :=
    (orderly_of_run _ es s run).further i c request key resume found
  constructor
  · apply c.key_of_asks request
    rw [hfirst]
    exact .later first (Exchange.asks_of_reaches _ request key resume hreach)
  · by_contra single
    obtain ⟨result, hresult⟩ := c.isDone_of_answer single r k next hfirst first
    rw [hresult] at hreach
    exact nomatch Exchange.eq_of_reaches_done _ _ hreach

theorem accounted_ask (run : Run Call.exchange es s) (h : Accounted es s) (e : Event (Call α))
    (j : Nat) (other : Call α) (resume : Json → Exchange (Call.Given α))
    (traffic : s'.traffic = s.traffic.ask other.key)
    (parties : ∀ i, s'.party? i =
      if i = j then some ⟨other, .waiting s.traffic.next resume⟩ else s.party? i)
    (makes : e = .begin other ∨
      ∃ stage, e = .ask j ∧ s.party? j = some ⟨other, stage⟩ ∧ other.kind = .all) :
    Accounted (es ++ [e]) s' := by
  have horderly := orderly_of_run _ es s run
  obtain ⟨tes, trun⟩ := horderly.traffic
  have hasked := Traffic.asked_ask tes s.traffic trun other.key
  rw [← traffic] at hasked
  refine ⟨fun i c n next f hi hf haborted => ?_, fun i c key hi => ?_⟩
  · rw [parties i] at hi
    split at hi
    · -- The request that was just made runs.
      obtain ⟨rfl, rfl, rfl⟩ : other = c ∧ s.traffic.next = n ∧ resume = next := by simpa using hi
      obtain ⟨g, hg, -, hruns, -⟩ := hasked.own
      obtain rfl := Option.some.inj (hg.symm.trans hf)
      exact absurd (hruns.symm.trans haborted) (by simp)
    · rename_i hij
      obtain ⟨-, g, -, hg, -⟩ := horderly.waiting i c n next hi
      obtain ⟨f', hf', hchange⟩ := hasked.others n g hg
      obtain rfl := Option.some.inj (hf'.symm.trans hf)
      rcases hchange with rfl | ⟨key, hkey, hgkey, -⟩
      · obtain ⟨key, hkey, hover⟩ := h.waiting i c n next _ hi hg haborted
        exact ⟨key, hkey, overtaken_append es e i key hover⟩
      · refine ⟨key, (key_of_waiting run i c n next hi g hg).symm.trans hgkey, ?_⟩
        refine ⟨es, e, [], s, c, n, next, other, rfl, run, hi, hkey, ?_⟩
        rcases makes with hbegin | ⟨stage, hask, hj, hall⟩
        · exact .inl hbegin
        · exact .inr ⟨j, stage, hask, Ne.symm hij, hj, hall⟩
  · rw [parties i] at hi
    split at hi
    · simp at hi
    · obtain ⟨hkey, hover⟩ := h.ended i c key hi
      exact ⟨hkey, overtaken_append es e i key hover⟩

theorem accounted_own (run : Run Call.exchange es s) (h : Accounted es s) (e : Event (Call α))
    (i : Nat) (c : Call α) (n : Nat) (resume : Json → Exchange (Call.Given α))
    (found : s.party? i = some ⟨c, .waiting n resume⟩) (te : Traffic.Event)
    (own : te.request? = some n) (hregister : ∀ k, te ≠ .register k)
    (next : s.traffic.step te = some s'.traffic)
    (parties : ∀ j, j ≠ i → s'.party? j = s.party? j)
    (waits : ∀ d m rest f, s'.party? i = some ⟨d, .waiting m rest⟩ →
      s'.traffic.flight? m = some f → f.task ≠ .aborted)
    (ends : ∀ d key, s'.party? i = some ⟨d, .ready (.done (.error (.cancelled key)))⟩ →
      d.key = some key ∧ Overtaken es i key) : Accounted (es ++ [e]) s' := by
  have horderly := orderly_of_run _ es s run
  refine ⟨fun j d m rest f hj hf haborted => ?_, fun j d key hj => ?_⟩
  · by_cases hij : j = i
    · subst hij
      exact absurd haborted (waits d m rest f hj hf)
    · rw [parties j hij] at hj
      have hsame := flight?_of_other horderly i c n resume found te own hregister _ next j d m rest
        hj hij
      rw [hsame] at hf
      obtain ⟨key, hkey, hover⟩ := h.waiting j d m rest f hj hf haborted
      exact ⟨key, hkey, overtaken_append es e j key hover⟩
  · by_cases hij : j = i
    · subst hij
      obtain ⟨hkey, hover⟩ := ends d key hj
      exact ⟨hkey, overtaken_append es e j key hover⟩
    · rw [parties j hij] at hj
      obtain ⟨hkey, hover⟩ := h.ended j d key hj
      exact ⟨hkey, overtaken_append es e j key hover⟩

theorem aborted_of_result (run : Run Call.exchange es s) (n : Nat) (f : Flight)
    (hf : s.traffic.flight? n = some f) (t : Traffic) (fetched : Fetched) (key : String)
    (next : s.traffic.step (.resume n) = some t)
    (got : t.result? (fun _ => fetched) n = some (.error (.cancelled key))) :
    f.task = .aborted ∧ f.key.getD "" = key := by
  obtain ⟨tes, trun⟩ := (orderly_of_run _ es s run).traffic
  have hs := Traffic.step_of_eq_some s.traffic t _ next
  obtain ⟨f', hf', hchange⟩ :=
    Traffic.change_of_step tes _ _ t (Traffic.exact_of_run tes _ trun) hs n f hf
  cases hchange with
  | stays _ other _ => exact absurd rfl other
  | answered _ _ =>
    rw [Traffic.result?_of_answer t _ n _ hf' rfl] at got
    exact absurd (Option.some.inj got) (fetched.own key)
  | cancelled _ ended =>
    rw [Traffic.result?_of_cancelled t _ n _ hf' rfl] at got
    exact ⟨ended, by simpa using got⟩

/-- A call that has ended as cancelled with the end of its request was overtaken, since no answer
makes it end so. -/
theorem overtaken_of_result (run : Run Call.exchange es s) (h : Accounted es s) (i : Nat)
    (c : Call α) (n : Nat) (resume : Json → Exchange (Call.Given α))
    (found : s.party? i = some ⟨c, .waiting n resume⟩) (t : Traffic) (fetched : Fetched)
    (result : Except ClientFault Json) (key : String)
    (next : s.traffic.step (.resume n) = some t)
    (got : t.result? (fun _ => fetched) n = some result)
    (ends : (Exchange.done result).bind resume = .done (.error (.cancelled key))) :
    c.key = some key ∧ Overtaken es i key := by
  obtain ⟨request, f, hreach, hf, -⟩ := (orderly_of_run _ es s run).waiting i c n resume found
  cases result with
  | ok value =>
    have hcancelled := Exchange.reaches_answer _ request f.key resume value hreach
    rw [show resume value = .done (.error (.cancelled key)) from ends] at hcancelled
    exact absurd hcancelled (c.lasting_exchange key)
  | error fault =>
    obtain rfl : fault = .cancelled key := by simpa [Exchange.bind] using ends
    obtain ⟨haborted, hkey⟩ := aborted_of_result run n f hf t fetched key next got
    obtain ⟨own, hown, hover⟩ := h.waiting i c n resume f found hf haborted
    rw [key_of_waiting run i c n resume found f hf, hown] at hkey
    obtain rfl : own = key := hkey
    exact ⟨hown, hover⟩

theorem accounted_step (run : Run Call.exchange es s) (h : Accounted es s) (e : Event (Call α))
    (hs : Step Call.exchange s e s') : Accounted (es ++ [e]) s' := by
  cases hs with
  | @ended c result runs =>
    obtain ⟨request, resume, hget⟩ := c.exchange_eq_get
    exact absurd (runs.symm.trans hget) (by simp)
  | @begun c request key resume runs =>
    obtain ⟨r, next, hget⟩ := c.exchange_eq_get
    obtain ⟨-, rfl, -⟩ : request = r ∧ key = c.key ∧ resume = next := by
      simpa using runs.symm.trans hget
    exact accounted_ask run h _ s.parties.length c resume rfl (party?_add _ c _) (.inl rfl)
  | @asked i c request key resume found =>
    obtain ⟨rfl, hall⟩ := kind_of_further run i c request key resume found
    exact accounted_ask run h _ i c resume rfl (party?_put _ i c _ _ found)
      (.inr ⟨_, rfl, found, hall⟩)
  | @finished i c n resume t found next =>
    refine accounted_own run h _ i c n resume found (.finish n) rfl
      (by simp) next (fun _ _ => rfl) ?_ ?_
    · intro d m rest f hd hf
      obtain ⟨rfl, rfl, rfl⟩ : c = d ∧ n = m ∧ resume = rest := by
        simpa using found.symm.trans hd
      have hs := Traffic.step_of_eq_some _ _ _ next
      cases hs with
      | finish hfound _ =>
        rw [Traffic.flight?_set _ n _ _ hfound, if_pos rfl] at hf
        obtain rfl := Option.some.inj hf
        simp
    · intro d key hd
      exact absurd (found.symm.trans hd) (by simp)
  | @resumed i c n resume t result fetched found next got =>
    have hparty := party?_put { s with traffic := t } i c _
      (.ready ((Exchange.done result).bind resume)) found
    refine accounted_own run h _ i c n resume found (.resume n) rfl (by simp) next
      (fun j hj => (hparty j).trans (if_neg hj)) ?_ ?_
    · intro d m rest f hd
      rw [hparty i, if_pos rfl] at hd
      simp at hd
    · intro d key hd
      rw [hparty i, if_pos rfl] at hd
      obtain ⟨rfl, hend⟩ : c = d ∧ (Exchange.done result).bind resume =
          .done (.error (.cancelled key)) := by simpa using hd
      exact overtaken_of_result run h i c n resume found t fetched result key next got hend
  | @dropped i c n resume t found next =>
    have hparty := party?_put { s with traffic := t } i c _ .abandoned found
    refine accounted_own run h _ i c n resume found (.drop n) rfl (by simp) next
      (fun j hj => (hparty j).trans (if_neg hj)) ?_ ?_
    · intro d m rest f hd
      rw [hparty i, if_pos rfl] at hd
      simp at hd
    · intro d key hd
      rw [hparty i, if_pos rfl] at hd
      simp at hd

end

theorem accounted_of_run (es : List (Event (Call α))) (s : Calls (Call α) (Call.Given α))
    (run : Run Call.exchange es s) : Accounted es s := by
  induction run with
  | start => exact ⟨by simp [party?], by simp [party?]⟩
  | step e run next ih => exact accounted_step run ih e next

def pageOf (n : Nat) : Json := .object [("items", .list (List.replicate n .null))]

theorem items_replicate (n : Nat) :
    Json.Reader.items Json.Reader.any .parsed (Json.Draft.ofJson.ofItems (List.replicate n .null)) =
      .ok (List.replicate n .null) := by
  induction n with
  | zero => rfl
  | succ n ih =>
    rw [List.replicate_succ, Json.Draft.ofJson.ofItems, Json.Reader.items, ih]
    rfl

theorem decode_pageOf (n : Nat) :
    Client.decode "posts" (RecordPage.reader Json.Reader.any) (pageOf n) =
      .ok { items := List.replicate n .null } := by
  have hlist : Json.Reader.list Json.Reader.any .parsed
      (Json.Draft.ofJson (.list (List.replicate n .null))) = .ok (List.replicate n .null) := by
    change (Json.Reader.items Json.Reader.any .parsed _ >>= fun values => _) = _
    rw [items_replicate n]
    rfl
  change Except.mapError _ ((((Json.Reader.list Json.Reader.any) .parsed
    (Json.Draft.ofJson (.list (List.replicate n .null))) >>= _) >>= _) >>= _) = _
  rw [hlist]
  rfl

end RecordSelection.Calls
