import RecordSelection.Client.Basic

/-!
# The requests of a call

Which requests a call can make, and with which request key, whatever is answered.
-/

set_option autoImplicit false

namespace RecordSelection

namespace Exchange

variable {α β : Type}

/-- The call can come to make the request with the key. -/
inductive Asks : Exchange α → Request → Option String → Prop where
  | now (request : Request) (key : Option String) (resume : Json → Exchange α) :
      Asks (.get request key resume) request key
  | later {request r : Request} {key k : Option String} {resume : Json → Exchange α}
      (value : Json) (rest : Asks (resume value) r k) : Asks (.get request key resume) r k

theorem not_asks_done (result : Except ClientFault α) (r : Request) (k : Option String) :
    ¬Asks (.done result) r k := nofun

theorem asks_get_iff (request r : Request) (key k : Option String) (resume : Json → Exchange α) :
    Asks (.get request key resume) r k ↔
      (r = request ∧ k = key) ∨ ∃ value, Asks (resume value) r k := by
  constructor
  · rintro (_ | ⟨value, rest⟩)
    · exact .inl ⟨rfl, rfl⟩
    · exact .inr ⟨value, rest⟩
  · rintro (⟨rfl, rfl⟩ | ⟨value, rest⟩)
    · exact .now r k resume
    · exact .later value rest

theorem asks_of_asks_bind (e : Exchange α) (next : α → Exchange β) (r : Request)
    (k : Option String) (h : Asks (e.bind next) r k) :
    Asks e r k ∨ ∃ value, Asks (next value) r k := by
  induction e with
  | done result =>
    cases result with
    | ok value => exact .inr ⟨value, h⟩
    | error fault => exact absurd h (not_asks_done _ r k)
  | get request key resume ih =>
    rcases (asks_get_iff ..).mp h with ⟨rfl, rfl⟩ | ⟨value, rest⟩
    · exact .inl (.now ..)
    · exact (ih value rest).imp_left (.later value)

theorem asks_bind_of_asks (e : Exchange α) (next : α → Exchange β) (r : Request)
    (k : Option String) (h : Asks e r k) : Asks (e.bind next) r k := by
  induction h with
  | now request key resume => exact .now request key _
  | later value _ ih => exact .later value ih

theorem asks_bind_iff (e : Exchange α) (next : α → Exchange β) (r : Request)
    (k : Option String) (hnext : ∀ value, ¬Asks (next value) r k) :
    Asks (e.bind next) r k ↔ Asks e r k := by
  constructor
  · intro h
    exact (asks_of_asks_bind e next r k h).resolve_right fun ⟨value, h⟩ => hnext value h
  · exact asks_bind_of_asks e next r k

end Exchange

namespace Client

def loopback : Client :=
  { base := ⟨"http".toList, some { host := "[::1]".toList }, [[]], none, none⟩ }

theorem ofUrl_loopback : ofUrl "http://[::1]" = .ok loopback := rfl

variable {α : Type} (c : Client) (item : Json.Reader α) (collection : String) (p : Parameters)

def pageRequest (page : Page) : Request :=
  c.request collection none (p.pairs ++ page.pairs)

theorem asks_getPage_iff (page : Page) (r : Request) (k : Option String) :
    (c.getPage item collection page p).Asks r k ↔
      r = c.pageRequest collection p page ∧ k = p.requestKey := by
  rw [getPage, Exchange.asks_bind_iff _ _ _ _ fun _ => Exchange.not_asks_done _ r k, send,
    Exchange.asks_get_iff]
  simp [Exchange.not_asks_done, pageRequest]

theorem asks_getOne_iff (id : String) (r : Request) (k : Option String) :
    (c.getOne item collection id p).Asks r k ↔
      r = c.request collection (some id) p.pairs ∧ k = p.requestKey := by
  rw [getOne, Exchange.asks_get_iff]
  simp [Exchange.not_asks_done]

def firstPage : Page := { page := 1, perPage := 1, skipTotal := true }

theorem asks_getFirst_iff (r : Request) (k : Option String) :
    (c.getFirst item collection p).Asks r k ↔
      r = c.pageRequest collection p firstPage ∧ k = p.requestKey := by
  rw [getFirst, Exchange.asks_bind_iff, asks_getPage_iff, firstPage]
  intro list
  split <;> exact Exchange.not_asks_done _ r k

def batchPage (number : Nat) : Page := { page := number, perPage := batch, skipTotal := true }

theorem asks_getAllFrom (pages number : Nat) (found : List α) (r : Request) (k : Option String)
    (h : (c.getAllFrom item collection p pages number found).Asks r k) :
    k = p.requestKey ∧ ∃ n, number ≤ n ∧ r = c.pageRequest collection p (batchPage n) := by
  induction pages generalizing number found with
  | zero => exact absurd h (Exchange.not_asks_done _ r k)
  | succ pages ih =>
    rw [getAllFrom] at h
    rcases Exchange.asks_of_asks_bind _ _ r k h with hpage | ⟨list, hrest⟩
    · obtain ⟨hr, hk⟩ := (asks_getPage_iff c item collection p _ r k).mp hpage
      exact ⟨hk, number, Nat.le_refl number, hr⟩
    · split at hrest
      · exact absurd hrest (Exchange.not_asks_done _ r k)
      · obtain ⟨hk, n, hn, hr⟩ := ih _ _ hrest
        exact ⟨hk, n, by omega, hr⟩

theorem asks_getAll (r : Request) (k : Option String)
    (h : (c.getAll item collection p).Asks r k) :
    k = p.requestKey ∧ ∃ n, 1 ≤ n ∧ r = c.pageRequest collection p (batchPage n) :=
  asks_getAllFrom c item collection p _ 1 [] r k h

theorem pairs_batchPage (number : Nat) :
    (batchPage number).pairs =
      [("page", toString number), ("perPage", "500"), ("skipTotal", "1")] := by
  have hbatch : toString batch = "500" := by decide
  rw [batchPage, Page.pairs, hbatch]
  rfl

theorem pageRequest_batchPage (number : Nat) :
    c.pageRequest collection p (batchPage number) = c.request collection none
      (p.pairs ++ [("page", toString number), ("perPage", "500"), ("skipTotal", "1")]) := by
  rw [pageRequest, pairs_batchPage]

theorem getAll_eq :
    ∃ pages, c.getAll item collection p = c.getAllFrom item collection p (pages + 2) 1 [] :=
  ⟨Nat.pow 2 32 - 2, by rw [getAll, Nat.sub_add_cancel (by decide)]⟩

theorem getAll_asks_first :
    (c.getAll item collection p).Asks (c.pageRequest collection p (batchPage 1)) p.requestKey := by
  obtain ⟨pages, hpages⟩ := c.getAll_eq item collection p
  rw [hpages, getAllFrom]
  apply Exchange.asks_bind_of_asks
  exact (asks_getPage_iff c item collection p _ _ _).mpr ⟨rfl, rfl⟩

end Client

end RecordSelection
