import Mathlib.Data.List.Basic
import RecordSelection.Proofs.Client.Requests

/-!
# What is left of a call

The calls of a client as data, and what can be left of one after some answers. Every call makes a
request, all its requests carry its own key and the credentials of its client, and it never ends by
itself as cancelled. Only the call that asks for all records can have a second request to make.
-/

set_option autoImplicit false

namespace RecordSelection

namespace Exchange

variable {α β : Type}

/-- The other call is what is left of the call after some answers, or the call itself. -/
inductive Reaches : Exchange α → Exchange α → Prop where
  | here (e : Exchange α) : Reaches e e
  | after {request : Request} {key : Option String} {resume : Json → Exchange α}
      {e : Exchange α} (value : Json) (rest : Reaches (resume value) e) :
      Reaches (.get request key resume) e

theorem eq_of_reaches_done (result : Except ClientFault α) (e : Exchange α)
    (h : Reaches (.done result) e) : e = .done result := by
  cases h
  rfl

theorem reaches_answer (e : Exchange α) (request : Request) (key : Option String)
    (resume : Json → Exchange α) (value : Json) (h : Reaches e (.get request key resume)) :
    Reaches e (resume value) := by
  generalize hrest : Exchange.get request key resume = rest at h
  induction h with
  | here e =>
    subst hrest
    exact .after value (.here _)
  | after first _ ih => exact .after first (ih hrest)

theorem reaches_after_answer (e : Exchange α) (request : Request) (key : Option String)
    (resume : Json → Exchange α) (value : Json) (h : Reaches e (.get request key resume)) :
    ∃ r k next first, e = .get r k next ∧ Reaches (next first) (resume value) := by
  cases h with
  | here e => exact ⟨request, key, resume, value, rfl, .here _⟩
  | after first rest => exact ⟨_, _, _, first, rfl, reaches_answer _ request key resume value rest⟩

theorem asks_of_reaches (e : Exchange α) (request : Request) (key : Option String)
    (resume : Json → Exchange α) (h : Reaches e (.get request key resume)) :
    e.Asks request key := by
  generalize hrest : Exchange.get request key resume = rest at h
  induction h with
  | here e =>
    subst hrest
    exact .now request key resume
  | after value _ ih => exact .later value (ih hrest)

theorem reaches_done_of_bind (e : Exchange α) (next : α → Exchange β)
    (result : Except ClientFault β) (h : Reaches (e.bind next) (.done result)) :
    (∃ fault, result = .error fault ∧ Reaches e (.done (.error fault))) ∨
      ∃ value, Reaches (next value) (.done result) := by
  induction e with
  | done own =>
    cases own with
    | ok value => exact .inr ⟨value, h⟩
    | error fault =>
      have hend := eq_of_reaches_done _ _ h
      exact .inl ⟨fault, by simpa using hend, .here _⟩
  | get request key resume ih =>
    cases h with
    | after value rest =>
      rcases ih value rest with ⟨fault, hfault, hend⟩ | hnext
      · exact .inl ⟨fault, hfault, .after value hend⟩
      · exact .inr hnext

def IsDone (e : Exchange α) : Prop := ∃ result, e = .done result

theorem isDone_bind (e : Exchange α) (next : α → Exchange β) (h : e.IsDone)
    (hnext : ∀ value, (next value).IsDone) : (e.bind next).IsDone := by
  obtain ⟨result, rfl⟩ := h
  cases result with
  | ok value => exact hnext value
  | error fault => exact ⟨.error fault, rfl⟩

/-- Whatever is answered, the call does not end as cancelled. -/
def Lasting (e : Exchange α) : Prop := ∀ key, ¬Reaches e (.done (.error (.cancelled key)))

theorem lasting_done_iff (result : Except ClientFault α) :
    Lasting (.done result) ↔ ∀ key, result ≠ .error (.cancelled key) := by
  constructor
  · rintro h key rfl
    exact h key (.here _)
  · intro h key hend
    have heq := eq_of_reaches_done _ _ hend
    exact h key (by simpa using heq.symm)

theorem lasting_bind (e : Exchange α) (next : α → Exchange β) (h : e.Lasting)
    (hnext : ∀ value, (next value).Lasting) : (e.bind next).Lasting := by
  intro key hend
  rcases reaches_done_of_bind e next _ hend with ⟨fault, hfault, hown⟩ | ⟨value, hrest⟩
  · obtain rfl := Except.error.inj hfault
    exact h key hown
  · exact hnext value key hrest

theorem asks_map_iff (f : α → β) (e : Exchange α) (r : Request) (k : Option String) :
    (e.map f).Asks r k ↔ e.Asks r k :=
  asks_bind_iff e _ r k fun _ => not_asks_done _ r k

theorem lasting_map (f : α → β) (e : Exchange α) (h : e.Lasting) : (e.map f).Lasting :=
  lasting_bind e _ h fun _ => (lasting_done_iff _).mpr (by simp)

end Exchange

namespace Client

variable {α : Type} (c : Client) (item : Json.Reader α) (collection : String) (p : Parameters)

theorem decode_ne_cancelled (value : Json) (key : String) :
    decode collection item value ≠ .error (.cancelled key) := by
  unfold decode
  cases Json.convert item value <;> simp [Except.mapError]

theorem lasting_send (page : Option Page) : (c.send collection p page).Lasting := by
  intro key h
  cases h with
  | after value rest => exact (Exchange.lasting_done_iff _).mpr (by simp) key rest

theorem lasting_getPage (page : Page) : (c.getPage item collection page p).Lasting := by
  apply Exchange.lasting_bind _ _ (lasting_send c collection p _)
  intro value
  exact (Exchange.lasting_done_iff _).mpr (decode_ne_cancelled _ collection value)

theorem lasting_getOne (id : String) : (c.getOne item collection id p).Lasting := by
  intro key h
  cases h with
  | after value rest =>
    exact (Exchange.lasting_done_iff _).mpr (decode_ne_cancelled item collection value) key rest

theorem lasting_getFirst : (c.getFirst item collection p).Lasting := by
  apply Exchange.lasting_bind _ _ (lasting_getPage c item collection p _)
  intro list
  split <;> exact (Exchange.lasting_done_iff _).mpr (by simp)

theorem lasting_getAllFrom (pages number : Nat) (found : List α) :
    (c.getAllFrom item collection p pages number found).Lasting := by
  induction pages generalizing number found with
  | zero => exact (Exchange.lasting_done_iff _).mpr (by simp)
  | succ pages ih =>
    apply Exchange.lasting_bind _ _ (lasting_getPage c item collection p _)
    intro list
    split
    · exact (Exchange.lasting_done_iff _).mpr (by simp)
    · exact ih _ _

end Client

inductive Call.Kind where
  | send (page : Option Page)
  | list (page : Page)
  | one (id : String)
  | first
  | all
  deriving DecidableEq, Repr

structure Call (α : Type) where
  client : Client
  item : Json.Reader α
  collection : String
  parameters : Parameters
  kind : Call.Kind

inductive Call.Given (α : Type) where
  | answer (value : Json)
  | list (page : RecordPage α)
  | record (value : α)
  | records (values : List α)

namespace Call

variable {α : Type}

def key (c : Call α) : Option String := c.parameters.requestKey

def exchange (c : Call α) : Exchange (Given α) :=
  match c.kind with
  | .send page => (c.client.send c.collection c.parameters page).map .answer
  | .list page => (c.client.getPage c.item c.collection page c.parameters).map .list
  | .one id => (c.client.getOne c.item c.collection id c.parameters).map .record
  | .first => (c.client.getFirst c.item c.collection c.parameters).map .record
  | .all => (c.client.getAll c.item c.collection c.parameters).map .records

theorem asks_exchange (c : Call α) (r : Request) (k : Option String) (h : c.exchange.Asks r k) :
    k = c.key ∧ ∃ id pairs, r = c.client.request c.collection id pairs := by
  unfold exchange at h
  cases hkind : c.kind with
  | send page =>
    simp only [hkind, Exchange.asks_map_iff, Client.send, Exchange.asks_get_iff] at h
    rcases h with ⟨hr, hk⟩ | ⟨value, hrest⟩
    · exact ⟨hk, none, _, hr⟩
    · exact absurd hrest (Exchange.not_asks_done _ r k)
  | list page =>
    simp only [hkind, Exchange.asks_map_iff, Client.asks_getPage_iff] at h
    exact ⟨h.2, none, _, h.1⟩
  | one id =>
    simp only [hkind, Exchange.asks_map_iff, Client.asks_getOne_iff] at h
    exact ⟨h.2, some id, _, h.1⟩
  | first =>
    simp only [hkind, Exchange.asks_map_iff, Client.asks_getFirst_iff] at h
    exact ⟨h.2, none, _, h.1⟩
  | all =>
    simp only [hkind, Exchange.asks_map_iff] at h
    obtain ⟨hk, n, -, hr⟩ := Client.asks_getAll _ _ _ _ r k h
    exact ⟨hk, none, _, hr⟩

theorem key_of_asks (c : Call α) (r : Request) (k : Option String) (h : c.exchange.Asks r k) :
    k = c.key := (c.asks_exchange r k h).1

theorem authorization_of_asks (c : Call α) (r : Request) (k : Option String)
    (h : c.exchange.Asks r k) : r.authorization = c.client.token := by
  obtain ⟨-, id, pairs, rfl⟩ := c.asks_exchange r k h
  rfl

theorem lasting_exchange (c : Call α) : c.exchange.Lasting := by
  unfold exchange
  cases c.kind with
  | send page => exact Exchange.lasting_map _ _ (Client.lasting_send _ _ _ _)
  | list page => exact Exchange.lasting_map _ _ (Client.lasting_getPage _ _ _ _ _)
  | one id => exact Exchange.lasting_map _ _ (Client.lasting_getOne _ _ _ _ _)
  | first => exact Exchange.lasting_map _ _ (Client.lasting_getFirst _ _ _ _)
  | all => exact Exchange.lasting_map _ _ (Client.lasting_getAllFrom _ _ _ _ _ _ _)

theorem exchange_eq_get (c : Call α) :
    ∃ request resume, c.exchange = .get request c.key resume := by
  unfold exchange
  cases c.kind with
  | all =>
    obtain ⟨pages, hpages⟩ := Client.getAll_eq c.client c.item c.collection c.parameters
    exact ⟨_, _, by rw [hpages]; rfl⟩
  | _ => exact ⟨_, _, rfl⟩

theorem isDone_of_answer (c : Call α) (single : c.kind ≠ .all) (request : Request)
    (key : Option String) (resume : Json → Exchange (Given α))
    (h : c.exchange = .get request key resume) (value : Json) : (resume value).IsDone := by
  have hend {β : Type} (result : Except ClientFault β) : (Exchange.done result).IsDone :=
    ⟨result, rfl⟩
  unfold exchange at h
  cases hkind : c.kind with
  | send page =>
    simp only [hkind] at h
    cases h
    exact hend _
  | list page =>
    simp only [hkind] at h
    cases h
    exact Exchange.isDone_bind _ _ (hend _) fun _ => hend _
  | one id =>
    simp only [hkind] at h
    cases h
    exact Exchange.isDone_bind _ _ (hend _) fun _ => hend _
  | first =>
    simp only [hkind] at h
    cases h
    refine Exchange.isDone_bind _ _ (Exchange.isDone_bind _ _ (hend _) fun list => ?_) fun _ =>
      hend _
    split <;> exact hend _
  | all => exact absurd hkind single

end Call

end RecordSelection
