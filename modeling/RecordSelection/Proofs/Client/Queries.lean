import RecordSelection.Proofs.Client.Addresses
import RecordSelection.Proofs.Shape.Checked

/-!
# Queries that a schema checked

The calls of a query ask with the parameters that a schema gave when it checked the query. These
parameters and the page are what the requests put behind the query of the base URL.
-/

set_option autoImplicit false

namespace RecordSelection.Query

open Client (presentPairs pagePairs)
open Url (Adds)

variable {α : Type}

/-- The calls of a query ask for the records of its selection with the parameters: for the page of
the query, for the first record, for one record, and for all of them page by page. -/
structure Carries (q : Query) (p : Parameters) (c : Client) (item : Json.Reader α) : Prop where
  send : ∀ r k, (q.send c item).Asks r k ↔
    r = c.pageRequest q.selection.key p q.page ∧ k = p.requestKey
  first : ∀ r k, (q.first c item).Asks r k ↔
    r = c.pageRequest q.selection.key p Client.firstPage ∧ k = p.requestKey
  view : ∀ id r k, (q.view c item id).Asks r k ↔
    r = c.request q.selection.key (some id) p.pairs ∧ k = p.requestKey
  all : ∀ r k, (q.all c item).Asks r k →
    k = p.requestKey ∧ ∃ n, 1 ≤ n ∧ r = c.pageRequest q.selection.key p (Client.batchPage n)
  begins : (q.all c item).Asks (c.pageRequest q.selection.key p (Client.batchPage 1)) p.requestKey

theorem carries_parameters (q : Query) (c : Client) (item : Json.Reader α) :
    q.Carries q.parameters c item where
  send := c.asks_getPage_iff item q.selection.key q.parameters q.page
  first := c.asks_getFirst_iff item q.selection.key q.parameters
  view := c.asks_getOne_iff item q.selection.key q.parameters
  all := c.asks_getAll item q.selection.key q.parameters
  begins := c.getAll_asks_first item q.selection.key q.parameters

/-- The pairs that the requests of a query put behind the query of the base URL: the parameters that
are present, then the page of the query, that of the first record, or one of all pages. -/
structure PutsOnUrl (q : Query) (p : Parameters) (c : Client) (item : Json.Reader α) : Prop where
  send : c.AsksWith (q.send c item) p.requestKey (presentPairs p ++ pagePairs (some q.page))
  first : c.AsksWith (q.first c item) p.requestKey
    (presentPairs p ++ [("page", "1"), ("perPage", "1"), ("skipTotal", "1")])
  view : ∀ id, c.AsksWith (q.view c item id) p.requestKey (presentPairs p)
  all : ∀ r k, (q.all c item).Asks r k → k = p.requestKey ∧ ∃ n, 1 ≤ n ∧
    Adds r.url.target c.base.target
      (presentPairs p ++ [("page", toString n), ("perPage", "500"), ("skipTotal", "1")])
  begins : ∃ r, (q.all c item).Asks r p.requestKey ∧ Adds r.url.target c.base.target
    (presentPairs p ++ [("page", "1"), ("perPage", "500"), ("skipTotal", "1")])

theorem putsOnUrl_of_carries (q : Query) (p : Parameters) (c : Client) (item : Json.Reader α)
    (hc : c.Accepted) (h : q.Carries p c item) : q.PutsOnUrl p c item where
  send := c.asksWith_pageRequest hc q.selection.key p q.page _ h.send
  first := c.asksWith_pageRequest hc q.selection.key p Client.firstPage _ h.first
  view id := c.asksWith_recordRequest hc q.selection.key id p _ (h.view id)
  all r k hasks := by
    obtain ⟨hk, n, hn, rfl⟩ := h.all r k hasks
    exact ⟨hk, n, hn, c.adds_batchRequest hc q.selection.key p n⟩
  begins := ⟨_, h.begins, c.adds_batchRequest hc q.selection.key p 1⟩

theorem validate_eq_ok_iff (q : Query) (schema : Schema) (checked : Compiled) :
    q.validate schema = .ok checked ↔ schema.compile q.selection = .ok checked := by
  unfold validate
  cases schema.compile q.selection <;> simp [Except.mapError]

/-- The parameters of a checked selection are those of the same selection unchecked. However a
query was adjusted, when a schema accepts it the parameters that come with its shape are its own,
and the ones its calls ask with and put on the URL. -/
theorem checked_parameters_asked (schema : Schema) :
    (∀ root checked, schema.compile root = .ok checked → checked.parameters = root.compile) ∧
    ∀ (start : Query) (settings : List Setting) (checked : Compiled),
      (start.applyAll settings).validate schema = .ok checked →
      (start.applyAll settings).parameters = checked.parameters ∧
      ∀ (α : Type) (c : Client) (item : Json.Reader α),
        (start.applyAll settings).Carries checked.parameters c item ∧
        (c.Accepted → (start.applyAll settings).PutsOnUrl checked.parameters c item) := by
  refine ⟨Schema.parameters_eq_compile schema, fun start settings checked h => ?_⟩
  have hchecked := (validate_eq_ok_iff _ schema checked).mp h
  have hparameters := Schema.parameters_eq_compile schema _ checked hchecked
  refine ⟨hparameters.symm, fun α c item => ?_⟩
  have hcarries : (start.applyAll settings).Carries checked.parameters c item := by
    rw [hparameters]
    exact carries_parameters _ c item
  exact ⟨hcarries, fun hc => putsOnUrl_of_carries _ _ c item hc hcarries⟩

/-- A query for the titles of posts that was adjusted after it was made asks with the last order
and with the request key. -/
theorem checked_parameters_of_posts :
    let entities := Dictionary.ofList [("posts", Dictionary.ofList [("title", FieldKind.text)])]
    let start : Query := { selection := { key := "posts", fields := some ["title"] } }
    let settings : List Setting := [.sort "title", .page 2, .sort "-title", .requestKey "feed"]
    ∃ schema checked, Schema.ofDeclarations entities .empty = .ok schema ∧
      (start.applyAll settings).validate schema = .ok checked ∧
      checked.parameters =
        { fields := some "title", sort := some "-title", requestKey := some "feed" } ∧
      (start.applyAll settings).parameters = checked.parameters ∧
      Client.loopback.AsksWith ((start.applyAll settings).send .loopback Json.Reader.any)
        (some "feed")
        [("fields", "title"), ("sort", "-title"), ("page", "2"), ("perPage", "30")] := by
  intro entities start settings
  let schema : Schema := ⟨entities, {}⟩
  have hvalid : (start.applyAll settings).validate schema = .ok
      ⟨{ fields := some "title", sort := some "-title", requestKey := some "feed" },
        ⟨"posts", true, [⟨"title", .text⟩], []⟩⟩ := rfl
  obtain ⟨hparameters, hasks⟩ := (checked_parameters_asked _).2 start settings _ hvalid
  have haccepted : Client.loopback.Accepted := ⟨_, Client.ofUrl_loopback⟩
  have hsend := ((hasks Json _ Json.Reader.any).2 haccepted).send
  have hpage : pagePairs (some (start.applyAll settings).page) =
      [("page", "2"), ("perPage", "30")] := by decide
  rw [hpage] at hsend
  exact ⟨_, _, rfl, hvalid, rfl, hparameters, hsend⟩

end RecordSelection.Query
