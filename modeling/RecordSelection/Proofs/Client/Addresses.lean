import RecordSelection.Proofs.Client.Requests
import RecordSelection.Proofs.Url.Form
import RecordSelection.Proofs.Url.Path

/-!
# What a request addresses

The target of a request taken apart again. Its query has the pairs of the base URL and then those
of the parameters and the page, byte for byte. Its path has the segments of the base URL and then
the names of the collection and the record; a name that is dots alone is left out of it, and tabs
and line ends are left out of every name.
-/

set_option autoImplicit false

namespace RecordSelection

namespace Url

def queryPairs (target : String) : List (List UInt8 × List UInt8) :=
  Form.pairsOf ((queryText target).getD [])

theorem sound_push (u : Url) (name : List Char) (h : u.Sound) : (push u name).Sound := by
  unfold push
  split
  · exact h
  · have hopened : ∀ t ∈ opened u.segments, SoundSegment t := by
      intro t ht
      unfold opened at ht
      split at ht
      · exact absurd ht List.not_mem_nil
      · exact h t ht
    have hadded := soundSegment_addSegment (isFileScheme u.scheme) true (opened u.segments) _
      (soundSegment_written u.scheme name) hopened
    intro t ht
    simp only [trimFile] at ht
    split at ht
    · exact hadded t (mem_of_mem_dropEmptyFront _ t ht)
    · exact hadded t ht

theorem query_push (u : Url) (name : List Char) : (push u name).query = u.query := by
  unfold push
  split <;> rfl

theorem pushAll_keeps (u : Url) (names : List (List Char)) (h : u.Sound) :
    (pushAll u names).Sound ∧ (pushAll u names).query = u.query := by
  induction names generalizing u with
  | nil => exact ⟨h, rfl⟩
  | cons name rest ih =>
    obtain ⟨hsound, hquery⟩ := ih (push u name) (sound_push u name h)
    exact ⟨hsound, hquery.trans (query_push u name)⟩

theorem extend_keeps (u : Url) (names : List (List Char)) (h : u.Sound) :
    (u.extend names).Sound ∧ (u.extend names).query = u.query := by
  apply pushAll_keeps { u with segments := popIfEmpty u.segments } names
  intro t ht
  simp only [popIfEmpty] at ht
  split at ht
  · exact h t (List.dropLast_subset _ ht)
  · exact h t ht

theorem sound_withPairs (u : Url) (pairs : List (String × String)) (h : u.Sound) :
    (u.withPairs pairs).Sound ∧ (u.withPairs pairs).segments = u.segments := by
  unfold withPairs
  split
  · exact ⟨h, rfl⟩
  · exact ⟨h, rfl⟩

/-- The pairs of a query are those of another one and then some more; if there are no more, the
query is the same text. -/
structure Adds (target base : String) (more : List (String × String)) : Prop where
  pairs : queryPairs target = queryPairs base ++ more.map Form.pairBytes
  same : more = [] → queryText target = queryText base

theorem adds_withPairs (u base : Url) (pairs : List (String × String)) (hu : u.Sound)
    (hbase : base.Sound) (hquery : u.query = base.query) :
    Adds (u.withPairs pairs).target base.target pairs := by
  have htext := queryText_target base hbase
  have hread := queryText_target _ (sound_withPairs u pairs hu).1
  cases pairs with
  | nil =>
    have hnone : queryText (u.withPairs []).target = queryText base.target := by
      rw [hread, htext]
      exact hquery
    refine ⟨?_, fun _ => hnone⟩
    rw [queryPairs, hnone, List.map_nil, List.append_nil]
    rfl
  | cons pair rest =>
    refine ⟨?_, nofun⟩
    rw [queryPairs, hread, queryPairs, htext, ← hquery]
    exact Form.pairsOf_append_pairs _ _

end Url

namespace Client

open Url

/-- The client has a base URL that is accepted, and any credentials. -/
def Accepted (c : Client) : Prop := ∃ s, ofUrl s = .ok { base := c.base }

variable (c : Client)

theorem read_of_accepted (h : c.Accepted) : Read c.base := by
  obtain ⟨s, hs⟩ := h
  unfold ofUrl at hs
  split at hs
  case h_1 base hbase =>
    have heq := congrArg Client.base (Except.ok.inj hs)
    rw [← heq]
    exact read_of_read s base hbase
  case h_2 => exact absurd hs nofun

theorem adds_recordsUrl (h : c.Accepted) (collection : String) (id : Option String)
    (pairs : List (String × String)) :
    Adds (c.recordsUrl collection id pairs).target c.base.target pairs := by
  have hsound := (c.read_of_accepted h).sound
  obtain ⟨hextended, hquery⟩ := extend_keeps c.base (recordPath collection id) hsound
  exact adds_withPairs _ c.base pairs hextended hsound hquery

/-- The names and the values of the parameters that are present, in their order. -/
def presentPairs (p : Parameters) : List (String × String) :=
  [("fields", p.fields), ("expand", p.expand), ("sort", p.sort), ("filter", p.filter)].filterMap
    fun (name, value) => value.map fun text => (name, text)

theorem pairs_eq_presentPairs (p : Parameters) : p.pairs = presentPairs p := by
  obtain ⟨fields, expand, sort, filter, requestKey⟩ := p
  cases fields <;> cases expand <;> cases sort <;> cases filter <;> rfl

def pagePairs : Option Page → List (String × String)
  | none => []
  | some page => [("page", toString page.page), ("perPage", toString page.perPage)] ++
      if page.skipTotal then [("skipTotal", "1")] else []

theorem asks_send_iff (collection : String) (p : Parameters) (page : Option Page) (r : Request)
    (k : Option String) : (c.send collection p page).Asks r k ↔
      r = c.request collection none (presentPairs p ++ pagePairs page) ∧ k = p.requestKey := by
  have hsend : c.send collection p page =
      .get (c.request collection none (presentPairs p ++ pagePairs page)) p.requestKey
        fun value => .done (.ok value) := by
    rw [← pairs_eq_presentPairs]
    cases page <;> rfl
  rw [hsend, Exchange.asks_get_iff]
  simp [Exchange.not_asks_done]

/-- The one request of a call has the key of the parameters, and its query has the pairs of the
base URL and then these. -/
def AsksWith {α : Type} (e : Exchange α) (key : Option String)
    (pairs : List (String × String)) : Prop :=
  ∃ r, (∀ r' k, e.Asks r' k ↔ r' = r ∧ k = key) ∧ Adds r.url.target c.base.target pairs

theorem asksWith_request {α : Type} (h : c.Accepted) (collection : String) (id : Option String)
    (e : Exchange α) (key : Option String) (pairs : List (String × String))
    (hasks : ∀ r k, e.Asks r k ↔ r = c.request collection id pairs ∧ k = key) :
    c.AsksWith e key pairs :=
  ⟨c.request collection id pairs, hasks, c.adds_recordsUrl h collection id pairs⟩

theorem asksWith_recordRequest {α : Type} (h : c.Accepted) (collection id : String)
    (p : Parameters) (e : Exchange α)
    (hasks : ∀ r k, e.Asks r k ↔
      r = c.request collection (some id) p.pairs ∧ k = p.requestKey) :
    c.AsksWith e p.requestKey (presentPairs p) := by
  rw [pairs_eq_presentPairs] at hasks
  exact c.asksWith_request h collection (some id) e p.requestKey _ hasks

theorem pageRequest_eq (collection : String) (p : Parameters) (page : Page) :
    c.pageRequest collection p page =
      c.request collection none (presentPairs p ++ pagePairs (some page)) := by
  rw [← pairs_eq_presentPairs]
  rfl

theorem asksWith_pageRequest {α : Type} (h : c.Accepted) (collection : String) (p : Parameters)
    (page : Page) (e : Exchange α)
    (hasks : ∀ r k, e.Asks r k ↔ r = c.pageRequest collection p page ∧ k = p.requestKey) :
    c.AsksWith e p.requestKey (presentPairs p ++ pagePairs (some page)) := by
  rw [pageRequest_eq] at hasks
  exact c.asksWith_request h collection none e p.requestKey _ hasks

theorem adds_batchRequest (h : c.Accepted) (collection : String) (p : Parameters) (number : Nat) :
    Adds (c.pageRequest collection p (batchPage number)).url.target c.base.target
      (presentPairs p ++ [("page", toString number), ("perPage", "500"), ("skipTotal", "1")]) := by
  rw [pageRequest_batchPage, ← pairs_eq_presentPairs]
  exact c.adds_recordsUrl h collection none _

/-- The query of a request for records or for one record has the pairs of the base URL, then the
parameters that are present with their values as they are, then what a page adds, and nothing
else. -/
theorem query_carries_parameters (h : c.Accepted) (collection : String) (p : Parameters) :
    (∀ page, c.AsksWith (c.send collection p page) p.requestKey
      (presentPairs p ++ pagePairs page)) ∧
    ∀ {α : Type} (item : Json.Reader α) (id : String),
      c.AsksWith (c.getOne item collection id p) p.requestKey (presentPairs p) := by
  constructor
  · intro page
    exact c.asksWith_request h collection none _ _ _ (c.asks_send_iff collection p page)
  · intro α item id
    exact c.asksWith_recordRequest h collection id p _ (c.asks_getOne_iff item collection p id)

/-- A filter full of signs that mean something in a query, put behind the query of the base URL. -/
theorem query_carries_parameters_filter :
    let base : Url := ⟨"http".toList, some { host := "[::1]".toList }, [['a']],
      some "x=1&y".toList, none⟩
    let c : Client := { base, token := some "t" }
    let p : Parameters := { filter := some "a&b=1+2%é", requestKey := some "k" }
    c.Accepted ∧
      c.AsksWith (c.send "posts" p (some { skipTotal := true })) (some "k")
        [("filter", "a&b=1+2%é"), ("page", "1"), ("perPage", "30"), ("skipTotal", "1")] ∧
      c.AsksWith (c.getOne Json.Reader.any "posts" "1" p) (some "k")
        [("filter", "a&b=1+2%é")] ∧
      queryPairs base.target = [([120], [49]), ([121], [])] := by
  intro base c p
  have haccepted : c.Accepted := ⟨"http://[::1]/a?x=1&y", rfl⟩
  obtain ⟨hsend, hone⟩ := c.query_carries_parameters haccepted "posts" p
  exact ⟨haccepted, hsend (some { skipTotal := true }), hone Json.Reader.any "1", by decide⟩

/-- The bytes of the segments that a name adds to a path: of one segment without the tabs and line
ends of the name, or of none if the name is dots alone. -/
def namedSegment (name : List Char) : List (List UInt8) :=
  if name = ['.'] ∨ name = ['.', '.'] then [] else [bytes (visible name)]

theorem map_decode_pushed (scheme name : List Char) :
    (pushed scheme name).map Url.decode = namedSegment name := by
  unfold pushed namedSegment
  split
  · rfl
  · rw [List.map_singleton, decode_written]

/-- The path of a request has the segments of the base URL, without an empty one at its end, and
then one segment for each name. -/
theorem path_names_record (h : c.Accepted) (collection : String) (id : Option String)
    (pairs : List (String × String)) (hbase : pathSegments c.base.target ≠ [[], []])
    (hnames : ∀ name ∈ recordPath collection id, ¬HidesDots name) :
    (pathSegments (c.recordsUrl collection id pairs).target).map Url.decode =
      (ownSegments (pathSegments c.base.target)).map Url.decode ++
        (recordPath collection id).flatMap namedSegment := by
  have hread := c.read_of_accepted h
  obtain ⟨hextended, -⟩ := extend_keeps c.base (recordPath collection id) hread.sound
  obtain ⟨hsound, hsegments⟩ := sound_withPairs _ pairs hextended
  rw [pathSegments_target c.base hread.sound] at hbase ⊢
  have hpath : recordPath collection id =
      "api".toList :: (recordPath collection id).tail := rfl
  have hextend := extend_api c.base (recordPath collection id).tail hread hbase
    fun name hname => hnames name (List.mem_of_mem_tail hname)
  rw [← hpath] at hextend
  rw [recordsUrl, pathSegments_target _ hsound, hsegments, hextend, hpath]
  simp only [List.map_append, List.map_cons, List.map_flatMap, map_decode_pushed,
    List.flatMap_cons, List.tail_cons]
  rfl

/-- Slashes, question marks, percent signs and dots inside a name stay in its segment; a tab is left
out of it. -/
theorem path_names_record_slash :
    let base : Url := ⟨"http".toList, some { host := "[::1]".toList }, ["a%20b".toList, []],
      none, none⟩
    let c : Client := { base }
    c.Accepted ∧ pathSegments c.base.target ≠ [[], []] ∧
      (∀ name ∈ recordPath "x/.." (some "é?%2F\t"), ¬HidesDots name) ∧
      (pathSegments (c.recordsUrl "x/.." (some "é?%2F\t") []).target).map Url.decode =
        ["a b", "api", "collections", "x/..", "records", "é?%2F"].map fun name =>
          bytes name.toList := by
  intro base c
  have haccepted : c.Accepted := ⟨"http://[::1]/a%20b/", rfl⟩
  have hbase : pathSegments c.base.target ≠ [[], []] := by decide
  have hnames : ∀ name ∈ recordPath "x/.." (some "é?%2F\t"), ¬HidesDots name := by
    unfold HidesDots
    decide
  refine ⟨haccepted, hbase, hnames, ?_⟩
  rw [c.path_names_record haccepted "x/.." (some "é?%2F\t") [] hbase hnames]
  decide

/-- A record whose id is two dots cannot be addressed: the request asks for a page of records. -/
theorem record_of_dots_unnamed : ¬∀ (c : Client) (collection : String) (id : Option String)
    (pairs : List (String × String)), c.Accepted →
    (pathSegments (c.recordsUrl collection id pairs).target).map Url.decode =
      (ownSegments (pathSegments c.base.target)).map Url.decode ++
        (recordPath collection id).map bytes := by
  intro h
  let base : Url := ⟨"http".toList, some { host := "[::1]".toList }, [[]], none, none⟩
  have hposts := h { base } "posts" (some "..") [] ⟨"http://[::1]", rfl⟩
  exact absurd hposts (by decide)

end Client

end RecordSelection
