import RecordSelection.Proofs.Client.Addresses
import RecordSelection.Proofs.Client.Overtaken

/-!
# All records, page by page

What a call for all records asks for and gives while nothing else happens. The pages are asked for
one after the other from the first on, up to the first one that fails or is not full. A server that
deals out records in full pages is asked until all of them are there. The run itself is the same
for any rule that tells from a page whether there are more.
-/

set_option autoImplicit false

namespace RecordSelection

namespace Exchange

variable {α : Type}

def reply (answer : Nat → Except ClientFault Json) (n : Nat) (r : Request) :
    Except ClientFault Json :=
  if r.isSendable then answer n else .error (.network notSendable)

theorem isSendable_of_reply (answer : Nat → Except ClientFault Json) (n : Nat) (r : Request)
    (value : Json) (h : reply answer n r = .ok value) : r.isSendable = true := by
  unfold reply at h
  split at h
  case isTrue sendable => exact sendable
  case isFalse => exact absurd h nofun

theorem run_get_ok (answer : Nat → Except ClientFault Json) (n : Nat) (r : Request)
    (key : Option String) (resume : Json → Exchange α) (value : Json)
    (h : reply answer n r = .ok value) :
    run answer n (.get r key resume) =
      ⟨(run answer (n + 1) (resume value)).result,
        r :: (run answer (n + 1) (resume value)).attempted⟩ := by
  unfold reply at h
  split at h
  case isTrue sendable => rw [run, if_pos sendable, h]
  case isFalse => exact absurd h nofun

theorem run_get_error (answer : Nat → Except ClientFault Json) (n : Nat) (r : Request)
    (key : Option String) (resume : Json → Exchange α) (fault : ClientFault)
    (h : reply answer n r = .error fault) :
    run answer n (.get r key resume) = ⟨.error fault, [r]⟩ := by
  unfold reply at h
  split at h
  case isTrue sendable => rw [run, if_pos sendable, h]
  case isFalse unsendable =>
    have hfault := Except.error.inj h
    rw [run, if_neg unsendable, hfault]

end Exchange

namespace Client

variable {α β : Type} (c : Client) (item : Json.Reader α) (collection : String) (p : Parameters)
variable (answer : Nat → Except ClientFault Json)

def pageReply (n : Nat) (page : Page) : Except ClientFault (RecordPage α) :=
  Exchange.reply answer n (c.pageRequest collection p page) >>=
    decode collection (RecordPage.reader item)

theorem run_getPage_ok (n : Nat) (page : Page) (next : RecordPage α → Exchange β)
    (list : RecordPage α) (h : c.pageReply item collection p answer n page = .ok list) :
    ((c.getPage item collection page p).bind next).run answer n =
      ⟨((next list).run answer (n + 1)).result,
        c.pageRequest collection p page :: ((next list).run answer (n + 1)).attempted⟩ := by
  obtain ⟨value, hvalue, hlist⟩ := (bind_eq_ok _ _ _).mp h
  have hrun := Exchange.run_get_ok answer n (c.pageRequest collection p page) p.requestKey
    (fun value => (Exchange.done (decode collection (RecordPage.reader item) value)).bind next)
    value hvalue
  rw [hlist] at hrun
  exact hrun

theorem run_getPage_error (n : Nat) (page : Page) (next : RecordPage α → Exchange β)
    (fault : ClientFault) (h : c.pageReply item collection p answer n page = .error fault) :
    ((c.getPage item collection page p).bind next).run answer n =
      ⟨.error fault, [c.pageRequest collection p page]⟩ := by
  unfold pageReply at h
  cases hreply : Exchange.reply answer n (c.pageRequest collection p page) with
  | error own =>
    rw [hreply] at h
    obtain rfl := Except.error.inj h
    exact Exchange.run_get_error answer n _ _ _ own hreply
  | ok value =>
    rw [hreply] at h
    have hrun := Exchange.run_get_ok answer n (c.pageRequest collection p page) p.requestKey
      (fun value => (Exchange.done (decode collection (RecordPage.reader item) value)).bind next)
      value hreply
    have hfault : decode collection (RecordPage.reader item) value = .error fault := h
    rw [hfault] at hrun
    exact hrun

/-- Nothing is asked for after a page that failed or is not full. -/
def IsLast : Except ClientFault (RecordPage α) → Prop
  | .error _ => True
  | .ok list => list.items.length < batch

theorem exists_full (page : Except ClientFault (RecordPage α)) (h : ¬IsLast page) :
    ∃ list, page = .ok list ∧ batch ≤ list.items.length := by
  cases page with
  | error fault => exact absurd trivial h
  | ok list => exact ⟨list, rfl, Nat.le_of_not_lt h⟩

/-- Page `j`, counted from 0, is the first one that fails or is not full. -/
def EndsAt (pages : Nat → Except ClientFault (RecordPage α)) (j : Nat) : Prop :=
  (∀ k < j, ¬IsLast (pages k)) ∧ IsLast (pages j)

def itemsOf : Except ClientFault (RecordPage α) → List α
  | .error _ => []
  | .ok list => list.items

/-- The records of the pages up to page `j`, counted from 0, behind those found before, unless page
`j` failed. -/
def gathered (found : List α) (pages : Nat → Except ClientFault (RecordPage α)) (j : Nat) :
    Except ClientFault (List α) :=
  match pages j with
  | .error fault => .error fault
  | .ok _ => .ok (found ++ (List.range (j + 1)).flatMap fun k => itemsOf (pages k))

theorem gathered_zero (found : List α) (pages : Nat → Except ClientFault (RecordPage α)) :
    gathered found pages 0 = (fun list => found ++ list.items) <$> pages 0 := by
  unfold gathered
  cases h : pages 0 with
  | error fault => rfl
  | ok list => simp [h, itemsOf]

theorem gathered_succ (found : List α) (pages : Nat → Except ClientFault (RecordPage α)) (j : Nat)
    (list : RecordPage α) (first : pages 0 = .ok list) :
    gathered found pages (j + 1) = gathered (found ++ list.items) (fun k => pages (k + 1)) j := by
  unfold gathered
  rw [List.range_succ_eq_map, List.flatMap_cons, List.flatMap_map, first, itemsOf,
    ← List.append_assoc]

def pagesFrom (page : Nat → Page) (more : RecordPage α → Bool) :
    Nat → Nat → List α → Exchange (List α)
  | 0, _, found => .done (.ok found)
  | left + 1, number, found =>
    (c.getPage item collection (page number) p).bind fun list =>
      if more list then pagesFrom page more left (number + 1) (found ++ list.items)
      else .done (.ok (found ++ list.items))

section

variable (page : Nat → Page) (more : RecordPage α → Bool)

theorem run_pagesFrom_last (m number left : Nat) (found : List α)
    (last : ∀ list, c.pageReply item collection p answer m (page number) = .ok list →
      more list = false) :
    (c.pagesFrom item collection p page more (left + 1) number found).run answer m =
      ⟨(fun list => found ++ list.items) <$>
          c.pageReply item collection p answer m (page number),
        [c.pageRequest collection p (page number)]⟩ := by
  rw [pagesFrom]
  cases hpage : c.pageReply item collection p answer m (page number) with
  | error fault => exact run_getPage_error c item collection p answer m _ _ fault hpage
  | ok list =>
    rw [run_getPage_ok c item collection p answer m _ _ list hpage, last list hpage]
    rfl

theorem run_pagesFrom_more (m number left : Nat) (found : List α) (list : RecordPage α)
    (hpage : c.pageReply item collection p answer m (page number) = .ok list)
    (hmore : more list = true) :
    (c.pagesFrom item collection p page more (left + 1) number found).run answer m =
      let rest := (c.pagesFrom item collection p page more left (number + 1)
        (found ++ list.items)).run answer (m + 1)
      ⟨rest.result, c.pageRequest collection p (page number) :: rest.attempted⟩ := by
  rw [pagesFrom, run_getPage_ok c item collection p answer m _ _ list hpage, if_pos hmore]

/-- From any page on, the pages up to the first last one are asked for, each of them once. -/
theorem run_pagesFrom (replies : Nat → Except ClientFault (RecordPage α)) (j : Nat)
    (m number left : Nat) (found : List α) (enough : j < left)
    (hreplies : ∀ k, c.pageReply item collection p answer (m + k) (page (number + k)) = replies k)
    (full : ∀ k < j, ∃ list, replies k = .ok list ∧ more list = true)
    (last : ∀ list, replies j = .ok list → more list = false) :
    (c.pagesFrom item collection p page more left number found).run answer m =
      ⟨gathered found replies j,
        (List.range (j + 1)).map fun k => c.pageRequest collection p (page (number + k))⟩ := by
  have hfirst : c.pageReply item collection p answer m (page number) = replies 0 := hreplies 0
  obtain ⟨left, rfl⟩ : ∃ others, left = others + 1 := ⟨left - 1, by omega⟩
  induction j generalizing replies m number left found with
  | zero =>
    rw [← hfirst] at last
    rw [run_pagesFrom_last c item collection p answer page more m number left found last, hfirst,
      gathered_zero]
    rfl
  | succ j ih =>
    obtain ⟨list, hpage, hmore⟩ := full 0 (Nat.succ_pos j)
    obtain ⟨left, rfl⟩ : ∃ others, left = others + 1 := ⟨left - 1, by omega⟩
    have hnext : ∀ k, c.pageReply item collection p answer (m + 1 + k) (page (number + 1 + k)) =
        replies (k + 1) := by
      intro k
      rw [← hreplies (k + 1), Nat.add_right_comm m, Nat.add_right_comm number]
      rfl
    have hrest := ih (fun k => replies (k + 1)) (m + 1) (number + 1) (found ++ list.items) hnext
      (fun k hk => full (k + 1) (Nat.succ_lt_succ hk)) last (hnext 0) left (by omega)
    rw [run_pagesFrom_more c item collection p answer page more m number _ found list
      (hfirst.trans hpage) hmore, hrest, gathered_succ found replies j list hpage,
      List.range_succ_eq_map (n := j + 1), List.map_cons, List.map_map]
    simp only [Function.comp_def, Nat.add_succ, Nat.succ_add, Nat.add_zero]

end

/-- All records are asked for as long as the pages are full. -/
theorem getAllFrom_eq_pagesFrom (pages number : Nat) (found : List α) :
    c.getAllFrom item collection p pages number found =
      c.pagesFrom item collection p batchPage (fun list => decide (batch ≤ list.items.length))
        pages number found := by
  induction pages generalizing number found with
  | zero => rfl
  | succ pages ih =>
    rw [getAllFrom, pagesFrom, batchPage]
    congr 1
    funext list
    rw [ih]
    by_cases hshort : list.items.length < batch
    · rw [if_pos hshort, if_neg (by simpa using hshort)]
    · rw [if_neg hshort, if_pos (by simpa using hshort)]

def batchRequests (count : Nat) : List Request :=
  (List.range count).map fun k => c.request collection none
    (p.pairs ++ [("page", toString (k + 1)), ("perPage", "500"), ("skipTotal", "1")])

theorem isSendable_of_pageReply (n : Nat) (page : Page) (list : RecordPage α)
    (h : c.pageReply item collection p answer n page = .ok list) :
    (c.pageRequest collection p page).isSendable := by
  obtain ⟨value, hvalue, -⟩ := (bind_eq_ok _ _ _).mp h
  exact Exchange.isSendable_of_reply answer n _ value hvalue

def batchReply (n k : Nat) : Except ClientFault (RecordPage α) :=
  c.pageReply item collection p answer (n + k) (batchPage (k + 1))

theorem run_getAll (n j : Nat) (enough : j < Nat.pow 2 32)
    (ends : EndsAt (c.batchReply item collection p answer n) j) :
    (c.getAll item collection p).run answer n =
      ⟨gathered [] (c.batchReply item collection p answer n) j,
        c.batchRequests collection p (j + 1)⟩ := by
  have hfull : ∀ k < j, ∃ list, c.batchReply item collection p answer n k = .ok list ∧
      decide (batch ≤ list.items.length) = true := by
    intro k hk
    obtain ⟨list, hlist, hbatch⟩ := exists_full _ (ends.1 k hk)
    exact ⟨list, hlist, decide_eq_true hbatch⟩
  have hlast : ∀ list, c.batchReply item collection p answer n j = .ok list →
      decide (batch ≤ list.items.length) = false := by
    intro list hlist
    have hshort := ends.2
    rw [hlist] at hshort
    exact decide_eq_false (Nat.not_le.mpr hshort)
  have hrun := run_pagesFrom c item collection p answer batchPage _
    (c.batchReply item collection p answer n) j n 1 (Nat.pow 2 32) [] enough
    (fun k => by rw [batchReply, Nat.add_comm 1 k]) hfull hlast
  rw [getAll, getAllFrom_eq_pagesFrom, hrun]
  congr 1
  apply List.map_congr_left
  intro k hk
  rw [Nat.add_comm 1 k, pageRequest_batchPage]

theorem isSendable_request (pairs others : List (String × String)) :
    (c.request collection none pairs).isSendable = (c.request collection none others).isSendable := by
  have hscheme (pairs : List (String × String)) :
      (c.recordsUrl collection none pairs).scheme =
        (c.base.extend (recordPath collection none)).scheme := by
    unfold recordsUrl Url.withPairs
    split <;> rfl
  simp only [request, Request.isSendable, Request.isOverHttp, Request.headers, hscheme]

theorem requests_of_batchRequests (result : Except ClientFault (List α)) (count : Nat)
    (sendable : (c.request collection none []).isSendable) :
    (Exchange.Trace.mk result (c.batchRequests collection p count)).requests =
      c.batchRequests collection p count := by
  rw [Exchange.Trace.requests, List.filter_eq_self]
  intro r hr
  obtain ⟨k, -, rfl⟩ := List.mem_map.mp hr
  rw [isSendable_request c collection _ []]
  exact sendable

theorem length_batchRequests (count : Nat) :
    (c.batchRequests collection p count).length = count := by
  rw [batchRequests, List.length_map, List.length_range]

theorem adds_of_batchRequests (h : c.Accepted) (count k : Nat) (r : Request)
    (hr : (c.batchRequests collection p count)[k]? = some r) :
    Url.Adds r.url.target c.base.target
      (presentPairs p ++ [("page", toString (k + 1)), ("perPage", "500"), ("skipTotal", "1")]) := by
  rw [batchRequests, List.getElem?_map, Option.map_eq_some_iff] at hr
  obtain ⟨j, hj, rfl⟩ := hr
  obtain ⟨hk, rfl⟩ := List.getElem?_eq_some_iff.mp hj
  rw [List.getElem_range, ← pageRequest_batchPage]
  exact c.adds_batchRequest h collection p (k + 1)

theorem flatMap_slices (records : List α) (size count : Nat) :
    (List.range count).flatMap (fun k => (records.drop (size * k)).take size) =
      records.take (size * count) := by
  induction count with
  | zero => simp
  | succ count ih =>
    rw [List.range_succ, List.flatMap_append, ih, Nat.mul_succ, List.take_add]
    simp

theorem gathered_of_slices (replies : Nat → Except ClientFault (RecordPage α)) (records : List α)
    (size j : Nat)
    (h : ∀ k < j + 1, ∃ list, replies k = .ok list ∧
      list.items = (records.drop (size * k)).take size)
    (hall : records.length ≤ size * (j + 1)) : gathered [] replies j = .ok records := by
  have hslices : (List.range (j + 1)).flatMap (fun k => itemsOf (replies k)) = records := by
    rw [← List.take_of_length_le hall, ← flatMap_slices]
    apply List.flatMap_congr
    intro k hk
    obtain ⟨list, hreply, hitems⟩ := h k (List.mem_range.mp hk)
    rw [hreply, itemsOf, hitems]
  obtain ⟨list, hreply, -⟩ := h j (Nat.lt_succ_self j)
  rw [gathered, hslices, hreply]
  rfl

/-- A server that deals out the records in full pages; the last page may be empty. -/
def Deals (replies : Nat → Except ClientFault (RecordPage α)) (records : List α) : Prop :=
  ∀ k, ∃ list, replies k = .ok list ∧ list.items = (records.drop (batch * k)).take batch

theorem isLast_of_deals (replies : Nat → Except ClientFault (RecordPage α)) (records : List α)
    (h : Deals replies records) (k : Nat) : IsLast (replies k) ↔ records.length < batch * (k + 1) := by
  obtain ⟨list, hreply, hitems⟩ := h k
  rw [hreply, IsLast, hitems, List.length_take, List.length_drop]
  have hbatch : 0 < batch := by decide
  rw [Nat.mul_succ]
  omega

theorem endsAt_of_deals (replies : Nat → Except ClientFault (RecordPage α)) (records : List α)
    (h : Deals replies records) : EndsAt replies (records.length / 500) := by
  have hbatch : batch = 500 := rfl
  have hlast := isLast_of_deals replies records h
  refine ⟨fun k hk => ?_, ?_⟩
  · rw [hlast, hbatch]
    omega
  · rw [hlast, hbatch]
    omega

theorem gathered_of_deals (replies : Nat → Except ClientFault (RecordPage α)) (records : List α)
    (h : Deals replies records) (j : Nat) (last : IsLast (replies j)) :
    gathered [] replies j = .ok records :=
  gathered_of_slices replies records batch j (fun k _ => h k)
    (Nat.le_of_lt ((isLast_of_deals replies records h j).mp last))

/-- A call for all records asks for the pages from the first on, up to the first one that fails or
is not full, and for nothing else. It gives what is wrong with that page, or else the records of
all pages in order. So of a server that deals out its records in pages it gets all of them. On the
URL each request has the query of the base URL, then the parameters, then its page. -/
theorem all_records_in_order (n : Nat) :
    (∀ j, j + 1 < Nat.pow 2 32 → EndsAt (c.batchReply item collection p answer n) j →
      (c.getAll item collection p).run answer n =
        ⟨gathered [] (c.batchReply item collection p answer n) j,
          c.batchRequests collection p (j + 1)⟩ ∧
      ((c.request collection none []).isSendable →
        ((c.getAll item collection p).run answer n).requests =
          c.batchRequests collection p (j + 1))) ∧
    (∀ records : List α, records.length / 500 + 1 < Nat.pow 2 32 →
      Deals (c.batchReply item collection p answer n) records →
      (c.getAll item collection p).run answer n =
        ⟨.ok records, c.batchRequests collection p (records.length / 500 + 1)⟩ ∧
      ((c.getAll item collection p).run answer n).requests =
        c.batchRequests collection p (records.length / 500 + 1)) ∧
    ∀ count, (c.batchRequests collection p count).length = count ∧
      (c.Accepted → ∀ k r, (c.batchRequests collection p count)[k]? = some r →
        Url.Adds r.url.target c.base.target
          (presentPairs p ++
            [("page", toString (k + 1)), ("perPage", "500"), ("skipTotal", "1")])) := by
  refine ⟨fun j few ends => ?_, fun records few deals => ?_, fun count => ?_⟩
  · have htrace := run_getAll c item collection p answer n j (by omega) ends
    refine ⟨htrace, fun sendable => ?_⟩
    rw [htrace]
    exact requests_of_batchRequests c collection p _ (j + 1) sendable
  · have hends := endsAt_of_deals _ records deals
    have htrace := run_getAll c item collection p answer n _ (by omega) hends
    rw [gathered_of_deals _ records deals _ hends.2] at htrace
    obtain ⟨list, hreply, -⟩ := deals 0
    have sendable := isSendable_of_pageReply c item collection p answer _ _ list hreply
    rw [pageRequest, isSendable_request c collection _ []] at sendable
    refine ⟨htrace, ?_⟩
    rw [htrace]
    exact requests_of_batchRequests c collection p _ _ sendable
  · exact ⟨length_batchRequests c collection p count, fun h k r hr =>
      adds_of_batchRequests c collection p h count k r hr⟩

/-- Of a thousand records the third page is empty. When the second page fails, its fault is given
in place of the records of the first. -/
theorem all_records_in_order_thousand :
    let c : Client := .loopback
    let p : Parameters := { sort := some "-id" }
    let dealt (k : Nat) : Except ClientFault Json := .ok (Calls.pageOf (min 500 (1000 - 500 * k)))
    let broken (k : Nat) : Except ClientFault Json := if k = 1 then .error (.http 502 "") else dealt k
    (Deals (c.batchReply Json.Reader.any "posts" p dealt 0) (List.replicate 1000 .null) ∧
      (c.getAll Json.Reader.any "posts" p).run dealt 0 =
        ⟨.ok (List.replicate 1000 .null), c.batchRequests "posts" p 3⟩ ∧
      ∃ r, (c.batchRequests "posts" p 3)[2]? = some r ∧
        Url.queryPairs r.url.target = [("sort", "-id"), ("page", "3"), ("perPage", "500"),
          ("skipTotal", "1")].map Url.Form.pairBytes) ∧
    EndsAt (c.batchReply Json.Reader.any "posts" p broken 0) 1 ∧
      (c.getAll Json.Reader.any "posts" p).run broken 0 =
        ⟨.error (.http 502 ""), c.batchRequests "posts" p 2⟩ := by
  intro c p dealt broken
  have hsend (page : Page) : (c.pageRequest "posts" p page).isSendable = true := by
    rw [pageRequest, isSendable_request c "posts" _ []]
    decide
  have hdealt (answer : Nat → Except ClientFault Json) (k : Nat) (h : answer k = dealt k) :
      c.batchReply Json.Reader.any "posts" p answer 0 k =
        .ok { items := List.replicate (min 500 (1000 - 500 * k)) .null } := by
    rw [batchReply, pageReply, Exchange.reply, if_pos (hsend _), Nat.zero_add, h]
    exact Calls.decode_pageOf _
  have hbroken : c.batchReply Json.Reader.any "posts" p broken 0 1 = .error (.http 502 "") := by
    rw [batchReply, pageReply, Exchange.reply, if_pos (hsend _)]
    rfl
  have hdeals : Deals (c.batchReply Json.Reader.any "posts" p dealt 0)
      (List.replicate 1000 .null) := by
    intro k
    refine ⟨_, hdealt dealt k rfl, ?_⟩
    rw [List.drop_replicate, List.take_replicate]
    rfl
  have hcount : (List.replicate 1000 Json.null).length / 500 + 1 = 3 := by
    rw [List.length_replicate]
  have hfirst : ¬IsLast (c.batchReply Json.Reader.any "posts" p broken 0 0) := by
    rw [hdealt broken 0 rfl, IsLast, List.length_replicate]
    decide
  have hends : EndsAt (c.batchReply Json.Reader.any "posts" p broken 0) 1 := by
    refine ⟨fun k hk => ?_, ?_⟩
    · obtain rfl : k = 0 := by omega
      exact hfirst
    · rw [hbroken]
      trivial
  obtain ⟨-, hserved, honUrl⟩ := all_records_in_order c Json.Reader.any "posts" p dealt 0
  refine ⟨⟨hdeals, ?_, _, rfl, ?_⟩, hends, ?_⟩
  · have hall := hserved _ (by rw [hcount]; decide) hdeals
    rw [hcount] at hall
    exact hall.1
  · have hpairs := ((honUrl 3).2 ⟨_, ofUrl_loopback⟩ 2 _ rfl).pairs
    rw [hpairs]
    decide
  · have hall := (all_records_in_order c Json.Reader.any "posts" p broken 0).1 1 (by decide) hends
    rw [gathered, hbroken] at hall
    exact hall.1

end Client

end RecordSelection
