import RecordSelection.Client.Transport
import RecordSelection.Proofs.Json.Records

/-!
# What an answer means

Every answer means one thing: a value, or one fault. Its status decides which kind, and its body
can only give the value or the words. The words of a failed answer are the message of an error body
if there is one, and else the whole body, so that nothing a server has to say is lost.
-/

set_option autoImplicit false

namespace RecordSelection

namespace Json

theorem read_eq_ok_iff {α : Type} (reader : Reader α) (s : String) (value : α) :
    read reader s = .ok value ↔
      reader (.text maxNesting) (Scan.document s).body = .ok value ∧
        (Scan.document s).trailing = false := by
  unfold read
  dsimp only
  rw [bind_eq_ok]
  cases (Scan.document s).trailing with
  | false => simp [pure, Except.pure]
  | true => simp

end Json

/-! ## Error bodies -/

namespace ErrorBody

open Json Json.Reader

def IsCode (draft : Draft) (code : Nat) : Prop :=
  draft = .number (.ok (.integer code)) ∧ code < Nat.pow 2 16

def IsMessage (draft : Draft) (message : String) : Prop :=
  ∃ t, draft = .text t ∧ t.read = .ok message

def IsData (draft : Draft) (data : Json) : Prop :=
  Reader.any (.text (maxNesting - 1)) draft = .ok data

/-- A text is an error body: nothing follows it, it is an object with the three parts or a list of
them, and each of them is of its kind or left out. -/
def Parses (body : String) (e : ErrorBody) : Prop :=
  (Scan.document body).trailing = false ∧ ∃ entries,
    Written ["code", "message", "data"] (Scan.document body).body entries ∧
      Given IsCode 0 (valuesOf "code" entries) e.code ∧
      Given IsMessage "" (valuesOf "message" entries) e.message ∧
      Given IsData .null (valuesOf "data" entries) e.data

def slots : List (Slot ErrorBody) :=
  [⟨Nat, "code", word16, ErrorBody.code, fun value body => { body with code := value }⟩,
   ⟨String, "message", Reader.text, ErrorBody.message,
    fun value body => { body with message := value }⟩,
   ⟨Json, "data", any, ErrorBody.data, fun value body => { body with data := value }⟩]

theorem separate_slots : Slot.Separate slots where
  distinct := by decide
  get_put slot hslot value a := by
    simp only [slots, List.mem_cons, List.not_mem_nil, or_false] at hslot
    rcases hslot with rfl | rfl | rfl <;> rfl
  get_put_of_ne slot hslot other hother hne value a := by
    simp only [slots, List.mem_cons, List.not_mem_nil, or_false] at hslot hother
    rcases hslot with rfl | rfl | rfl <;> rcases hother with rfl | rfl | rfl <;>
      first
      | rfl
      | exact absurd rfl hne
  ext a b h := by
    have hcode : a.code = b.code := h _ (.head _)
    have hmessage : a.message = b.message := h _ (.tail _ (.head _))
    have hdata : a.data = b.data := h _ (.tail _ (.tail _ (.head _)))
    cases a
    cases b
    simp_all

theorem read_reader_iff (body : String) (e : ErrorBody) :
    read reader body = .ok e ↔ Parses body e := by
  have hrecord : reader (.text maxNesting) (Scan.document body).body = .ok e ↔ _ :=
    record_ok_iff (maxNesting - 1) "ApiErrorBody" separate_slots {} e _
  have hcode (draft : Draft) (code : Nat) :
      word16 (.text (maxNesting - 1)) draft = .ok code ↔ IsCode draft code := by
    rw [word16, natural_eq_ok_iff, IsCode]
    exact and_congr_right fun _ => Nat.lt_succ_iff.symm
  have hmessage (draft : Draft) (message : String) :
      Reader.text (.text (maxNesting - 1)) draft = .ok message ↔ IsMessage draft message :=
    text_eq_ok_iff _ _ _
  rw [read_eq_ok_iff, hrecord, and_comm, Parses]
  refine and_congr_right fun _ => exists_congr fun entries => and_congr_right fun _ => ?_
  simp only [slots, List.forall_mem_cons, List.not_mem_nil, false_implies, implies_true, and_true,
    Slot.Filled, hcode, hmessage]
  rfl

def Explains (body : String) (e : ErrorBody) : Prop := Parses body e ∧ e.message ≠ ""

theorem errorBody?_eq_some_iff (body : String) (e : ErrorBody) :
    Response.errorBody? body = some e ↔ Explains body e := by
  unfold Response.errorBody? Explains
  rw [← read_reader_iff]
  cases read reader body with
  | error fault => exact ⟨nofun, nofun⟩
  | ok found =>
    by_cases hempty : found.message = ""
    · simp only [hempty, if_true, Except.ok.injEq]
      exact ⟨nofun, fun ⟨hfound, hmessage⟩ => absurd (hfound ▸ hempty) hmessage⟩
    · simp only [hempty, if_false, Option.some.injEq, Except.ok.injEq]
      exact ⟨fun hfound => ⟨hfound, hfound ▸ hempty⟩, And.left⟩

theorem errorBody?_eq_none_iff (body : String) :
    Response.errorBody? body = none ↔ ∀ e, ¬Explains body e := by
  rw [Option.eq_none_iff_forall_ne_some]
  exact forall_congr' fun e => not_congr (errorBody?_eq_some_iff body e)

end ErrorBody

def ClientFault.words? : ClientFault → Option String
  | .authentication text | .forbidden text | .notFound text => some text
  | .rateLimited _ text | .api _ text _ | .http _ text => some text
  | _ => none

namespace Response

open ErrorBody (Explains)

/-! ## Statuses and words -/

def Succeeds (r : Response) : Prop := 200 ≤ r.status ∧ r.status < 300

theorem isSuccess_iff (r : Response) : r.isSuccess = true ↔ r.Succeeds := by
  rw [isSuccess, Bool.and_eq_true, decide_eq_true_eq, decide_eq_true_eq, Succeeds]

def IsNamed (status : Nat) : Prop := status = 401 ∨ status = 403 ∨ status = 404 ∨ status = 429

/-- The words of a failed answer: the message of its error body, or else all of it. -/
inductive Words (body : String) : String → Prop where
  | message {e : ErrorBody} (explains : Explains body e) : Words body e.message
  | whole (unexplained : ∀ e, ¬Explains body e) : Words body body

theorem words_iff (body text : String) :
    Words body text ↔ ((errorBody? body).map (·.message)).getD body = text := by
  cases hfound : errorBody? body with
  | none =>
    have hnone := (ErrorBody.errorBody?_eq_none_iff body).mp hfound
    constructor
    · rintro (⟨hexplains⟩ | -)
      · exact absurd hexplains (hnone _)
      · rfl
    · rintro rfl
      exact .whole hnone
  | some e =>
    have hsome := (ErrorBody.errorBody?_eq_some_iff body e).mp hfound
    constructor
    · rintro (⟨hexplains⟩ | hnone)
      · rename_i other
        have hother := (ErrorBody.errorBody?_eq_some_iff body other).mpr hexplains
        rw [hfound] at hother
        obtain rfl := Option.some.inj hother
        rfl
      · exact absurd hsome (hnone e)
    · rintro rfl
      exact .message hsome

theorem Words.ne_empty {body text : String} (h : Words body text) (hbody : body ≠ "") :
    text ≠ "" := by
  cases h with
  | message explains => exact explains.2
  | whole => exact hbody

/-- What an answer means, by its status and then by its body. -/
inductive Means (r : Response) : Except ClientFault Json → Prop where
  | value {v : Json} (success : r.Succeeds) (json : Json.read Json.Reader.any r.body = .ok v) :
      Means r (.ok v)
  | network (success : r.Succeeds) (unread : ∀ v, Json.read Json.Reader.any r.body ≠ .ok v) :
      Means r (.error (.network notJson))
  | rateLimited (status : r.status = 429) : Means r (.error (.rateLimited r.retryAfter r.body))
  | authentication {text : String} (status : r.status = 401) (words : Words r.body text) :
      Means r (.error (.authentication text))
  | forbidden {text : String} (status : r.status = 403) (words : Words r.body text) :
      Means r (.error (.forbidden text))
  | notFound {text : String} (status : r.status = 404) (words : Words r.body text) :
      Means r (.error (.notFound text))
  | api {e : ErrorBody} (failure : ¬r.Succeeds) (unnamed : ¬IsNamed r.status)
      (explains : Explains r.body e) : Means r (.error (.api r.status e.message e.data))
  | http (failure : ¬r.Succeeds) (unnamed : ¬IsNamed r.status)
      (unexplained : ∀ e, ¬Explains r.body e) : Means r (.error (.http r.status r.body))

theorem outcome_of_failure (r : Response) (h : ¬r.Succeeds) (hrate : r.status ≠ 429) :
    r.outcome = .error (statusFault r.status r.body) := by
  rw [outcome, if_neg hrate, if_neg (mt r.isSuccess_iff.mp h)]

theorem outcome_of_success (r : Response) (h : r.Succeeds) :
    r.outcome = (Json.read Json.Reader.any r.body).mapError fun _ => .network notJson := by
  have hrate : r.status ≠ 429 := by
    have := h.2
    omega
  rw [outcome, if_neg hrate, if_pos (r.isSuccess_iff.mpr h)]

theorem ne_of_unnamed {status : Nat} (h : ¬IsNamed status) :
    status ≠ 401 ∧ status ≠ 403 ∧ status ≠ 404 ∧ status ≠ 429 := by
  unfold IsNamed at h
  omega

theorem statusFault_explained (status : Nat) (body : String) (e : ErrorBody)
    (h : ¬IsNamed status) (he : Explains body e) :
    statusFault status body = .api status e.message e.data := by
  obtain ⟨h401, h403, h404, -⟩ := ne_of_unnamed h
  unfold statusFault
  simp only [if_neg h401, if_neg h403, if_neg h404,
    (ErrorBody.errorBody?_eq_some_iff body e).mpr he]

theorem statusFault_unexplained (status : Nat) (body : String) (h : ¬IsNamed status)
    (hnone : ∀ e, ¬Explains body e) : statusFault status body = .http status body := by
  obtain ⟨h401, h403, h404, -⟩ := ne_of_unnamed h
  unfold statusFault
  simp only [if_neg h401, if_neg h403, if_neg h404,
    (ErrorBody.errorBody?_eq_none_iff body).mpr hnone]

theorem means_outcome (r : Response) : r.Means r.outcome := by
  by_cases hrate : r.status = 429
  · rw [outcome, if_pos hrate]
    exact .rateLimited hrate
  by_cases hsuccess : r.Succeeds
  · rw [outcome_of_success r hsuccess]
    cases hread : Json.read Json.Reader.any r.body with
    | ok v => exact .value hsuccess hread
    | error fault =>
      refine .network hsuccess fun v => ?_
      rw [hread]
      exact nofun
  rw [outcome_of_failure r hsuccess hrate]
  by_cases hnamed : IsNamed r.status
  · have hwords := (words_iff r.body _).mpr rfl
    rcases hnamed with h401 | h403 | h404 | h429
    · rw [h401]
      exact .authentication h401 hwords
    · rw [h403]
      exact .forbidden h403 hwords
    · rw [h404]
      exact .notFound h404 hwords
    · exact absurd h429 hrate
  · by_cases hexplained : ∃ e, Explains r.body e
    · obtain ⟨e, he⟩ := hexplained
      rw [statusFault_explained _ _ e hnamed he]
      exact .api hsuccess hnamed he
    · have hnone := not_exists.mp hexplained
      rw [statusFault_unexplained _ _ hnamed hnone]
      exact .http hsuccess hnamed hnone

theorem Means.outcome_eq {r : Response} {x : Except ClientFault Json} (h : r.Means x) :
    r.outcome = x := by
  have hfailure : ∀ status, 300 ≤ status → status ≠ 429 → r.status = status →
      r.outcome = .error (statusFault status r.body) := by
    rintro status hlarge hrate rfl
    exact outcome_of_failure r (fun hsuccess => by have := hsuccess.2; omega) hrate
  cases h with
  | value success json =>
    rw [outcome_of_success r success, json]
    rfl
  | network success unread =>
    rw [outcome_of_success r success]
    cases hread : Json.read Json.Reader.any r.body with
    | ok v => exact absurd hread (unread v)
    | error fault => rfl
  | rateLimited status => rw [outcome, if_pos status]
  | authentication status words =>
    rw [hfailure 401 (by decide) (by decide) status, ← (words_iff _ _).mp words]
    rfl
  | forbidden status words =>
    rw [hfailure 403 (by decide) (by decide) status, ← (words_iff _ _).mp words]
    rfl
  | notFound status words =>
    rw [hfailure 404 (by decide) (by decide) status, ← (words_iff _ _).mp words]
    rfl
  | api failure unnamed explains =>
    rw [outcome_of_failure r failure (ne_of_unnamed unnamed).2.2.2,
      statusFault_explained _ _ _ unnamed explains]
  | http failure unnamed unexplained =>
    rw [outcome_of_failure r failure (ne_of_unnamed unnamed).2.2.2,
      statusFault_unexplained _ _ unnamed unexplained]

/-- Every answer has one meaning. It is a value only if its status is one of success; with such a
status no fault tells what a server said; and a fault that does tells something if the answer has a
body. -/
theorem outcome_iff_means (r : Response) :
    (∀ x, r.outcome = x ↔ r.Means x) ∧
    (¬r.Succeeds → ∀ v, r.outcome ≠ .ok v) ∧
    (r.Succeeds → ∀ fault, r.outcome = .error fault →
      fault = .network notJson ∧ fault.words? = none) ∧
    (r.body ≠ "" → ∀ fault text, r.outcome = .error fault → fault.words? = some text →
      text ≠ "") := by
  refine ⟨fun x => ⟨fun h => h ▸ r.means_outcome, Means.outcome_eq⟩, ?_, ?_, ?_⟩
  · intro hfailure v hvalue
    cases hvalue ▸ r.means_outcome with
    | value success => exact hfailure success
  · intro hsuccess fault hfault
    rw [outcome_of_success r hsuccess] at hfault
    cases hread : Json.read Json.Reader.any r.body with
    | ok v =>
      rw [hread] at hfault
      exact absurd hfault nofun
    | error _ =>
      rw [hread] at hfault
      obtain rfl := Except.error.inj hfault
      exact ⟨rfl, rfl⟩
  · intro hbody fault text hfault hwords
    have hmeans : r.Means (.error fault) := hfault ▸ r.means_outcome
    cases hmeans with
    | network => exact absurd hwords nofun
    | rateLimited => exact Option.some.inj hwords ▸ hbody
    | authentication _ words => exact Option.some.inj hwords ▸ words.ne_empty hbody
    | forbidden _ words => exact Option.some.inj hwords ▸ words.ne_empty hbody
    | notFound _ words => exact Option.some.inj hwords ▸ words.ne_empty hbody
    | api _ _ explains => exact Option.some.inj hwords ▸ explains.2
    | http => exact Option.some.inj hwords ▸ hbody

/-- A list may stand for an error body and leave out its last part; a code of more than 16 bits
makes none, and the answer is given whole; an answer of success without a body is no value, and one
with a record in its body is that record. -/
theorem meaning_of_four_answers :
    let refused : Response := { status := 400, body := "[400,\"bad\"]" }
    let missing : Response := { status := 404, body := "\x7b\"message\":\"no\",\"code\":70000\x7d" }
    let empty : Response := { status := 204 }
    let found : Response := { body := "\x7b\"id\":\"a\"\x7d" }
    (∃ e, Explains refused.body e ∧ e.message = "bad") ∧ ¬refused.Succeeds ∧
    (∃ data, refused.outcome = .error (.api 400 "bad" data)) ∧ (∀ v, refused.outcome ≠ .ok v) ∧
    (∀ e, ¬Explains missing.body e) ∧ missing.body ≠ "" ∧
    missing.outcome = .error (.notFound missing.body) ∧
    empty.Succeeds ∧ empty.outcome = .error (.network notJson) ∧
    found.Succeeds ∧ ∃ v, found.outcome = .ok v ∧ v.render = found.body := by
  intro refused missing empty found
  have hfound : (errorBody? refused.body).map (·.message) = some "bad" := by decide +kernel
  have hnone : (errorBody? missing.body).isNone = true := by decide +kernel
  have hunread : (Json.read Json.Reader.any empty.body).isOk = false := by decide +kernel
  have hrecord : (Json.read Json.Reader.any found.body).toOption.map (·.render) =
      some found.body := by decide +kernel
  obtain ⟨e, he, hmessage⟩ := Option.map_eq_some_iff.mp hfound
  obtain ⟨v, hv, hrender⟩ := Option.map_eq_some_iff.mp hrecord
  have hexplains := (ErrorBody.errorBody?_eq_some_iff _ e).mp he
  have hunexplained := (ErrorBody.errorBody?_eq_none_iff _).mp (Option.isNone_iff_eq_none.mp hnone)
  have hfailure : ¬refused.Succeeds := by unfold Succeeds; decide
  have hsuccess : empty.Succeeds := by unfold Succeeds; decide
  have hfull : found.Succeeds := by unfold Succeeds; decide
  obtain ⟨hrefused, hnovalue, -, -⟩ := outcome_iff_means refused
  obtain ⟨hmissing, -, -, -⟩ := outcome_iff_means missing
  obtain ⟨hempty, -, -, -⟩ := outcome_iff_means empty
  obtain ⟨hvalue, -, -, -⟩ := outcome_iff_means found
  refine ⟨⟨e, hexplains, hmessage⟩, hfailure, ⟨e.data, ?_⟩, hnovalue hfailure, hunexplained,
    by decide, ?_, hsuccess, ?_, hfull, v, ?_, hrender⟩
  · rw [hrefused, ← hmessage]
    exact .api hfailure (by unfold IsNamed; decide) hexplains
  · rw [hmissing]
    exact .notFound rfl (.whole hunexplained)
  · rw [hempty]
    refine .network hsuccess fun v hv => ?_
    rw [hv] at hunread
    exact absurd hunread nofun
  · rw [hvalue]
    refine .value hfull ?_
    cases hread : Json.read Json.Reader.any found.body with
    | error fault => simp [hread, Except.toOption] at hv
    | ok w => simpa [hread, Except.toOption] using hv

end Response

end RecordSelection
