import RecordSelection.Proofs.Client.Remaining

/-!
# The credentials of an environment

What the clients of an environment send as credentials. The client with the token that is found
first never sends a blank one. The client with the token of the variable sends that token as it
is, so it sends a blank one if the variable holds nothing but blanks. This is the only difference
between the two when the file with the token cannot be read.
-/

set_option autoImplicit false

namespace RecordSelection

theorem Text.ne_empty_of_not_allBlank (s : String) (h : allBlank s = false) : s ≠ "" := by
  rintro rfl
  exact absurd h (by decide)

/-- Some token stands in the request and is blank. -/
def Request.HasBlankToken (r : Request) : Prop :=
  ∃ token, r.authorization = some token ∧ Text.allBlank token = true

def Environment.HasBlankToken (e : Environment) : Prop :=
  ∃ token, e.value? Credentials.tokenVariable = some token ∧ token ≠ "" ∧
    Text.allBlank token = true

def Environment.ofVariables (address token : String) : Environment :=
  { values := [(Credentials.urlVariable, address), (Credentials.tokenVariable, token)] }

namespace Credentials

theorem toOption_tokenFromVariable (e : Environment) :
    (tokenFromVariable e).toOption = e.value? tokenVariable := by
  unfold tokenFromVariable
  cases e.value? tokenVariable <;> rfl

theorem nonBlank_eq_some_iff (value : Option String) (token : String) :
    nonBlank value = some token ↔ value = some token ∧ Text.allBlank token = false := by
  simp [nonBlank, Option.filter_eq_some_iff]

theorem not_allBlank_of_findToken (e : Environment) (token : String)
    (h : findToken e = some token) : Text.allBlank token = false := by
  unfold findToken at h
  split at h
  · rename_i found hfound
    obtain rfl := Option.some.inj h
    exact ((nonBlank_eq_some_iff _ found).mp hfound).2
  · exact ((nonBlank_eq_some_iff _ token).mp h).2

theorem findToken_of_unread (e : Environment) (fault : FileFault)
    (h : e.tokenFile = .error fault) : findToken e = nonBlank (e.value? tokenVariable) := by
  have hfile : nonBlank (tokenFromFile e).toOption = none := by
    rw [tokenFromFile, h]
    rfl
  rw [findToken, toOption_tokenFromVariable, hfile]
  split
  · rename_i token hfound
    exact hfound.symm
  · rename_i hnone
    exact hnone.symm

end Credentials

namespace Exchange

variable {α : Type}

theorem asks_of_mem_attempted (answer : Nat → Except ClientFault Json) (n : Nat) (e : Exchange α)
    (r : Request) (h : r ∈ (run answer n e).attempted) : ∃ k, e.Asks r k := by
  induction e generalizing n with
  | done result => exact absurd h List.not_mem_nil
  | get request key resume ih =>
    have hfirst : r = request → ∃ k, (Exchange.get request key resume).Asks r k := by
      rintro rfl
      exact ⟨key, .now r key resume⟩
    rw [run] at h
    -- A request was asked for even if it cannot be sent or is answered with a fault.
    split at h
    · split at h
      · rename_i value _
        rcases List.mem_cons.mp h with hr | hrest
        · exact hfirst hr
        · obtain ⟨k, hasks⟩ := ih value (n + 1) hrest
          exact ⟨k, .later value hasks⟩
      · exact hfirst (List.mem_singleton.mp h)
    · exact hfirst (List.mem_singleton.mp h)

end Exchange

namespace Client

/-- Some call of the client can come to make the request, and the request can be sent. -/
def Sends (c : Client) (r : Request) : Prop :=
  r.isSendable = true ∧
    ∃ (α : Type) (call : Call α) (k : Option String), call.client = c ∧ call.exchange.Asks r k

theorem sends_of_mem_requests {α : Type} (call : Call α)
    (answer : Nat → Except ClientFault Json) (n : Nat) (r : Request)
    (h : r ∈ (call.exchange.run answer n).requests) : call.client.Sends r := by
  obtain ⟨hattempted, hsendable⟩ := List.mem_filter.mp h
  obtain ⟨k, hasks⟩ := Exchange.asks_of_mem_attempted answer n _ r hattempted
  exact ⟨hsendable, α, call, k, rfl, hasks⟩

theorem authorization_of_sends (c : Client) (r : Request) (h : c.Sends r) :
    r.authorization = c.token := by
  obtain ⟨-, α, call, k, rfl, hasks⟩ := h
  exact call.authorization_of_asks r k hasks

theorem sends_request (c : Client) (collection : String)
    (h : (c.request collection none []).isSendable = true) :
    c.Sends (c.request collection none []) := by
  let call : Call Json :=
    { client := c, item := Json.Reader.any, collection, parameters := {}, kind := .send none }
  apply sends_of_mem_requests call (fun _ => .ok .null) 0
  apply List.mem_filter.mpr
  refine ⟨?_, h⟩
  change _ ∈ (Exchange.run _ 0 (.get (c.request collection none []) none _)).attempted
  rw [Exchange.run, if_pos h]
  exact List.mem_cons_self

theorem ofUrl_withToken? (s : String) (found : Option String) :
    (do return (← ofUrl s).withToken? found : Except ClientFault Client) =
      (ofUrl s).map fun c => { c with token := found.filter (· ≠ "") } := by
  unfold ofUrl
  cases Url.read s with
  | error fault => rfl
  | ok base =>
    cases found with
    | none => rfl
    | some token =>
      by_cases h : token = "" <;> simp [withToken?, withToken, Except.map, Option.filter, h]

theorem fromVariables_eq (e : Environment) :
    fromVariables e = (ofUrl (Credentials.url e)).map fun c =>
      { c with token := (e.value? Credentials.tokenVariable).filter (· ≠ "") } := by
  rw [fromVariables, ofUrl_withToken?, Credentials.toOption_tokenFromVariable]

theorem automatic_eq (e : Environment) :
    automatic e = (ofUrl (Credentials.url e)).map fun c =>
      { c with token := Credentials.findToken e } := by
  have hfound : (Credentials.findToken e).filter (· ≠ "") = Credentials.findToken e := by
    cases hfind : Credentials.findToken e with
    | none => rfl
    | some token =>
      have hne := Text.ne_empty_of_not_allBlank token
        (Credentials.not_allBlank_of_findToken e token hfind)
      exact Option.filter_eq_some_iff.mpr ⟨rfl, decide_eq_true hne⟩
  rw [automatic, ofUrl_withToken?, hfound]

theorem token_of_map_ofUrl (s : String) (token : Option String) (c : Client)
    (h : (ofUrl s).map (fun c => { c with token }) = .ok c) : c.token = token := by
  cases hbase : ofUrl s with
  | error fault => simp [hbase, Except.map] at h
  | ok base =>
    simp only [hbase, Except.map, Except.ok.injEq] at h
    rw [← h]

theorem token_of_fromVariables (e : Environment) (c : Client) (h : fromVariables e = .ok c) :
    c.token = (e.value? Credentials.tokenVariable).filter (· ≠ "") :=
  token_of_map_ofUrl _ _ c (fromVariables_eq e ▸ h)

theorem token_of_automatic (e : Environment) (c : Client) (h : automatic e = .ok c) :
    c.token = Credentials.findToken e :=
  token_of_map_ofUrl _ _ c (automatic_eq e ▸ h)

theorem not_hasBlankToken_of_automatic (e : Environment) (c : Client) (r : Request)
    (h : automatic e = .ok c) (hsent : c.Sends r) : ¬r.HasBlankToken := by
  rintro ⟨token, hauthorization, hblank⟩
  rw [authorization_of_sends c r hsent, token_of_automatic e c h] at hauthorization
  rw [Credentials.not_allBlank_of_findToken e token hauthorization] at hblank
  exact absurd hblank (by decide)

theorem hasBlankToken_iff_of_fromVariables (e : Environment) (c : Client) (r : Request)
    (h : fromVariables e = .ok c) (hsent : c.Sends r) : r.HasBlankToken ↔ e.HasBlankToken := by
  unfold Request.HasBlankToken Environment.HasBlankToken
  rw [authorization_of_sends c r hsent, token_of_fromVariables e c h]
  simp [Option.filter_eq_some_iff, and_assoc]

theorem fromVariables_eq_automatic (e : Environment) (fault : FileFault)
    (hfile : e.tokenFile = .error fault) (hblank : ¬e.HasBlankToken) :
    fromVariables e = automatic e := by
  have htoken : (e.value? Credentials.tokenVariable).filter (· ≠ "") =
      Credentials.nonBlank (e.value? Credentials.tokenVariable) := by
    cases hvalue : e.value? Credentials.tokenVariable with
    | none => rfl
    | some token =>
      by_cases hall : Text.allBlank token = true
      · have hempty : token = "" := by_contra fun hne => hblank ⟨token, hvalue, hne, hall⟩
        rw [hempty]
        decide
      · have hne : token ≠ "" := Text.ne_empty_of_not_allBlank token (by simpa using hall)
        simp [Credentials.nonBlank, Option.filter, hne, hall]
  rw [fromVariables_eq, automatic_eq, Credentials.findToken_of_unread e fault hfile, htoken]

/-- Where the two part: without the file a blank token is sent by one of them, and nothing is sent
as a token by the other. -/
theorem fromVariables_eq_of_blank (e : Environment) (fault : FileFault)
    (hfile : e.tokenFile = .error fault) (hblank : e.HasBlankToken) :
    (∀ c, automatic e = .ok c → c.token = none) ∧
      fromVariables e = (automatic e).map fun c =>
        { c with token := e.value? Credentials.tokenVariable } := by
  obtain ⟨token, hvalue, hne, hall⟩ := hblank
  have hfound : Credentials.findToken e = none := by
    rw [Credentials.findToken_of_unread e fault hfile, hvalue]
    simp [Credentials.nonBlank, hall]
  have hown : (some token).filter (· ≠ "") = some token :=
    Option.filter_eq_some_iff.mpr ⟨rfl, decide_eq_true hne⟩
  constructor
  · intro c h
    rw [token_of_automatic e c h, hfound]
  · rw [fromVariables_eq, automatic_eq, hvalue, hown]
    cases ofUrl (Credentials.url e) <;> rfl

/-- The client with the token that is found first never sends a blank one. The client with the
token of the variable sends a blank one exactly when the variable holds one. Without the file the
two are the same client otherwise, and differ in that token alone when the variable holds one. -/
theorem blank_token_sent_iff (e : Environment) :
    (∀ c, automatic e = .ok c → ∀ r, c.Sends r → ¬r.HasBlankToken) ∧
    (∀ c, fromVariables e = .ok c → ∀ r, c.Sends r → (r.HasBlankToken ↔ e.HasBlankToken)) ∧
    ∀ fault, e.tokenFile = .error fault →
      (¬e.HasBlankToken → fromVariables e = automatic e) ∧
      (e.HasBlankToken → (∀ c, automatic e = .ok c → c.token = none) ∧
        fromVariables e = (automatic e).map fun c =>
          { c with token := e.value? Credentials.tokenVariable }) := by
  refine ⟨?_, ?_, ?_⟩
  · intro c h r hsent
    exact not_hasBlankToken_of_automatic e c r h hsent
  · intro c h r hsent
    exact hasBlankToken_iff_of_fromVariables e c r h hsent
  · intro fault hfile
    exact ⟨fromVariables_eq_automatic e fault hfile, fromVariables_eq_of_blank e fault hfile⟩

/-- A space in the variable is sent by one of the clients and not by the other. Both send a token
with more than spaces in it. -/
theorem blank_token_sent_space :
    let c : Client := { base := ⟨"http".toList, some { host := "[::1]".toList }, [[]], none, none⟩ }
    let spaced : Client := { c with token := some " " }
    automatic (.ofVariables "http://[::1]" " ") = .ok c ∧
      fromVariables (.ofVariables "http://[::1]" " ") = .ok spaced ∧
      (∀ r, c.Sends r → ¬r.HasBlankToken) ∧
      spaced.Sends (spaced.request "posts" none []) ∧
      (spaced.request "posts" none []).HasBlankToken ∧
      fromVariables (.ofVariables "http://[::1]" " t") =
        automatic (.ofVariables "http://[::1]" " t") := by
  intro c spaced
  have hautomatic : automatic (.ofVariables "http://[::1]" " ") = .ok c := rfl
  have hblank : (Environment.ofVariables "http://[::1]" " ").HasBlankToken :=
    ⟨" ", rfl, by decide, by decide⟩
  have hfull : ¬(Environment.ofVariables "http://[::1]" " t").HasBlankToken := by
    rintro ⟨token, hvalue, -, hall⟩
    obtain rfl : " t" = token := Option.some.inj hvalue
    exact absurd hall (by decide)
  obtain ⟨hnever, hwhen, hunread⟩ := blank_token_sent_iff (.ofVariables "http://[::1]" " ")
  have hvariables : fromVariables (.ofVariables "http://[::1]" " ") = .ok spaced := by
    rw [((hunread .missing rfl).2 hblank).2, hautomatic]
    rfl
  have hsent : spaced.Sends (spaced.request "posts" none []) :=
    sends_request spaced "posts" (by decide)
  have hsame := ((blank_token_sent_iff (.ofVariables "http://[::1]" " t")).2.2 .missing rfl).1 hfull
  exact ⟨hautomatic, hvariables, hnever c hautomatic, hsent,
    (hwhen spaced hvariables _ hsent).mpr hblank, hsame⟩

/-- Blanks alone are sent as a token, and by only one of two clients that were to agree. -/
theorem space_sent_as_token :
    (¬∀ (e : Environment) (c : Client), fromVariables e = .ok c ∨ automatic e = .ok c →
      ∀ r, c.Sends r → ¬r.HasBlankToken) ∧
    ¬∀ (e : Environment) (fault : FileFault), e.tokenFile = .error fault →
      ∀ c c', fromVariables e = .ok c → automatic e = .ok c' → ∀ r, c.Sends r ↔ c'.Sends r := by
  let c : Client := { base := ⟨"http".toList, some { host := "[::1]".toList }, [[]], none, none⟩ }
  let spaced : Client := { c with token := some " " }
  have hautomatic : automatic (.ofVariables "http://[::1]" " ") = .ok c := rfl
  have hvariables : fromVariables (.ofVariables "http://[::1]" " ") = .ok spaced := rfl
  have hsent : spaced.Sends (spaced.request "posts" none []) :=
    sends_request spaced "posts" (by decide)
  constructor
  · intro h
    exact h _ spaced (.inl hvariables) _ hsent ⟨" ", rfl, by decide⟩
  · intro h
    have hother := (h _ .missing rfl spaced c hvariables hautomatic _).mp hsent
    exact absurd (authorization_of_sends c _ hother) (by decide)

end Client

end RecordSelection
