import RecordSelection.Client.Fault
import RecordSelection.Number.Literal
import RecordSelection.Url.Basic

/-!
Requests and responses, and what a response means: a value, or the fault that says best why there
is none. The status decides; the body of an error answer can only add a message and details. A
response is the last one, after all redirects: those are followed before a response is seen.
-/

set_option autoImplicit false

namespace RecordSelection

structure Request where
  url : Url
  authorization : Option String
  deriving DecidableEq, Repr

namespace Request

def userAgent : String := "pbselect-sdk/0.1.0"

def headers (r : Request) : List (String × String) :=
  ("User-Agent", userAgent) :: (r.authorization.map fun token => ("Authorization", token)).toList

def isHeaderChar (c : Char) : Bool := c == '\t' || (0x20 ≤ c.toNat && c.toNat ≠ 0x7f)

def isOverHttp (u : Url) : Bool := ["http", "https"].contains (String.ofList u.scheme)

/-- A request can only be sent over HTTP, and if its credentials can stand in a header. -/
def isSendable (r : Request) : Bool :=
  isOverHttp r.url && r.headers.all fun header => header.2.toList.all isHeaderChar

end Request

structure Response where
  status : Nat := 200
  headers : List (String × String) := []
  body : String := ""
  deriving DecidableEq, Repr, Inhabited

namespace Response

def lowerName (name : String) : List Char := name.toList.map Char.toLower

def isHeaderBlank (c : Char) : Bool := c == ' ' || c == '\t'

def header? (r : Response) (name : String) : Option String :=
  (r.headers.find? fun h => lowerName h.1 == lowerName name).map fun h =>
    let value := h.2.toList.dropWhile isHeaderBlank
    String.ofList (value.reverse.dropWhile isHeaderBlank).reverse

/-- The seconds after which another request may be made, if the header is a number. -/
def retryAfter (r : Response) : Option Number.Binary64 := do
  let value ← r.header? "retry-after"
  if value.toList.all fun c => c == '\t' || (0x20 ≤ c.toNat && c.toNat < 0x7f) then
    Number.Binary64.ofText? value
  else none

def isSuccess (r : Response) : Bool := 200 ≤ r.status && r.status < 300

def errorBody? (body : String) : Option ErrorBody :=
  match Json.read ErrorBody.reader body with
  | .ok e => if e.message = "" then none else some e
  | .error _ => none

def statusFault (status : Nat) (body : String) : ClientFault :=
  let found := errorBody? body
  let message := (found.map (·.message)).getD body
  if status = 401 then .authentication message
  else if status = 403 then .forbidden message
  else if status = 404 then .notFound message
  else match found with
    | some e => .api status e.message e.data
    | none => .http status body

def notJson : String := "error decoding response body"

def outcome (r : Response) : Except ClientFault Json :=
  if r.status = 429 then .error (.rateLimited r.retryAfter r.body)
  else if r.isSuccess then (Json.read Json.Reader.any r.body).mapError fun _ => .network notJson
  else .error (statusFault r.status r.body)

def exhausted : Response := { status := 500, body := "no scripted response" }

def ofCount (n : Nat) : Response :=
  let record (i : Nat) : Json := .object [("id", .text (toString i))]
  { body := (Json.object [("items", .list ((List.range n).map record))]).render }

end Response

end RecordSelection
