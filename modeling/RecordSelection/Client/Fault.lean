import RecordSelection.Json.Reading
import RecordSelection.Json.Render
import RecordSelection.Schema.Fault

/-!
What can go wrong while records are asked for, and the error body a server sends.
-/

set_option autoImplicit false

namespace RecordSelection

structure ErrorBody where
  code : Nat := 0
  message : String := ""
  data : Json := .null
  deriving Repr, Inhabited

namespace ErrorBody

open Json.Reader in
def reader : Json.Reader ErrorBody :=
  record "ApiErrorBody"
    [field "code" .defaulted word16 fun value body => { body with code := value },
     field "message" .defaulted Json.Reader.text fun value body => { body with message := value },
     field "data" .defaulted any fun value body => { body with data := value }]
    {}

def toJson (b : ErrorBody) : Json :=
  .object [("code", .nat b.code), ("message", .text b.message), ("data", b.data)]

end ErrorBody

inductive ClientFault where
  | authentication (message : String)
  | forbidden (message : String)
  | notFound (message : String)
  | rateLimited (retryAfter : Option Number.Binary64) (message : String)
  | api (status : Nat) (message : String) (data : Json)
  | http (status : Nat) (body : String)
  | network (reason : String)
  | unexpected (reason : String)
  | cancelled (requestKey : String)
  | configuration (reason : String)
  | schema (fault : SchemaFault)
  | internal (reason : String)
  deriving Repr

namespace ClientFault

/-- The details of an error answer are shown when they are an object with members. -/
def details : Json → String
  | .object [] => ""
  | .object members => " (" ++ (Json.object members).render ++ ")"
  | _ => ""

def message : ClientFault → String
  | .authentication message => "Authentication error: " ++ message
  | .forbidden message => "Forbidden: " ++ message
  | .notFound message => "Not found: " ++ message
  | .rateLimited _ message => "Rate limited: " ++ message
  | .api status message data => "API error " ++ toString status ++ ": " ++ message ++ details data
  | .http status body => "HTTP error " ++ toString status ++ ": " ++ body
  | .network reason => "Network error: " ++ reason
  | .unexpected reason => "Unexpected response: " ++ reason
  | .cancelled requestKey => "Request '" ++ requestKey ++ "' was cancelled"
  | .configuration reason => "Configuration error: " ++ reason
  | .schema fault => "Schema error: " ++ fault.message
  | .internal reason => "Internal error: " ++ reason

def source : ClientFault → Option String
  | .network reason => some reason
  | .schema fault => some fault.message
  | _ => none

end ClientFault

end RecordSelection
