import RecordSelection.Client.Basic
import RecordSelection.Record.Catalogue

/-!
Calls on one client that come one after another, each run to its end before the next begins. The
requests are counted over all calls.
-/

set_option autoImplicit false

namespace RecordSelection

structure Session where
  client : Client
  sent : Nat := 0

namespace Session

variable {α : Type}

abbrev Answers := Nat → Except ClientFault Json

def withToken (s : Session) (token : String) : Session :=
  { s with client := s.client.withToken token }

def wait (answers : Answers) (s : Session) (call : Exchange α) : Session × Exchange.Trace α :=
  let trace := call.run answers s.sent
  ({ s with sent := s.sent + trace.requests.length }, trace)

def list (answers : Answers) (s : Session) (item : Json.Reader α) (root : Selection)
    (page : Page) : Session × Exchange.Trace (RecordPage α) :=
  s.wait answers (s.client.getPage item root.key page root.compile)

def all (answers : Answers) (s : Session) (item : Json.Reader α) (root : Selection) :
    Session × Exchange.Trace (List α) :=
  s.wait answers (s.client.getAll item root.key root.compile)

def view (answers : Answers) (s : Session) (item : Json.Reader α) (root : Selection)
    (id : String) : Session × Exchange.Trace α :=
  s.wait answers (s.client.getOne item root.key id root.compile)

def records (answers : Answers) (s : Session) (t : RecordType) (page : Page) :
    Session × Exchange.Trace (RecordPage Json) :=
  s.list answers t.format.reader t.selection page

end Session

end RecordSelection
