import RecordSelection.Client.Credentials
import RecordSelection.Client.Exchange
import RecordSelection.Client.Page
import RecordSelection.Client.Query
import RecordSelection.Url.Read

/-!
The client: the address of a server and the credentials sent with every request. Its calls ask for
one page of records, one record, the first that matches, or all of them page by page.
-/

set_option autoImplicit false

namespace RecordSelection

structure Client where
  base : Url
  token : Option String := none

namespace Client

def ofUrl (s : String) : Except ClientFault Client :=
  match Url.read s with
  | .ok base => .ok { base }
  | .error fault =>
    .error (.configuration ("Invalid base URL '" ++ s ++ "': " ++ fault.message))

/-- The client with a token; an empty one is none. -/
def withToken (c : Client) (token : String) : Client :=
  { c with token := if token = "" then none else some token }

def withToken? (c : Client) : Option String → Client
  | some token => c.withToken token
  | none => c

def fromVariables (e : Environment) : Except ClientFault Client := do
  return (← ofUrl (Credentials.url e)).withToken? (Credentials.tokenFromVariable e).toOption

def automatic (e : Environment) : Except ClientFault Client := do
  return (← ofUrl (Credentials.url e)).withToken? (Credentials.findToken e)

def recordPath (collection : String) (id : Option String) : List (List Char) :=
  ["api".toList, "collections".toList, collection.toList, "records".toList]
    ++ (match id with
      | some id => [id.toList]
      | none => [])

def recordsUrl (c : Client) (collection : String) (id : Option String)
    (pairs : List (String × String)) : Url :=
  (c.base.extend (recordPath collection id)).withPairs pairs

def request (c : Client) (collection : String) (id : Option String)
    (pairs : List (String × String)) : Request :=
  { url := c.recordsUrl collection id pairs, authorization := c.token }

def send (c : Client) (collection : String) (p : Parameters) (page : Option Page) :
    Exchange Json :=
  let pairs := p.pairs ++ (match page with
    | some page => page.pairs
    | none => [])
  .get (c.request collection none pairs) p.requestKey fun value => .done (.ok value)

variable {α : Type}

def decode (collection : String) (reader : Json.Reader α) (value : Json) : Except ClientFault α :=
  (Json.convert reader value).mapError fun fault =>
    .unexpected ("Failed to deserialize '" ++ collection ++ "' records: " ++ fault.message)

def getPage (c : Client) (item : Json.Reader α) (collection : String) (page : Page)
    (p : Parameters) : Exchange (RecordPage α) :=
  (c.send collection p (some page)).bind fun value =>
    .done (decode collection (RecordPage.reader item) value)

def getOne (c : Client) (item : Json.Reader α) (collection id : String) (p : Parameters) :
    Exchange α :=
  .get (c.request collection (some id) p.pairs) p.requestKey fun value =>
    .done (decode collection item value)

def getFirst (c : Client) (item : Json.Reader α) (collection : String) (p : Parameters) :
    Exchange α :=
  (c.getPage item collection { page := 1, perPage := 1, skipTotal := true } p).bind fun list =>
    match list.items with
    | record :: _ => .done (.ok record)
    | [] => .done (.error (.notFound ("No '" ++ collection ++ "' record matches the query")))

def batch : Nat := 500

/-- The pages from one on, after the records already there, until one is not full. -/
def getAllFrom (c : Client) (item : Json.Reader α) (collection : String) (p : Parameters) :
    Nat → Nat → List α → Exchange (List α)
  | 0, _, found => .done (.ok found)
  | pages + 1, number, found =>
    (c.getPage item collection { page := number, perPage := batch, skipTotal := true } p).bind
      fun list =>
        if list.items.length < batch then .done (.ok (found ++ list.items))
        else getAllFrom c item collection p pages (number + 1) (found ++ list.items)

/-- Every record that matches, page by page. Pages are counted in 32 bits. -/
def getAll (c : Client) (item : Json.Reader α) (collection : String) (p : Parameters) :
    Exchange (List α) :=
  c.getAllFrom item collection p (Nat.pow 2 32) 1 []

end Client

namespace Query

variable {α : Type}

def send (q : Query) (c : Client) (item : Json.Reader α) : Exchange (RecordPage α) :=
  c.getPage item q.selection.key q.page q.parameters

def first (q : Query) (c : Client) (item : Json.Reader α) : Exchange α :=
  c.getFirst item q.selection.key q.parameters

def all (q : Query) (c : Client) (item : Json.Reader α) : Exchange (List α) :=
  c.getAll item q.selection.key q.parameters

def view (q : Query) (c : Client) (item : Json.Reader α) (id : String) : Exchange α :=
  c.getOne item q.selection.key id q.parameters

end Query

end RecordSelection
