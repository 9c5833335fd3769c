import RecordSelection.Client.Fault
import RecordSelection.Files

/-!
Where the address of the server and the credentials come from: variables, and a file in the home
directory. Blank ones count as absent when they are looked for in turn.
-/

set_option autoImplicit false

namespace RecordSelection

structure Environment where
  values : List (String × String) := []
  home : String := ""
  tokenFile : Except FileFault String := .error .missing

def Environment.value? (e : Environment) (name : String) : Option String :=
  (e.values.find? (·.1 == name)).map (·.2)

namespace Credentials

def defaultUrl : String := "http://127.0.0.1:8090"

def urlVariable : String := "POCKETBASE_URL"

def tokenVariable : String := "POCKETBASE_TOKEN"

def fileName : String := ".pocketbase_token"

def nonBlank (value : Option String) : Option String := value.filter (!Text.allBlank ·)

def url (e : Environment) : String := (nonBlank (e.value? urlVariable)).getD defaultUrl

def tokenFromVariable (e : Environment) : Except ClientFault String :=
  match e.value? tokenVariable with
  | some token => .ok token
  | none => .error (.configuration (tokenVariable ++ " environment variable not set"))

def tokenFromFile (e : Environment) : Except ClientFault String :=
  match e.tokenFile with
  | .ok content => .ok (Text.trim content)
  | .error fault => .error (.configuration
      ("Could not read token file " ++ e.home ++ "/" ++ fileName ++ ": " ++ fault.message))

/-- The first token that is not blank: from the variable, then from the file. -/
def findToken (e : Environment) : Option String :=
  match nonBlank (tokenFromVariable e).toOption with
  | some token => some token
  | none => nonBlank (tokenFromFile e).toOption

end Credentials

end RecordSelection
