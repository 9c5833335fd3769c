import RecordSelection.Client.Basic
import RecordSelection.CommandLine.Arguments
import RecordSelection.CommandLine.Log
import RecordSelection.CommandLine.Table
import RecordSelection.CommandLine.Usage
import RecordSelection.Selection.Document
import RecordSelection.Shape.Render

/-!
Running a command: what it prints, what it logs, the requests it makes, and the status it ends
with. A command that fails prints nothing but the reason.
-/

set_option autoImplicit false

namespace RecordSelection.CommandLine

structure Surroundings where
  environment : Environment
  input : String
  fileAt : String → Except FileFault String
  answer : Nat → Except ClientFault Json

inductive RunFault where
  | selectionFile (path : String)
  | selection (fault : Json.Fault)
  | schema (fault : SchemaFault)
  | client (fault : ClientFault)

def RunFault.message : RunFault → String
  | .selectionFile path => "Failed to read selection file '" ++ path ++ "'"
  | .selection fault => "Invalid selection: " ++ fault.message
  | .schema fault => fault.message
  | .client fault => fault.message

structure Report where
  log : List Entry
  result : Except RunFault String

namespace Surroundings

/-- The text of a selection: the input for a hyphen, the argument itself if it begins as an object,
or else that of a file. -/
def selectionText (s : Surroundings) (source : String) : Except RunFault String :=
  if source = "-" then .ok s.input
  else if (Text.trimStart source.toList).head? = some '\x7b' then .ok source
  else (s.fileAt source).mapError fun _ => .selectionFile source

def selection (s : Surroundings) (source : String) : Except RunFault Selection := do
  (Selection.read (← s.selectionText source)).mapError .selection

def schema (s : Surroundings) (path : String) : Except RunFault Schema :=
  match s.fileAt path with
  | .ok text => (Schema.read text).mapError .schema
  | .error fault =>
    .error (.schema (.unreadable ("could not read " ++ path ++ ": " ++ fault.message)))

def client (s : Surroundings) (o : Options) : Except RunFault Client := do
  let c ← (Client.ofUrl (o.url.getD (Credentials.url s.environment))).mapError .client
  return c.withToken? (o.token.or (Credentials.findToken s.environment))

end Surroundings

def lineOf (s : String) : String := s ++ "\n"

def tableText (titles : List String) (rows : List (List String)) : String :=
  lineOf (if rows.isEmpty then "No results." else Table.render titles rows)

def parametersTable (p : Parameters) : String :=
  tableText ["param", "value"] (p.allPairs.map fun (name, value) => [name, value])

def preview : Nat := 80

def shorten (s : String) : String :=
  if preview < s.toList.length then String.ofList (s.toList.take (preview - 1) ++ ['…']) else s

def recordRow (record : Json) : List String :=
  let id := match record.member? "id" with
    | some (.text id) => id
    | _ => ""
  let rest := match record with
    | .object members => members.filter fun member => member.1 ≠ "id"
    | _ => []
  [id, shorten (Json.object rest).render]

def recordsTable (records : List Json) : String :=
  tableText ["id", "data"] (records.map recordRow)

def pageText (p : RecordPage Json) : OutputForm → String
  | .json => lineOf (p.toJson id).pretty
  | .human => recordsTable p.items
      ++ (if 0 ≤ p.totalItems then
        lineOf ("Page " ++ toString p.page ++ " of " ++ toString p.totalPages ++ " ("
          ++ toString p.totalItems ++ " records)")
      else "")

def recordsText (records : List Json) : OutputForm → String
  | .json => lineOf (Json.list records).pretty
  | .human => recordsTable records

def compiledText (c : Compiled) : OutputForm → String
  | .json => lineOf c.toJson.pretty
  | .human => lineOf "Parameters" ++ parametersTable c.parameters ++ lineOf "" ++ lineOf "Shape"
      ++ lineOf c.shape.render

def parametersText (p : Parameters) : OutputForm → String
  | .json => lineOf p.toJson.pretty
  | .human => parametersTable p

def shapeText (s : Shape) : OutputForm → String
  | .json => lineOf s.toJson.pretty
  | .human => lineOf s.render

def Report.ofCall {α : Type} (q : Query) (trace : Exchange.Trace α) (text : α → String) :
    Report where
  log := .compiled q.selection.key q.parameters :: trace.attempted.map .request
  result := (trace.result.map text).mapError .client

namespace Command

def report (s : Surroundings) (o : Options) (form : OutputForm) :
    Command → Except RunFault Report
  | .compile source none => do
    let root ← s.selection source
    return ⟨[.compiled root.key root.compile], .ok (parametersText root.compile form)⟩
  | .compile source (some path) => do
    let root ← s.selection source
    let c ← ((← s.schema path).compile root).mapError .schema
    return ⟨[.compiled root.key c.parameters], .ok (compiledText c form)⟩
  | .shape source path => do
    let root ← s.selection source
    let c ← ((← s.schema path).compile root).mapError .schema
    return ⟨[.compiled root.key c.parameters], .ok (shapeText c.shape form)⟩
  | .list source page perPage all => do
    let c ← s.client o
    let root ← s.selection source
    if all then
      let q : Query := { selection := root }
      return .ofCall q ((q.all c Json.Reader.any).run s.answer 0) (recordsText · form)
    else
      let q : Query := { selection := root, page := { page, perPage } }
      return .ofCall q ((q.send c Json.Reader.any).run s.answer 0) (pageText · form)
  | .view source id => do
    let c ← s.client o
    let q : Query := { selection := ← s.selection source }
    return .ofCall q ((q.view c Json.Reader.any id).run s.answer 0) fun record =>
      lineOf record.pretty
  | .usage => .ok ⟨[], .ok (usageText s.environment)⟩

end Command

structure Outcome where
  status : Nat := 0
  output : String := ""
  messages : List String := []
  requests : List Request := []

def Report.outcome (r : Report) (verbose : Bool) : Outcome :=
  let log := if verbose then r.log.map Entry.line else []
  let attempted := r.log.filterMap fun
    | .request r => some r
    | .compiled _ _ => none
  let requests := attempted.filter (·.isSendable)
  match r.result with
  | .ok output => { output, messages := log, requests }
  | .error fault => { status := 1, messages := log ++ ["Error: " ++ fault.message], requests }

def run (s : Surroundings) (o : Options) (c : Command) : Outcome :=
  let r := match c.report s o (o.form.getD .json) with
    | .ok r => r
    | .error fault => ⟨[], .error fault⟩
  r.outcome (isVerbose o.verbose s.environment)

def version : String := "pbselect 0.1.0"

def runArguments (s : Surroundings) (arguments : List String) : Outcome :=
  match readArguments arguments with
  | .ok (o, c) => run s o c
  | .error .version => { output := lineOf version }
  | .error .usage => { status := 2, messages := ["Error: wrong arguments; see pbselect usage"] }

end RecordSelection.CommandLine
