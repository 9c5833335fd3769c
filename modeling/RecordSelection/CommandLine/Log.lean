import RecordSelection.Client.Credentials
import RecordSelection.Client.Exchange
import RecordSelection.Number.Digits
import RecordSelection.Selection.Parameters

/-!
The log of the command line: a line for the selection that was compiled and one for each request,
when lines for debugging are wanted.
-/

set_option autoImplicit false

namespace RecordSelection.CommandLine

def levelVariable : String := "PBSELECT_LOG_LEVEL"

/-- Levels by name, and their numbers as other names. -/
def levelNumber? (s : String) : Option Nat :=
  let digits := match s.toList with
    | '+' :: digits => digits
    | digits => digits
  let number := if !digits.isEmpty && digits.all Number.isDigit then some (Number.numeral digits)
    else none
  match number with
  | some n => if 1 ≤ n && n ≤ 5 then some n else none
  | none =>
    ["error", "warn", "info", "debug", "trace"].findIdx?
      (fun name => name.toList == s.toList.map Char.toLower) |>.map (· + 1)

def isVerbose (verbose : Bool) (e : Environment) : Bool :=
  verbose || match (e.value? levelVariable).bind levelNumber? with
    | some n => 4 ≤ n
    | none => false

inductive Entry where
  | compiled (key : String) (p : Parameters)
  | request (r : Request)
  deriving Repr

namespace Entry

def showOption : Option String → String
  | some value => "Some(" ++ Text.quoted value ++ ")"
  | none => "None"

def line : Entry → String
  | .compiled key p =>
    "DEBUG pbselect_sdk::compile: compiled selection key=" ++ key ++ " fields="
      ++ showOption p.fields ++ " expand=" ++ showOption p.expand
  | .request r => "DEBUG pbselect_sdk::client: GET url=" ++ r.url.render

end Entry

end RecordSelection.CommandLine
