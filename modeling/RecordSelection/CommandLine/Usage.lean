import RecordSelection.Client.Credentials

/-!
The reference that the command line prints of itself, with what is set in its environment.
-/

set_option autoImplicit false

namespace RecordSelection.CommandLine

def urlHint (e : Environment) : String :=
  match Credentials.nonBlank (e.value? Credentials.urlVariable) with
  | some url => " (set: " ++ url ++ ")"
  | none => ""

def tokenHint (e : Environment) : String :=
  if (e.value? Credentials.tokenVariable).isSome then " (set)" else ""

/-- A file that is there need not be readable. -/
def fileHint (e : Environment) : String :=
  match e.tokenFile with
  | .error .missing => ""
  | _ => " (found)"

def usageLines (e : Environment) : List String :=
  ["pbselect — compile and run PocketBase selection trees",
   "",
   "COMMANDS:",
   "  pbselect compile <SELECTION> [--schema FILE]    Print fields/expand/sort/filter parameters",
   "                                                  With --schema: validate and print the shape",
   "  pbselect shape <SELECTION> --schema FILE        Print the response shape",
   "  pbselect list <SELECTION>                       List matching records",
   "    [--page N] [--per-page N]                     Page selection (default 1, 30)",
   "    [--all]                                       Fetch every page",
   "  pbselect view <SELECTION> <ID>                  Fetch one record by id",
   "  pbselect usage                                  This reference",
   "",
   "SELECTION (file path, - for stdin, or inline JSON):",
   "  \x7b\"key\": \"posts\", \"fields\": [\"title\"], \"sort\": \"-created\",",
   "   \"expand\": [\x7b\"key\": \"author\", \"fields\": [\"name\"]\x7d,",
   "              \x7b\"key\": \"post(postId)\"\x7d]\x7d",
   "  No fields anywhere below a relation -> expand.* wildcard",
   "  Back-relations: name(via), e.g. post(postId)",
   "",
   "SCHEMA:",
   "  \x7b\"entities\": \x7b\"posts\": \x7b\"title\": \"text\", \"author\": \"relation\"\x7d\x7d,",
   "   \"relations\": \x7b\"author\": \x7b\"target\": \"users\"\x7d,",
   "                 \"post(postId)\": \x7b\"target\": \"comments\", \"many\": true\x7d\x7d\x7d",
   "",
   "GLOBAL OPTIONS:",
   "  --url <URL>           Server URL (default " ++ Credentials.defaultUrl ++ ")",
   "  --token <TOKEN>       Override auth token",
   "  --format human|json   Force output format (auto-detected by default)",
   "  --verbose             Debug logging to stderr (or PBSELECT_LOG_LEVEL=debug)",
   "",
   "SERVER:",
   "  1. --url flag",
   "  2. $POCKETBASE_URL env var" ++ urlHint e,
   "",
   "AUTH (in precedence order):",
   "  1. --token flag",
   "  2. $POCKETBASE_TOKEN env var" ++ tokenHint e,
   "  3. ~/.pocketbase_token file" ++ fileHint e]

def usageText (e : Environment) : String := String.join ((usageLines e).map (· ++ "\n"))

end RecordSelection.CommandLine
