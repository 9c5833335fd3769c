import RecordSelection.Number.Digits
import RecordSelection.Text.Blank

/-!
The arguments of the command line: a command with its own options and values, and options that can
stand before and after it. The one given last at the inner level counts; an option may be given
once at each level. After two hyphens everything is a value.
-/

set_option autoImplicit false

namespace RecordSelection.CommandLine

inductive OutputForm where
  | human
  | json
  deriving DecidableEq, Repr

structure Options where
  url : Option String := none
  token : Option String := none
  form : Option OutputForm := none
  verbose : Bool := false
  deriving DecidableEq, Repr

inductive Command where
  | compile (selection : String) (schema : Option String)
  | shape (selection schema : String)
  | list (selection : String) (page perPage : Nat) (all : Bool)
  | view (selection id : String)
  | usage
  deriving DecidableEq, Repr

inductive Stop where
  | usage
  | version
  deriving DecidableEq, Repr

namespace Arguments

structure Known where
  long : List Char
  short : Option Char := none
  takesValue : Bool := true

/-- One argument, read; an argument that nothing can follow stops the reading. -/
inductive Item where
  | option (long : String) (value : String)
  | flag (long : String)
  | value (s : String)
  | stop (reason : Stop)
  deriving DecidableEq, Repr

def shared : List Known :=
  [{ long := "url".toList }, { long := "token".toList }, { long := "format".toList },
   { long := "verbose".toList, short := some 'v', takesValue := false }]

def versionFlag : Known := { long := "version".toList, short := some 'V', takesValue := false }

def looksLikeOption (s : List Char) : Bool :=
  match s with
  | '-' :: _ :: _ => true
  | _ => false

def Known.flag (k : Known) : Item :=
  if k.long = versionFlag.long then .stop .version else .flag (String.ofList k.long)

def Known.withValue (k : Known) (attached : Option (List Char)) (rest : List String) :
    Item × List String :=
  let name := String.ofList k.long
  match attached, rest with
  | some value, rest => (.option name (String.ofList value), rest)
  | none, next :: rest =>
    if looksLikeOption next.toList then (.stop .usage, rest) else (.option name next, rest)
  | none, [] => (.stop .usage, [])

def long (known : List Known) (s : List Char) (rest : List String) : Item × List String :=
  let name := s.takeWhile (· ≠ '=')
  let attached := match s.dropWhile (· ≠ '=') with
    | _ :: value => some value
    | [] => none
  match known.find? (·.long == name) with
  | none => (.stop .usage, rest)
  | some k =>
    if k.takesValue then k.withValue attached rest
    else if attached.isSome then (.stop .usage, rest)
    else (k.flag, rest)

/-- Short options after their hyphen: flags, of which the last may be an option with a value. -/
def short (known : List Known) (rest : List String) : List Char → List Item × List String
  | [] => ([], rest)
  | c :: more =>
    match known.find? (·.short == some c) with
    | none => ([.stop .usage], rest)
    | some k =>
      if k.takesValue then
        let attached := match more with
          | [] => none
          | '=' :: value => some value
          | value => some value
        let (item, rest) := k.withValue attached rest
        ([item], rest)
      else
        let (items, rest) := short known rest more
        (k.flag :: items, rest)

def next (known : List Known) (first : String) (rest : List String) : List Item × List String :=
  match first.toList with
  | '-' :: '-' :: name =>
    let (item, rest) := long known name rest
    ([item], rest)
  | '-' :: c :: more => short known rest (c :: more)
  | _ => ([.value first], rest)

def items (known : List Known) : Nat → List String → List Item
  | 0, _ => []
  | _ + 1, [] => []
  | _ + 1, "--" :: rest => rest.map .value
  | count + 1, first :: rest =>
    let (found, rest) := next known first rest
    found ++ items known count rest

structure Gathered where
  options : List (String × String) := []
  flags : List String := []
  values : List String := []

def form? (s : String) : Option OutputForm :=
  if s = "human" then some .human else if s = "json" then some .json else none

/-- A number of 32 bits, which may have a plus sign, or a minus sign before a zero. -/
def number? (s : String) : Option Nat :=
  let (negative, digits) := match s.toList with
    | '+' :: digits => (false, digits)
    | '-' :: digits => (true, digits)
    | digits => (false, digits)
  if digits.isEmpty || !digits.all Number.isDigit then none
  else
    let n := Number.numeral digits
    if n < Nat.pow 2 32 && (!negative || n = 0) then some n else none

def isValid (long value : String) : Bool :=
  if long = "format" then (form? value).isSome
  else if long = "page" || long = "per-page" then (number? value).isSome
  else true

def gather (g : Gathered) : Item → Except Stop Gathered
  | .option long value =>
    if (g.options.lookup long).isSome || !isValid long value then .error .usage
    else .ok { g with options := (long, value) :: g.options }
  | .flag long =>
    if g.flags.contains long then .error .usage else .ok { g with flags := long :: g.flags }
  | .value s => .ok { g with values := g.values ++ [s] }
  | .stop reason => .error reason

def Gathered.get? (g : Gathered) (long : String) : Option String := g.options.lookup long

def Gathered.number (g : Gathered) (long : String) (usual : Nat) : Nat :=
  ((g.get? long).bind number?).getD usual

def Gathered.over (g : Gathered) (outer : Options) : Options where
  url := (g.get? "url").or outer.url
  token := (g.get? "token").or outer.token
  form := ((g.get? "format").bind form?).or outer.form
  verbose := g.flags.contains "verbose" || outer.verbose

def own (command : String) : Option (List Known) :=
  let schema : Known := { long := "schema".toList, short := some 's' }
  match command with
  | "compile" | "shape" => some [schema]
  | "list" => some
    [{ long := "page".toList }, { long := "per-page".toList, short := some 'n' },
     { long := "all".toList, takesValue := false }]
  | "view" | "usage" => some []
  | _ => none

def commandOf (name : String) (g : Gathered) : Except Stop Command :=
  match name, g.values with
  | "compile", [selection] => .ok (.compile selection (g.get? "schema"))
  | "shape", [selection] => match g.get? "schema" with
    | some schema => .ok (.shape selection schema)
    | none => .error .usage
  | "list", [selection] =>
    let all := g.flags.contains "all"
    if all && ((g.get? "page").isSome || (g.get? "per-page").isSome) then .error .usage
    else .ok (.list selection (g.number "page" 1) (g.number "per-page" 30) all)
  | "view", [selection, id] => .ok (.view selection id)
  | "usage", [] => .ok .usage
  | _, _ => .error .usage

def readCommand (outer : Gathered) (name : String) (rest : List String) :
    Except Stop (Options × Command) := do
  let some known := own name | .error .usage
  let g ← (items (known ++ shared) rest.length rest).foldlM gather {}
  let command ← commandOf name g
  return (g.over (outer.over {}), command)

def readFrom (g : Gathered) : Nat → List String → Except Stop (Options × Command)
  | 0, _ => .error .usage
  | _ + 1, [] => .error .usage
  | _ + 1, "--" :: _ => .error .usage
  | count + 1, first :: rest => do
    if looksLikeOption first.toList then
      let (found, rest) := next (versionFlag :: shared) first rest
      let g ← found.foldlM gather g
      readFrom g count rest
    else readCommand g first rest

end Arguments

def readArguments (arguments : List String) : Except Stop (Options × Command) :=
  Arguments.readFrom {} (arguments.length + 1) arguments

def Command.paths : Command → List String
  | .compile selection none => [selection]
  | .compile selection (some schema) => [selection, schema]
  | .shape selection schema => [selection, schema]
  | .list selection _ _ _ => [selection]
  | .view selection _ => [selection]
  | .usage => []

def pathsOf (arguments : List String) : List String :=
  match readArguments arguments with
  | .ok (_, command) => command.paths
  | .error _ => []

end RecordSelection.CommandLine
