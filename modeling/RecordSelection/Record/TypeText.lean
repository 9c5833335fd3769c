import RecordSelection.Record.TypeExpr
import RecordSelection.Text.Blank

/-!
Reading type expressions. Only a path that takes up the whole text and ends in arguments in angle
brackets has parts of its own; references, tuples, functions, bounds and all else stay texts.
-/

set_option autoImplicit false

namespace RecordSelection.TypeExpr

abbrev Token := String

/-- The blanks between tokens: the marks that set the direction of writing are blanks too. -/
def isSpace (c : Char) : Bool := Text.isBlank c || c.toNat = 0x200e || c.toNat = 0x200f

def startsName (c : Char) : Bool := c.isAlpha || c == '_' || (0x80 ≤ c.toNat && !isSpace c)

def inName (c : Char) : Bool := startsName c || c.isDigit

def quotedRest (quote : Char) : List Char → List Char × List Char
  | [] => ([], [])
  | '\\' :: c :: rest =>
    let (inside, after) := quotedRest quote rest
    ('\\' :: c :: inside, after)
  | c :: rest =>
    if c = quote then ([c], rest)
    else
      let (inside, after) := quotedRest quote rest
      (c :: inside, after)

def rawRest (signs : List Char) : List Char → List Char × List Char
  | [] => ([], [])
  | c :: rest =>
    match if c = '"' then Text.dropLead signs rest else none with
    | some after => (c :: signs, after)
    | none =>
      let (inside, after) := rawRest signs rest
      (c :: inside, after)

def literalRest? (lead s : List Char) : Option (List Char × List Char) :=
  let raw := lead.getLast? = some 'r'
  let signs := if raw then s.takeWhile (· == '#') else []
  match s.drop signs.length with
  | '"' :: rest =>
    let (inside, after) := if raw then rawRest signs rest else quotedRest '"' rest
    some (signs ++ '"' :: inside, after)
  | '\'' :: rest =>
    if lead = ['b'] then
      let (inside, after) := quotedRest '\'' rest
      some ('\'' :: inside, after)
    else none
  | _ => none

def literalLeads : List (List Char) :=
  [['r'], ['b'], ['b', 'r'], ['c'], ['c', 'r']]

def literal? (s : List Char) : Option (List Char × List Char) :=
  match s with
  | '"' :: rest =>
    let (inside, after) := quotedRest '"' rest
    some ('"' :: inside, after)
  | '\'' :: '\\' :: c :: rest =>
    let (inside, after) := quotedRest '\'' rest
    some ('\'' :: '\\' :: c :: inside, after)
  | '\'' :: c :: '\'' :: rest => some (['\'', c, '\''], rest)
  | s => literalLeads.findSome? fun lead => do
    let rest ← Text.dropLead lead s
    let (inside, after) ← literalRest? lead rest
    return (lead ++ inside, after)

/-- One token and the characters after it. A lifetime is one token, and so are a double colon
and an arrow. The blanks in a literal are left out. -/
def token (c : Char) (rest : List Char) : Token × List Char :=
  let name (lead s : List Char) : Token × List Char :=
    (String.ofList (lead ++ s.takeWhile inName), s.dropWhile inName)
  match literal? (c :: rest) with
  | some (text, rest) => name (text.filter (!Text.isBlank ·)) rest
  | none =>
    if c = 'r' && rest.head? = some '#' then name [c, '#'] (rest.drop 1)
    else if startsName c || c.isDigit || c = '\'' then name [c] rest
    else match c, rest with
      | ':', ':' :: rest => ("::", rest)
      | '-', '>' :: rest => ("->", rest)
      | _, _ => (String.ofList [c], rest)

def afterComment : Nat → List Char → List Char
  | _, [] => []
  | 0, s => s
  | depth + 1, '*' :: '/' :: rest => afterComment depth rest
  | depth + 1, '/' :: '*' :: rest => afterComment (depth + 2) rest
  | depth + 1, _ :: rest => afterComment (depth + 1) rest

def tokens : Nat → List Char → List Token
  | 0, _ => []
  | _ + 1, [] => []
  | count + 1, '/' :: '/' :: rest => tokens count (rest.dropWhile (· ≠ '\n'))
  | count + 1, '/' :: '*' :: rest => tokens count (afterComment 1 rest)
  | count + 1, c :: rest =>
    if isSpace c then tokens count rest
    else
      let (first, rest) := token c rest
      first :: tokens count rest

def isLiteral (t : Token) : Bool :=
  let s := t.toList
  (s.head?.map Char.isDigit).getD false || s.contains '"' || 1 < s.count '\''

def isNameToken (t : Token) : Bool :=
  match t.toList with
  | c :: _ => startsName c && !isLiteral t
  | [] => false

def opens (t : Token) : Bool := t == "(" || t == "[" || t == "\x7b"

def closes (t : Token) : Bool := t == ")" || t == "]" || t == "\x7d"

/-- How many brackets are open: angle brackets, and others inside them. An angle bracket inside of
another bracket is none. -/
structure Depth where
  angles : Nat := 0
  others : Nat := 0

def Depth.isOuter (d : Depth) : Bool := d.angles = 0 && d.others = 0

def Depth.after (d : Depth) (t : Token) : Depth :=
  if opens t then { d with others := d.others + 1 }
  else if closes t then { d with others := d.others - 1 }
  else if d.others ≠ 0 then d
  else if t == "<" then { d with angles := d.angles + 1 }
  else if t == ">" then { d with angles := d.angles - 1 }
  else d

def closeAngle (d : Depth) : List Token → Option (List Token × List Token)
  | [] => none
  | t :: rest =>
    if d.isOuter && t == ">" then some ([], rest)
    else do
      let (before, after) ← closeAngle (d.after t) rest
      return (t :: before, after)

def splitCommas (d : Depth) : List Token → List (List Token)
  | [] => [[]]
  | t :: rest =>
    if d.isOuter && t == "," then [] :: splitCommas d rest
    else match splitCommas (d.after t) rest with
      | [] => [[t]]
      | part :: parts => (t :: part) :: parts

def isLifetime (part : List Token) : Bool :=
  match part with
  | [t] => t.startsWith "'" && !isLiteral t
  | _ => false

def withCommas (comma : Bool) : List (List Token) → List Token
  | [] => []
  | [part] => if comma then part ++ [","] else part
  | part :: parts => part ++ "," :: withCommas comma parts

def partsOf (inside : List Token) : List (List Token) × Bool :=
  let parts := splitCommas {} inside
  let trailing := 1 < parts.length && parts.getLast? == some []
  (if inside.isEmpty then [] else if trailing then parts.dropLast else parts, trailing)

def written : Nat → List Token → List Token
  | 0, ts => ts
  | _ + 1, [] => []
  | count + 1, "<" :: rest =>
    match closeAngle {} rest with
    | some (inside, after) =>
      let (parts, trailing) := partsOf inside
      let ordered := (lifetimesFirst isLifetime parts).map (written count)
      "<" :: withCommas (endsInComma isLifetime trailing parts) ordered ++ ">" :: written count after
    | none => "<" :: written count rest
  | count + 1, t :: rest => t :: written count rest

def joined (ts : List Token) : String := String.join (written ts.length ts)

def hasOuter (wanted : Token → Bool) (d : Depth) : List Token → Bool
  | [] => false
  | t :: rest => (d.isOuter && wanted t) || hasOuter wanted (d.after t) rest

/-- An argument that is a constant, a binding or a constraint is not a type. -/
def isTypeArgument (ts : List Token) : Bool :=
  match ts with
  | [] => false
  | t :: _ =>
    let constant := t == "\x7b" || t == "-" || t == "true" || t == "false" || isLiteral t
    !constant && !hasOuter (fun t => t == "=" || t == ":") {} ts

/-- The last name of a path with the arguments after it, what stands before it, and whether the
tokens are a path at all. -/
structure PathEnd where
  scope : List Token
  name : Token
  opening : String
  arguments : Option (List Token)

def pathEnd (scope : List Token) : Nat → List Token → Option PathEnd
  | 0, _ => none
  | _ + 1, [] => none
  | count + 1, name :: rest =>
    if !isNameToken name then none
    else
      let bracketed (opening : List Token) (rest : List Token) : Option PathEnd := do
        let (inside, after) ← closeAngle {} rest
        match after with
        | [] => return ⟨scope, name, joined opening, some inside⟩
        | "::" :: after =>
          pathEnd (scope ++ name :: opening ++ inside ++ [">", "::"]) count after
        | _ => none
      match rest with
      | [] => some ⟨scope, name, "", none⟩
      | "<" :: rest => bracketed ["<"] rest
      | "::" :: "<" :: rest => bracketed ["::", "<"] rest
      | "::" :: rest => pathEnd (scope ++ [name, "::"]) count rest
      | _ => none

def wholePath (ts : List Token) : Option PathEnd :=
  match ts with
  | "::" :: rest => pathEnd ["::"] ts.length rest
  | "<" :: rest => do
    let (inside, after) ← closeAngle {} rest
    match after with
    | "::" :: after => pathEnd ("<" :: inside ++ [">", "::"]) ts.length after
    | _ => none
  | ts => pathEnd [] ts.length ts

mutual

def ofTokens : Nat → List Token → TypeExpr
  | 0, ts => .other (joined ts)
  | count + 1, ts =>
    match wholePath ts with
    | some ⟨scope, name, opening, some inside⟩ =>
      let (parts, trailing) := partsOf inside
      .applied (joined scope) name opening (argumentsOf count parts) trailing
    | _ => .other (joined ts)

def argumentsOf : Nat → List (List Token) → List TypeArgument
  | 0, parts => parts.map fun part => .other (joined part)
  | _ + 1, [] => []
  | count + 1, part :: rest =>
    (if isLifetime part then .lifetime (joined part)
      else if isTypeArgument part then .type (ofTokens count part)
      else .other (joined part))
      :: argumentsOf count rest

end

def read (s : String) : TypeExpr :=
  let ts := tokens s.length s.toList
  ofTokens (2 * ts.length + 1) ts

end RecordSelection.TypeExpr
