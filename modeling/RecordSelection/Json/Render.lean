import RecordSelection.Json.Basic

/-!
JSON texts of values: without blanks, or with a line for each item and two blanks for each level.
Texts are written as they are, except for quotes, backslashes and control characters below a
blank; numbers are written in their shortest form.
-/

set_option autoImplicit false

namespace RecordSelection.Json

def hexDigit (n : Nat) : Char := Nat.digitChar n

def escapeChar (c : Char) : List Char :=
  if c = '"' then ['\\', '"']
  else if c = '\\' then ['\\', '\\']
  else if c = '\x08' then ['\\', 'b']
  else if c = '\x0c' then ['\\', 'f']
  else if c = '\n' then ['\\', 'n']
  else if c = '\r' then ['\\', 'r']
  else if c = '\t' then ['\\', 't']
  else if c.toNat < 0x20 then
    ['\\', 'u', '0', '0', hexDigit (c.toNat / 16), hexDigit (c.toNat % 16)]
  else [c]

def renderText (s : String) : String :=
  String.ofList ('"' :: (s.toList.flatMap escapeChar ++ ['"']))

def Number.render : Number → String
  | .integer n => toString n
  | .decimal x => x.text .json

def render : Json → String
  | .null => "null"
  | .bool b => if b then "true" else "false"
  | .number n => n.render
  | .text s => renderText s
  | .list items => "[" ++ ",".intercalate (renderItems items) ++ "]"
  | .object members => "\x7b" ++ ",".intercalate (renderMembers members) ++ "\x7d"
where
  renderItems : List Json → List String
    | [] => []
    | item :: rest => render item :: renderItems rest
  renderMembers : List (String × Json) → List String
    | [] => []
    | (key, value) :: rest => (renderText key ++ ":" ++ render value) :: renderMembers rest

def indent (depth : Nat) : String := String.ofList (List.replicate (2 * depth) ' ')

def bracketed (opening closing : String) (depth : Nat) (parts : List String) : String :=
  if parts.isEmpty then opening ++ closing
  else
    let line := "\n" ++ indent (depth + 1)
    opening ++ line ++ ("," ++ line).intercalate parts ++ "\n" ++ indent depth ++ closing

def renderLines (depth : Nat) : Json → String
  | .null => "null"
  | .bool b => if b then "true" else "false"
  | .number n => n.render
  | .text s => renderText s
  | .list items => bracketed "[" "]" depth (itemLines (depth + 1) items)
  | .object members => bracketed "\x7b" "\x7d" depth (memberLines (depth + 1) members)
where
  itemLines (depth : Nat) : List Json → List String
    | [] => []
    | item :: rest => renderLines depth item :: itemLines depth rest
  memberLines (depth : Nat) : List (String × Json) → List String
    | [] => []
    | (key, value) :: rest =>
      (renderText key ++ ": " ++ renderLines depth value) :: memberLines depth rest

def pretty (value : Json) : String := renderLines 0 value

end RecordSelection.Json
