import RecordSelection.Url.Form
import RecordSelection.Url.Host
import RecordSelection.Url.Path

/-!
Reading absolute URLs. Blanks and controls around the text are dropped, and tabs and line ends
anywhere in it. A URL without a path of segments is refused.
-/

set_option autoImplicit false

namespace RecordSelection.Url

open RecordSelection.Number (isDigit numeral)

def trimmed (s : String) : List Char :=
  let outer (c : Char) : Bool := c.toNat ≤ 0x20
  ((s.toList.dropWhile outer).reverse.dropWhile outer).reverse

def visible (s : List Char) : List Char := s.filter (!isDropped ·)

def dropVisible : Nat → List Char → List Char
  | 0, s => s
  | _, [] => []
  | n + 1, c :: rest => if isDropped c then dropVisible (n + 1) rest else dropVisible n rest

def inScheme (c : Char) : Bool := c.isAlphanum || c == '+' || c == '-' || c == '.'

def scheme? (s : List Char) : Option (List Char × List Char) :=
  match s.head?, s.dropWhile inScheme with
  | some first, ':' :: rest =>
    if first.isAlpha then some ((s.takeWhile inScheme).map Char.toLower, rest) else none
  | _, _ => none

def endsAuthority (special : Bool) (c : Char) : Bool :=
  c == '/' || c == '?' || c == '#' || (special && c == '\\')

/-- The text up to the last `@`, without it, and the text after it. -/
def splitLastAt (s : List Char) : Option (List Char × List Char) :=
  match s.reverse.dropWhile (· ≠ '@') with
  | [] => none
  | _ :: reversed => some (reversed.reverse, s.drop (reversed.length + 1))

def userinfo (s : List Char) : List Char :=
  let name := encode EncodeSet.userinfo (s.takeWhile (· ≠ ':'))
  let password := encode EncodeSet.userinfo ((s.dropWhile (· ≠ ':')).drop 1)
  let written := if password.isEmpty then name else name ++ ':' :: password
  if written.isEmpty then [] else written ++ ['@']

def splitHost (inside : Bool) : List Char → List Char × List Char
  | [] => ([], [])
  | c :: rest =>
    if c = ':' && !inside then ([], c :: rest)
    else
      let inside := if c = '[' then true else if c = ']' then false else inside
      let (host, after) := splitHost inside rest
      (c :: host, after)

/-- The number after the colon of the host, if it is not the usual one, and what stands after it,
from a backslash on. -/
def socket (scheme s : List Char) : Except Fault (Option Nat × List Char) :=
  let digits := s.takeWhile isDigit
  let rest := s.dropWhile isDigit
  if 65535 < numeral digits || (!rest.isEmpty && rest.head? ≠ some '\\') then .error .badSocket
  else if digits.isEmpty || some (numeral digits) = defaultSocket? scheme then .ok (none, rest)
  else .ok (some (numeral digits), rest)

def readAuthority (scheme s : List Char) (followed : Bool) :
    Except Fault (Authority × List Char) := do
  let special := isSpecialScheme scheme
  let (user, place) := match splitLastAt s with
    | some (user, place) => (user, place)
    | none => ([], s)
  if followed && s == ['@'] then .error .emptyHost
  let (name, after) := splitHost false place
  if special && name.isEmpty then .error .emptyHost
  let host ← if special then Host.readSpecial name else Host.readOther name
  let user := userinfo user
  if host.isEmpty && !after.isEmpty then .error .emptyHost
  let (number, rest) ← socket scheme (after.drop 1)
  if host.isEmpty && !user.isEmpty then .error .emptyHost
  return (⟨user, host, number⟩, rest)

structure Rest where
  path : List Char
  query : Option (List Char)
  fragment : Option (List Char)

def splitRest (s : List Char) : Rest :=
  let before := s.takeWhile (· ≠ '#')
  { path := before.takeWhile (· ≠ '?')
    query := match before.dropWhile (· ≠ '?') with
      | _ :: query => some query
      | [] => none
    fragment := match s.dropWhile (· ≠ '#') with
      | _ :: fragment => some fragment
      | [] => none }

def segmentsAfter (special file : Bool) (segments : List (List Char)) (path : List Char) :
    List (List Char) :=
  let parts := Text.splitAt (fun c => c == '/' || (special && c == '\\')) path
  addSegments file segments (parts.map (encode EncodeSet.path))

def segmentsOf (special : Bool) (path : List Char) : List (List Char) :=
  segmentsAfter special false [] path

def dropSlash (special : Bool) (s : List Char) : List Char :=
  match s with
  | c :: rest => if c = '/' || (special && c = '\\') then rest else s
  | [] => []

def complete (scheme : List Char) (authority : Option Authority) (segments : List (List Char))
    (rest : Rest) : Url :=
  let special := isSpecialScheme scheme
  { scheme, authority, segments
    query := rest.query.map (encode (if special then EncodeSet.specialQuery else EncodeSet.query))
    fragment := rest.fragment.map (encode EncodeSet.fragment) }

def withAuthority (scheme s : List Char) : Except Fault Url := do
  let special := isSpecialScheme scheme
  let place := s.takeWhile (!endsAuthority special ·)
  let after := s.drop place.length
  let (authority, start) ← readAuthority scheme place (!after.isEmpty)
  let rest := splitRest (start ++ after)
  let segments := if !special && rest.path.isEmpty then []
    else segmentsOf special (dropSlash special rest.path)
  return complete scheme (some authority) segments rest

def isSlash (c : Char) : Bool := c == '/' || c == '\\'

/-- What a file URL has before its path. `rooted` says that the first slash of the path belongs
to the root; after an empty host it is an empty segment. The path is as it was written. -/
structure FileStart where
  host : List Char
  rooted : Bool
  rest : List Char

def fileStart (s : List Char) : Except Fault FileStart :=
  match visible s with
  | a :: b :: after =>
    if isSlash a && isSlash b then do
      let name := after.takeWhile (!endsAuthority true ·)
      if name.isEmpty || isDrive name then return ⟨[], false, dropVisible 2 s⟩
      let host ← Host.readSpecial name
      let rest := dropVisible (2 + name.length) s
      return if host = "localhost".toList then ⟨[], false, rest⟩ else ⟨host, true, rest⟩
    else .ok ⟨[], true, s⟩
  | _ => .ok ⟨[], true, s⟩

/-- A drive, and the text that stands in the same segment after characters that are dropped. -/
def brokenDrive? (s : List Char) : Option (List Char × List Char) :=
  match s.dropWhile isDropped with
  | c :: rest => match rest.dropWhile isDropped with
    | d :: after =>
      if isDrive [c, d] && d == ':' && (after.head?.map isDropped).getD false then
        match after.dropWhile isDropped with
        | e :: more => if isSlash e then none else some ([c, d], e :: more)
        | [] => none
      else none
    | [] => none
  | [] => none

def fileSegments (rooted : Bool) (path : List Char) : List (List Char) × Bool :=
  let text := if rooted then dropSlash true (path.dropWhile isDropped) else path
  match if rooted then brokenDrive? text else none with
  | some (drive, after) =>
    let first := visible (after.takeWhile (!isSlash ·))
    let segments := [drive, encode EncodeSet.path first]
    (match visible (after.dropWhile (!isSlash ·)) with
      | _ :: rest => segmentsAfter true true segments rest
      | [] => segments, false)
  | none =>
    let segments := segmentsAfter true true [] (visible text)
    (segments, (segments.head?.map isDrive).getD false)

def file (scheme s : List Char) : Except Fault Url := do
  let start ← fileStart s
  let rest := splitRest start.rest
  let (segments, onDrive) := fileSegments start.rooted rest.path
  let host := if onDrive then [] else start.host
  return complete scheme (some { host }) (trimFile true segments)
    { rest with query := rest.query.map visible, fragment := rest.fragment.map visible }

def read (s : String) : Except Fault Url :=
  let text := trimmed s
  match scheme? (visible text) with
  | none => .error .relative
  | some (scheme, s) =>
    if isFileScheme scheme then file scheme (dropVisible (scheme.length + 1) text)
    else if isSpecialScheme scheme then withAuthority scheme (s.dropWhile isSlash)
    else match s with
      | '/' :: '/' :: after => withAuthority scheme after
      | '/' :: after =>
        let rest := splitRest after
        .ok (complete scheme none (segmentsOf false rest.path) rest)
      | _ => .error .opaquePath

def withPairs (u : Url) (pairs : List (String × String)) : Url :=
  if pairs.isEmpty then u
  else { u with query := some (Form.append (u.query.getD []) pairs) }

end RecordSelection.Url
