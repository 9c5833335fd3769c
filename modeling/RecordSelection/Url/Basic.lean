import RecordSelection.Url.Percent

/-!
URLs with a path of segments. The parts are kept as they are written, with what has to be encoded
encoded.
-/

set_option autoImplicit false

namespace RecordSelection

/-- What stands between the scheme and the path: user information with the sign after it, the
host, and the number of a socket other than the usual one. -/
structure Url.Authority where
  userinfo : List Char := []
  host : List Char
  socket : Option Nat := none
  deriving DecidableEq, Repr, Inhabited

structure Url where
  scheme : List Char
  authority : Option Url.Authority
  segments : List (List Char)
  query : Option (List Char) := none
  fragment : Option (List Char) := none
  deriving DecidableEq, Repr, Inhabited

namespace Url

def isFileScheme (scheme : List Char) : Bool := scheme == ['f', 'i', 'l', 'e']

def defaultSocket? (scheme : List Char) : Option Nat :=
  match String.ofList scheme with
  | "http" | "ws" => some 80
  | "https" | "wss" => some 443
  | "ftp" => some 21
  | _ => none

def isSpecialScheme (scheme : List Char) : Bool :=
  (defaultSocket? scheme).isSome || isFileScheme scheme

def isSpecial (u : Url) : Bool := isSpecialScheme u.scheme

def renderSegments (segments : List (List Char)) : List Char := segments.flatMap ('/' :: ·)

def renderSocket : Option Nat → List Char
  | some socket => ':' :: Nat.toDigits 10 socket
  | none => []

/-- Without an authority, a path that begins with an empty segment has a dot before it. -/
def renderAuthority (segments : List (List Char)) : Option Authority → List Char
  | some a => '/' :: '/' :: (a.userinfo ++ a.host ++ renderSocket a.socket)
  | none => match segments with
    | [] :: _ :: _ => ['/', '.']
    | _ => []

def renderQuery : Option (List Char) → List Char
  | some query => '?' :: query
  | none => []

def renderFragment : Option (List Char) → List Char
  | some fragment => '#' :: fragment
  | none => []

def render (u : Url) : String :=
  String.ofList (u.scheme ++ ':' :: renderAuthority u.segments u.authority
    ++ renderSegments u.segments ++ renderQuery u.query ++ renderFragment u.fragment)

def target (u : Url) : String :=
  String.ofList (renderSegments u.segments ++ renderQuery u.query)

end Url

end RecordSelection
