import RecordSelection.Url.Percent

/-!
Names and values as a query text: letters, digits and four signs stand for themselves, a blank is a
plus sign, all other bytes are percent encoded.
-/

set_option autoImplicit false

namespace RecordSelection.Url.Form

def isPlain (c : Char) : Bool := c.isAlphanum || c == '*' || c == '-' || c == '.' || c == '_'

def encodeChar (c : Char) : List Char :=
  if isPlain c then [c]
  else if c = ' ' then ['+']
  else (utf8 c).flatMap encodeByte

def encode (s : List Char) : List Char := s.flatMap encodeChar

def encodePair (pair : String × String) : List Char :=
  encode pair.1.toList ++ '=' :: encode pair.2.toList

def append (query : List Char) : List (String × String) → List Char
  | [] => query
  | pair :: rest =>
    append (query ++ (if query.isEmpty then [] else ['&']) ++ encodePair pair) rest

end RecordSelection.Url.Form
