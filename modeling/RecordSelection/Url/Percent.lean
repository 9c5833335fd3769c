/-!
Percent encoding: a byte as a percent sign and two hexadecimal digits. Each part of a URL has a set
of ASCII characters that are encoded there; other than ASCII characters always are.
-/

set_option autoImplicit false

namespace RecordSelection.Url

def hexDigitUpper (n : UInt8) : Char := (Nat.digitChar n.toNat).toUpper

def encodeByte (b : UInt8) : List Char := ['%', hexDigitUpper (b / 16), hexDigitUpper (b % 16)]

def utf8 (c : Char) : List UInt8 := String.utf8EncodeChar c

abbrev EncodeSet := Char → Bool

def isControl (c : Char) : Bool := c.toNat < 0x20 || 0x7f ≤ c.toNat

def oneOf (cs : List Char) : EncodeSet := fun c => cs.contains c

namespace EncodeSet

def control : EncodeSet := isControl

def fragment : EncodeSet := fun c => isControl c || oneOf [' ', '"', '<', '>', '`'] c

def query : EncodeSet := fun c => isControl c || oneOf [' ', '"', '#', '<', '>'] c

def specialQuery : EncodeSet := fun c => query c || c == '\''

def path : EncodeSet := fun c => fragment c || oneOf ['#', '?', '\x7b', '\x7d'] c

def userinfo : EncodeSet := fun c =>
  path c || oneOf ['/', ':', ';', '=', '@', '[', '\\', ']', '^', '|'] c

/-- A segment set by itself, which must not end or be taken for an encoding. -/
def segment : EncodeSet := fun c => path c || c == '/' || c == '%'

def specialSegment : EncodeSet := fun c => segment c || c == '\\'

end EncodeSet

def encodeChar (set : EncodeSet) (c : Char) : List Char :=
  if set c then (utf8 c).flatMap encodeByte else [c]

def encode (set : EncodeSet) (s : List Char) : List Char := s.flatMap (encodeChar set)

def hexValue? (c : Char) : Option Nat :=
  if '0' ≤ c && c ≤ '9' then some (c.toNat - '0'.toNat)
  else if 'a' ≤ c && c ≤ 'f' then some (c.toNat - 'a'.toNat + 10)
  else if 'A' ≤ c && c ≤ 'F' then some (c.toNat - 'A'.toNat + 10)
  else none

/-- The bytes of a text; a percent sign without two digits after it stands for itself. -/
def decode : List Char → List UInt8
  | [] => []
  | '%' :: a :: b :: rest =>
    match hexValue? a, hexValue? b with
    | some high, some low => (high * 16 + low).toUInt8 :: decode rest
    | _, _ => 37 :: decode (a :: b :: rest)
  | c :: rest => utf8 c ++ decode rest

def ofUtf8? (bytes : List UInt8) : Option (List Char) :=
  (String.fromUTF8? ⟨bytes.toArray⟩).map String.toList

end RecordSelection.Url
