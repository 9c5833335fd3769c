import RecordSelection.Text.Extending
import RecordSelection.Text.Ranges
import RecordSelection.Text.Unprintable

/-!
Quoted text: between double quotes, with a backslash before a quote and a backslash, short names
for tab, return, newline and the null character, and the code point in braces for characters
that would not show by themselves. Every other character stands for itself.
-/

set_option autoImplicit false

namespace RecordSelection.Text

/-- The letters that only hold a place and are printed as nothing. -/
def fillers : List (Nat × Nat) :=
  [(0x115f, 0x1160), (0x3164, 0x3164), (0xffa0, 0xffa0)]

def isHidden (c : Char) : Bool :=
  c ≠ ' ' && (inRanges extending c.toNat || inRanges unprintable c.toNat
    || inRanges fillers c.toNat)

def hexDigits (n : Nat) : List Char := Nat.toDigits 16 n

def quoteChar (c : Char) : List Char :=
  if c = '"' then ['\\', '"']
  else if c = '\\' then ['\\', '\\']
  else if c = '\t' then ['\\', 't']
  else if c = '\r' then ['\\', 'r']
  else if c = '\n' then ['\\', 'n']
  else if c.toNat = 0 then ['\\', '0']
  else if isHidden c then '\\' :: 'u' :: '\x7b' :: (hexDigits c.toNat ++ ['\x7d'])
  else [c]

def quoted (s : String) : String :=
  String.ofList ('"' :: (s.toList.flatMap quoteChar ++ ['"']))

end RecordSelection.Text
