import RecordSelection.Text.Columns
import RecordSelection.Text.Joining
import RecordSelection.Text.Pictures

/-!
The width of a text on a screen, in columns. A text is measured from its end, because what a
character takes depends on what follows it: a picture joined to another by a joiner takes no columns
of its own, and some pairs of letters are shown as one sign.
-/

set_option autoImplicit false

namespace RecordSelection.Text

inductive Joint where
  | none
  | lineFeed
  | picture
  | joinedPicture
  | keycap
  | shade
  | oddFlags
  | evenFlags
  | alef
  | lamed
  | stacked
  | ya
  | vowelYa
  | consonant
  | joinedConsonant
  | lowTone
  | turkicVowel
  | vowelE
  | vowelAi
  deriving DecidableEq, Repr

inductive Look where
  | plain
  | picture
  | sign
  | full
  deriving DecidableEq, Repr

/-- What follows a character: the joint with it, whether a joiner stands between, and how it is to
be shown. -/
structure Following where
  joint : Joint := .none
  joined : Bool := false
  look : Look := .plain
  deriving DecidableEq, Repr

/-- The joints of letters, which are kept across joiners and marks that are not seen. -/
def Joint.isOfLetters : Joint → Bool
  | .alef | .lamed | .stacked | .ya | .vowelYa | .consonant | .joinedConsonant | .lowTone
  | .turkicVowel | .vowelE | .vowelAi => true
  | _ => false

def alefs : List (Nat × Nat) :=
  [(0x622, 0x623), (0x625, 0x625), (0x627, 0x627), (0x671, 0x673), (0x675, 0x675),
   (0x773, 0x774), (0x870, 0x882)]

def lams : List (Nat × Nat) :=
  [(0x644, 0x644), (0x6b5, 0x6b8), (0x76a, 0x76a), (0x8a6, 0x8a6), (0x8c7, 0x8c7)]

def stackable : List (Nat × Nat) :=
  [(0x1780, 0x1782), (0x1784, 0x1787), (0x1789, 0x178c), (0x178e, 0x1793), (0x1795, 0x1798),
   (0x179b, 0x179d), (0x17a0, 0x17a0), (0x17a2, 0x17a2), (0x17a7, 0x17a7), (0x17ab, 0x17ac),
   (0x17af, 0x17af)]

def tifinagh : List (Nat × Nat) := [(0x2d31, 0x2d65), (0x2d6f, 0x2d6f)]

def unseenMarks : List (Nat × Nat) :=
  [(0x34f, 0x34f), (0x17b4, 0x17b5), (0x180b, 0x180d), (0x180f, 0x180f), (0xfe00, 0xfe0f),
   (0xe0100, 0xe01ef)]

def isFlagLetter (n : Nat) : Bool := 0x1f1e6 ≤ n && n ≤ 0x1f1ff

def isShade (n : Nat) : Bool := 0x1f3fb ≤ n && n ≤ 0x1f3ff

def isTonelike (n : Nat) : Bool := n = 0xa4fc || n = 0xa4fd

def columns (n : Nat) : Nat :=
  if n ≤ 0xa0 || n = 0x2d7f then 1
  else if n = 0x17d8 then 3
  else if inRanges extending n || inRanges noColumn n then 0
  else if inRanges twoColumns n then 2
  else 1

def following (n : Nat) : Following :=
  if n = 0x0a then { joint := .lineFeed }
  else if n = 0xfe0f then { look := .picture }
  else if n = 0xfe0e then { look := .sign }
  else if n = 0xfe01 then { look := .full }
  else if isShade n then { joint := .shade }
  else if inRanges pictures n then { joint := .picture }
  else if inRanges alefs n then { joint := .alef }
  else if n = 0x5dc then { joint := .lamed }
  else if inRanges stackable n then { joint := .stacked }
  else if n = 0x1a10 then { joint := .ya }
  else if inRanges tifinagh n then { joint := .consonant }
  else if isTonelike n then { joint := .lowTone }
  else if n = 0x10c03 then { joint := .turkicVowel }
  else if n = 0x16d67 then { joint := .vowelE }
  else if n = 0x16d68 then { joint := .vowelAi }
  else {}

def joins (n : Nat) (joint : Joint) (joined : Bool) : Option (Int × Following) :=
  match joint with
  | .alef =>
    if inRanges lams n && !joined then some (0, {})
    else if !joined && columns n = 0 && joining (Char.ofNat n) = .across then
      some (0, { joint := .alef })
    else none
  | .lamed => if n = 0x5d0 && joined then some (0, {}) else none
  | .stacked => if n = 0x17d2 then some (-1, {}) else none
  | .ya => if n = 0x1a17 && joined then some (0, { joint := .vowelYa }) else none
  | .vowelYa => if n = 0x1a15 then some (0, {}) else none
  | .consonant =>
    if n = 0x2d7f then some (1, { joint := .joinedConsonant })
    else if inRanges tifinagh n && joined then some (0, {})
    else none
  | .joinedConsonant => if inRanges tifinagh n then some (-1, {}) else none
  | .lowTone => if 0xa4f8 ≤ n && n ≤ 0xa4fb then some (0, {}) else none
  | .turkicVowel => if n = 0x10c32 && joined then some (0, {}) else none
  | .vowelE =>
    if n = 0x16d63 || n = 0x16d69 then some (0, {})
    else if n = 0x16d67 then some (0, { joint := .vowelAi })
    else none
  | .vowelAi => if n = 0x16d63 then some (0, {}) else none
  | .shade => if inRanges shadeable n then some (0, { joint := .picture }) else none
  | .picture => if n = 0x200d then some (0, { joint := .joinedPicture }) else none
  | .joinedPicture =>
    if n = 0x20e3 then some (0, { joint := .keycap })
    else if isFlagLetter n then some (1, { joint := .oddFlags })
    else if isShade n then some (0, { joint := .shade })
    else if inRanges pictures n then some (0, { joint := .picture })
    else none
  | .oddFlags => if isFlagLetter n then some (-1, { joint := .evenFlags }) else none
  | .evenFlags =>
    if isFlagLetter n then some (3, { joint := .oddFlags })
    else if n = 0x200d then some (0, { joint := .joinedPicture })
    else none
  | .keycap | .lineFeed | .none => none

def shown (n : Nat) (f : Following) : Option (Int × Following) :=
  match f.look with
  | .plain => none
  | .picture =>
    if inRanges drawable n || inRanges writable n then
      let inJoint := f.joint = .joinedPicture || f.joint = .keycap
      some (if inJoint then 0 else 2, { joint := .picture })
    else none
  | .sign => if inRanges writable n then some (1, {}) else none
  | .full =>
    if n = 0x2018 || n = 0x2019 || n = 0x201c || n = 0x201d then some (2, {}) else none

def Following.withoutLook (f : Following) : Following :=
  if f.look = .plain || f.joint.isOfLetters then { f with look := .plain } else {}

/-- A character before what follows: the columns it adds, and what it is for the one before it. -/
def measure (c : Char) (f : Following) : Int × Following :=
  let n := c.toNat
  match shown n f with
  | some result => result
  | none =>
    let f := f.withoutLook
    let alone : Int × Following := (columns n, following n)
    if n = 0x0d && f.joint = .lineFeed then (0, {})
    else if n ≤ 0xa0 then alone
    else
      let inLetters := f.joint.isOfLetters
      let keepsLook := inLetters || f.joint = .joinedPicture || f.joint = .keycap
      if n = 0xfe0f then (0, { (if keepsLook then f else {}) with look := .picture })
      else if n = 0xfe0e then (0, { (if inLetters then f else {}) with look := .sign })
      else if inLetters && n = 0x200d then (0, { f with joined := true })
      else if inLetters && inRanges unseenMarks n then (0, f)
      else (joins n f.joint f.joined).getD alone

def measureAll (s : List Char) : Int × Following :=
  s.foldr (fun c total =>
    let (added, f) := measure c total.2
    (total.1 + added, f)) (0, {})

def width (s : List Char) : Nat := (measureAll s).1.toNat

end RecordSelection.Text
