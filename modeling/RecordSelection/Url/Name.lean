import RecordSelection.Text.Blank
import RecordSelection.Text.Marks
import RecordSelection.Text.Normal
import RecordSelection.Text.Unprintable
import RecordSelection.Text.WritingDirection
import RecordSelection.Url.NameTable
import RecordSelection.Url.Punycode

/-!
Names of hosts. A name is compared by its mapped form, in which letters are small and characters
that look like others are those; on the wire each label that is not in ASCII has an ASCII form.
What would let two names look alike is refused: marks without a letter, joiners that join nothing,
and labels whose characters run in directions that mix.
-/

set_option autoImplicit false

namespace RecordSelection.Url.Name

open RecordSelection.Text (inRanges WritingDirection)

def rowAt? (table : List (Nat × String)) (n : Nat) : Option (String × Nat) :=
  (table.takeWhile (·.1 ≤ n)).getLast?.map fun row => (row.2, n - row.1)

def image? (c : Char) : Option (List Char) :=
  let n := c.toNat
  let ofRun := runs.findSome? fun (first, last, step, image) =>
    if first ≤ n && n ≤ last && (n - first) % step = 0 then
      some [Char.ofNat (image + (n - first))]
    else none
  let ofSingle := (rowAt? singles n).bind fun (images, place) =>
    images.toList[place]?.map fun image => [image]
  let ofGroup := (rowAt? groups n).bind fun (images, place) =>
    (Text.splitAt (· == '|') images.toList)[place]?
  ofRun <|> ofSingle <|> ofGroup

def isJoiner (c : Char) : Bool := c.toNat = 0x200d

def isNonJoiner (c : Char) : Bool := c.toNat = 0x200c

def isRefused (c : Char) : Bool :=
  !Punycode.isAscii c && !isJoiner c && !isNonJoiner c
    && (inRanges Text.unprintable c.toNat || inRanges refused c.toNat)

def mapChar (c : Char) : Option (List Char) :=
  if inRanges traceless c.toNat then some []
  else match image? c with
    | some image => some image
    | none => if isRefused c then none else some [c]

def mapped? (s : List Char) : Option (List Char) :=
  (s.mapM mapChar).map fun images => Text.normal images.flatten

/-- A joiner after a mark that takes the vowel away may always stand. -/
def afterVirama (before : List Char) : Bool :=
  match before with
  | c :: _ => Text.combiningClass c = Text.viramaClass
  | [] => false

def nextJoining (s : List Char) : Text.Joining :=
  match s.dropWhile (fun c => Text.joining c = .across) with
  | c :: _ => Text.joining c
  | [] => .none

def joinersFit (before : List Char) : List Char → Bool
  | [] => true
  | c :: rest =>
    (if isJoiner c then afterVirama before
      else if isNonJoiner c then
        afterVirama before || ((nextJoining before).withNext && (nextJoining rest).withBefore)
      else true) && joinersFit (c :: before) rest

def isWellFormed (label : List Char) : Bool :=
  !(label.head?.map Text.isMark).getD false && joinersFit [] label

def runsOneWay (ds : List WritingDirection) : Bool :=
  match ds, ds.reverse.dropWhile (· == .mark) with
  | .right :: _, last :: _ =>
    !ds.contains .left && !ds.contains .arabicNumber && (last == .right || last == .europeanNumber)
  | .left :: _, last :: _ =>
    !ds.contains .right && !(ds.contains .arabicNumber && ds.contains .europeanNumber)
      && (last == .left || last == .europeanNumber || last == .arabicNumber)
  | [], _ => true
  | _, _ => false

/-- With a label that is written to the left in the name, every label runs one way. -/
def directionsFit (labels : List (List Char)) : Bool :=
  let directions := labels.map (·.map Text.writingDirection)
  !(directions.any fun ds => ds.contains .left || ds.contains .arabicNumber)
    || directions.all runsOneWay

def maxLabel : Nat := 1000

def maxForm : Nat := 2000

structure Label where
  text : List Char
  ascii : List Char
  deriving DecidableEq, Repr

/-- A label from its mapped form. One that claims to be an ASCII form must stand for a label that
is not ASCII alone and is its own mapped form. -/
def label? (s : List Char) : Option Label :=
  match Text.dropLead ['x', 'n', '-', '-'] s with
  | some form => do
    let decoded ← if form.all Punycode.isAscii && form.length ≤ maxForm then
      Punycode.decode form else none
    if !decoded.all Punycode.isAscii && mapped? decoded == some decoded
        && Punycode.encode decoded == form && isWellFormed decoded then
      some ⟨decoded, s⟩
    else none
  | none =>
    if !isWellFormed s then none
    else if s.all Punycode.isAscii then some ⟨s, s⟩
    else if s.length ≤ maxLabel then some ⟨s, ['x', 'n', '-', '-'] ++ Punycode.encode s⟩
    else none

def ascii? (s : List Char) : Option (List Char) := do
  let labels ← (Text.splitAt (· == '.') (← mapped? s)).mapM label?
  if directionsFit (labels.map (·.text)) then some (['.'].intercalate (labels.map (·.ascii)))
  else none

end RecordSelection.Url.Name
