import RecordSelection.Url.Basic

/-!
The segments of a path. A segment of one dot adds nothing, one of two dots takes the segment before
it away; at the end of a path both leave an empty segment. The path `/` has one empty segment.
-/

set_option autoImplicit false

namespace RecordSelection.Url

def dropDot : List Char → Option (List Char)
  | '.' :: rest => some rest
  | '%' :: '2' :: c :: rest => if c = 'e' || c = 'E' then some rest else none
  | _ => none

def isSingleDot (s : List Char) : Bool := dropDot s == some []

def isDoubleDot (s : List Char) : Bool := (dropDot s).bind dropDot == some []

def isDrive : List Char → Bool
  | [c, d] => c.isAlpha && (d == ':' || d == '|')
  | _ => false

def beginsWithDrive : List Char → Bool
  | c :: d :: rest => isDrive [c, d] && (rest.isEmpty || rest.head? == some '\\')
  | _ => false

/-- The path without its last segment; a drive stays. -/
def shorten (segments : List (List Char)) : List (List Char) :=
  match segments.getLast? with
  | some last => if beginsWithDrive last then segments else segments.dropLast
  | none => []

/-- Adds one segment of a path; `last` says that nothing follows it. The drive that the path of a
file begins with is written with a colon. -/
def addSegment (file last : Bool) (segments : List (List Char)) (s : List Char) :
    List (List Char) :=
  let ending (segments : List (List Char)) := if last then segments ++ [[]] else segments
  if isDoubleDot s then ending (shorten segments)
  else if isSingleDot s then ending segments
  else if file && segments.isEmpty && isDrive s then segments ++ [[s.headD 'a', ':']]
  else segments ++ [s]

def addSegments (file : Bool) : List (List Char) → List (List Char) → List (List Char)
  | segments, [] => segments
  | segments, [s] => addSegment file true segments s
  | segments, s :: rest => addSegments file (addSegment file false segments s) rest

def dropEmptyFront : List (List Char) → List (List Char)
  | [] :: second :: rest => dropEmptyFront (second :: rest)
  | segments => segments

def trimFile (file : Bool) (segments : List (List Char)) : List (List Char) :=
  if file then dropEmptyFront segments else segments

/-- The path without one empty segment at its end; the path `/` stays. -/
def popIfEmpty (segments : List (List Char)) : List (List Char) :=
  if 1 < segments.length && segments.getLast? == some [] then segments.dropLast else segments

def isDropped (c : Char) : Bool := c == '\t' || c == '\n' || c == '\r'

def opened (segments : List (List Char)) : List (List Char) :=
  if segments = [[]] then [] else segments

/-- Pushes one segment given as a text. Dots alone push nothing; dots that appear when tabs and
line ends are dropped count as dots of a path. -/
def push (u : Url) (text : List Char) : Url :=
  if text = ['.'] || text = ['.', '.'] then u
  else
    let set := if u.isSpecial then EncodeSet.specialSegment else EncodeSet.segment
    let file := isFileScheme u.scheme
    let s := encode set (text.filter (!isDropped ·))
    { u with segments := trimFile file (addSegment file true (opened u.segments) s) }

def pushAll (u : Url) (texts : List (List Char)) : Url := texts.foldl push u

/-- Pushes segments after the path, in place of an empty segment at its end. -/
def extend (u : Url) (texts : List (List Char)) : Url :=
  pushAll { u with segments := popIfEmpty u.segments } texts

end RecordSelection.Url
