import RecordSelection.Text.Alphanumeric
import RecordSelection.Text.Blank
import RecordSelection.Text.Casing
import RecordSelection.Text.Quoted

/-!
Snake case: the words of a name in lower case, joined by underscores. A word ends at a character
that is neither letter nor number, before a capital that follows a small letter, and before the
last of several capitals when a small letter follows it.
-/

set_option autoImplicit false

namespace RecordSelection.Text

def isAlphanumeric (c : Char) : Bool := inRanges alphanumeric c.toNat

inductive LetterRun where
  | fresh
  | small
  | capital
  deriving DecidableEq, Repr

def LetterRun.next (run : LetterRun) (c : Char) : LetterRun :=
  if isLower c then .small else if isUpper c then .capital else run

/-- The words of a text of letters and numbers, given the part of a word read so far, reversed. -/
def splitWords (run : LetterRun) (part : List Char) : List Char → List (List Char)
  | [] => []
  | [c] => [(c :: part).reverse]
  | c :: d :: rest =>
    if run.next c = .small && isUpper d then
      (c :: part).reverse :: splitWords .fresh [] (d :: rest)
    else if run = .capital && isUpper c && isLower d then
      part.reverse :: splitWords .fresh [c] (d :: rest)
    else splitWords (run.next c) (c :: part) (d :: rest)

/-- A word in lower case; a sigma at its end has a form of its own. -/
def lowerWord : List Char → List Char
  | [] => []
  | ['Σ'] => ['ς']
  | c :: rest => lower c ++ lowerWord rest

def words (s : List Char) : List (List Char) :=
  (splitAt (fun c => !isAlphanumeric c) s).flatMap (splitWords .fresh [])

def snakeCase (s : String) : String :=
  "_".intercalate ((words s.toList).map fun word => String.ofList (lowerWord word))

end RecordSelection.Text
