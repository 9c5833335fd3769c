import RecordSelection.Text.CombiningClass
import RecordSelection.Text.Composition

/-!
The composed normal form of a text: marks stand in the order of their classes, and every
character that can be one with a mark after it is. Texts that look the same have one normal form.
-/

set_option autoImplicit false

namespace RecordSelection.Text

def decomposed : Nat → Char → List Char
  | 0, c => [c]
  | count + 1, c => match decompose? c with
    | some (a, b) => decomposed count a ++ [b]
    | none => [c]

def maxMarks : Nat := 4

/-- Puts a character before marks in order: past those of a lower class, if it has one itself. -/
def placeMark (c : Char) : List Char → List Char
  | [] => [c]
  | d :: rest =>
    if 0 < combiningClass d && combiningClass d < combiningClass c then d :: placeMark c rest
    else c :: d :: rest

def inOrder (s : List Char) : List Char := s.foldr placeMark []

/-- Composes from a character on: the marks that stand between it and the rest were not composed,
and no mark of a class that is not higher joins it across them. -/
def composeFrom (letter : Char) (between : List Char) : List Char → List Char
  | [] => letter :: between
  | c :: rest =>
    let reaches : Bool := match between.getLast? with
      | some d => combiningClass d < combiningClass c
      | none => true
    match if reaches then compose? letter c else none with
    | some joined => composeFrom joined between rest
    | none =>
      if combiningClass c = 0 then letter :: between ++ composeFrom c [] rest
      else composeFrom letter (between ++ [c]) rest

def composed : List Char → List Char
  | [] => []
  | c :: rest => composeFrom c [] rest

def normal (s : List Char) : List Char := composed (inOrder (s.flatMap (decomposed maxMarks)))

end RecordSelection.Text
