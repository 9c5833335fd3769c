import RecordSelection.Text.Blank
import RecordSelection.Text.Width

/-!
Tables with a rule between all rows. A cell may have several lines; a column is as wide as the
widest line in it.
-/

set_option autoImplicit false

namespace RecordSelection.CommandLine.Table

abbrev Row := List (List (List Char))

def cell (s : String) : List (List Char) := Text.splitAt (· == '\n') s.toList

def row (cells : List String) : Row := cells.map cell

def greatest (ns : List Nat) : Nat := ns.foldl max 0

def columnWidth (rows : List Row) (column : Nat) : Nat :=
  greatest (rows.map fun r => greatest ((r.getD column []).map Text.width))

def padRight (width : Nat) (line : List Char) : List Char :=
  line ++ List.replicate (width - Text.width line) ' '

def rule (widths : List Nat) : List Char :=
  '+' :: widths.flatMap fun width => List.replicate (width + 2) '-' ++ ['+']

def line (widths : List Nat) (r : Row) (n : Nat) : List Char :=
  '|' :: (widths.zip r).flatMap fun (width, lines) =>
    ' ' :: (padRight width (lines.getD n []) ++ [' ', '|'])

def rowLines (widths : List Nat) (r : Row) : List (List Char) :=
  (List.range (greatest (r.map List.length))).map (line widths r)

def render (titles : List String) (rows : List (List String)) : String :=
  let rows := row titles :: rows.map row
  let widths := (List.range titles.length).map (columnWidth rows)
  let lines := rule widths :: rows.flatMap fun r => rowLines widths r ++ [rule widths]
  String.ofList (['\n'].intercalate lines)

end RecordSelection.CommandLine.Table
