/-!
Sets of characters as lists of ranges of code points, both ends included.
-/

set_option autoImplicit false

namespace RecordSelection.Text

def inRanges (table : List (Nat × Nat)) (n : Nat) : Bool :=
  table.any fun range => range.1 ≤ n && n ≤ range.2

end RecordSelection.Text
