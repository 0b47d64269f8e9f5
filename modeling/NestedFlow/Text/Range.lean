/-! Sets of characters given as ascending ranges of code points. -/

set_option autoImplicit false

namespace NestedFlow.Text

/-- First and last code point. -/
abbrev Range := Nat × Nat

def Range.contains (range : Range) (c : Char) : Bool :=
  range.1 ≤ c.toNat && c.toNat ≤ range.2

def inRanges (ranges : List Range) (c : Char) : Bool := ranges.any fun range => range.contains c

end NestedFlow.Text
