/-! Halves of surrogate pairs in text.

Text is made of characters, and a half of a pair that stands alone is none. Where text may hold one, two characters
stand for it: the mark, and one that tells which half it is. The mark itself is written twice. All other characters
stand for themselves, so that every text has one spelling, and the order of spellings is that of the code points.
-/

set_option autoImplicit false

namespace NestedFlow.Text

def isHighHalf (unit : Nat) : Bool := 0xD800 ≤ unit && unit < 0xDC00

def isLowHalf (unit : Nat) : Bool := 0xDC00 ≤ unit && unit < 0xE000

def isHalf (unit : Nat) : Bool := 0xD800 ≤ unit && unit < 0xE000

/-- The first character above the halves. -/
def mark : Char := Char.ofNat 0xE000

/-- The distance from the character after a mark to the half that it tells. -/
def halfOffset : Nat := 0x8000

/-- The characters for a code point. -/
def spell (point : Nat) : List Char :=
  if isHalf point then [mark, Char.ofNat (point - halfOffset)]
  else if point = mark.toNat then [mark, mark]
  else [Char.ofNat point]

/-- The code point that the character after a mark tells. -/
def marked (c : Char) : Nat := if c = mark then mark.toNat else c.toNat + halfOffset

/-- The code points that characters stand for. -/
def points : List Char → List Nat
  | c :: d :: rest => if c = mark then marked d :: points rest else c.toNat :: points (d :: rest)
  | [c] => [c.toNat]
  | [] => []

/-- The code point of a pair of halves. -/
def joinHalves (high low : Nat) : Nat := 0x10000 + (high - 0xD800) * 0x400 + (low - 0xDC00)

def hasHalf (text : String) : Bool := (points text.toList).any isHalf

/-- The spelling of a text that is made of characters alone. -/
def ofPlain (text : String) : String := String.ofList (text.toList.flatMap fun c => spell c.toNat)

/-- The characters of a code point; a half would take three bytes, and none of them is a character. -/
def replaced (point : Nat) : List Char :=
  if isHalf point then List.replicate 3 (Char.ofNat 0xFFFD) else [Char.ofNat point]

/-- The text made of characters alone, with halves replaced. -/
def toPlain (text : String) : String := String.ofList ((points text.toList).flatMap replaced)

/-- The spelling of the text with halves replaced. -/
def withoutHalves (text : String) : String := ofPlain (toPlain text)

end NestedFlow.Text
