import NestedFlow.Text.Range

/-! Blank characters. -/

set_option autoImplicit false

namespace NestedFlow.Text

/-- The characters with the property White_Space. -/
def whiteSpace : List Range := [
  (0x09, 0x0D), (0x20, 0x20), (0x85, 0x85), (0xA0, 0xA0), (0x1680, 0x1680), (0x2000, 0x200A), (0x2028, 0x2029),
  (0x202F, 0x202F), (0x205F, 0x205F), (0x3000, 0x3000)]

def isWhite (c : Char) : Bool := inRanges whiteSpace c

/-- Characters between words: white space, and the separators of files, groups, records and units. -/
def isGap (c : Char) : Bool := isWhite c || (0x1C ≤ c.toNat && c.toNat ≤ 0x1F)

/-- The text without the characters of a kind at its two ends. -/
def trim (outer : Char → Bool) (text : List Char) : List Char :=
  ((text.dropWhile outer).reverse.dropWhile outer).reverse

/-- The text without the gaps at its end. -/
def trimEnd (text : List Char) : List Char := (text.reverse.dropWhile isGap).reverse

end NestedFlow.Text
