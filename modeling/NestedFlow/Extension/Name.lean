/-! Names of extensions: ASCII identifiers joined by single dots. One line feed after the name is let through. -/

set_option autoImplicit false

namespace NestedFlow

def isNameStart (c : Char) : Bool := c.isAlpha || c = '_'

def isNamePart (c : Char) : Bool := c.isAlphanum || c = '_'

mutual

/-- The text begins with a segment. -/
def startsSegment : List Char → Bool
  | [] => false
  | c :: rest => isNameStart c && continuesSegment rest

/-- The text goes on with a segment that has begun. -/
def continuesSegment : List Char → Bool
  | [] => true
  | c :: rest => if c = '.' then startsSegment rest else isNamePart c && continuesSegment rest

end

def withoutFinalBreak (text : List Char) : List Char :=
  if text.getLast? = some '\n' then text.dropLast else text

def isExtensionName (name : String) : Bool := startsSegment (withoutFinalBreak name.toList)

end NestedFlow
