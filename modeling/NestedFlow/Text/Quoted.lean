import NestedFlow.Text.Printable
import NestedFlow.Text.Surrogate

/-! Quoted text.

A text is written between single quotes, or between double quotes if it holds a single quote and no
double one. The backslash, the quote in use, and line feed, carriage return and tab have short escapes;
every other unprintable character is written by its code point in two, four or eight hexadecimal digits, and a half of
a surrogate pair by its own code.
-/

set_option autoImplicit false

namespace NestedFlow.Text

def hexDigit (n : Nat) : Char :=
  if n < 10 then Char.ofNat ('0'.toNat + n) else Char.ofNat ('a'.toNat + (n - 10))

/-- The lowest `width` hexadecimal digits of a number. -/
def hexDigits : Nat → Nat → List Char
  | 0, _ => []
  | width + 1, n => hexDigits width (n / 16) ++ [hexDigit (n % 16)]

def codePoint (n : Nat) : List Char :=
  if n < 0x100 then ['\\', 'x'] ++ hexDigits 2 n
  else if n < 0x10000 then ['\\', 'u'] ++ hexDigits 4 n
  else ['\\', 'U'] ++ hexDigits 8 n

def escaped (quote c : Char) : List Char :=
  if c = quote ∨ c = '\\' then ['\\', c]
  else if c = '\n' then ['\\', 'n']
  else if c = '\r' then ['\\', 'r']
  else if c = '\t' then ['\\', 't']
  else if isPrintable c then [c]
  else codePoint c.toNat

def escapedPoint (quote : Char) (point : Nat) : List Char :=
  if isHalf point then codePoint point else escaped quote (Char.ofNat point)

def quoteFor (text : List Char) : Char :=
  if text.contains '\'' && !text.contains '"' then '"' else '\''

def quoted (text : String) : String :=
  let chars := text.toList
  let quote := quoteFor chars
  String.ofList (quote :: (points chars).flatMap (escapedPoint quote) ++ [quote])

end NestedFlow.Text
