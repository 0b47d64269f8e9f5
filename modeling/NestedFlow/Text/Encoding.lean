import NestedFlow.Text.Reading
import NestedFlow.Text.Surrogate

/-! Characters as bytes.

Text whose first characters are ASCII shows by the zeros among its first four bytes in units of how many bytes it is
laid out, and which byte of a unit comes first. A mark of the byte order in front is dropped. Halves of surrogate pairs
may stand alone.
-/

set_option autoImplicit false

namespace NestedFlow.Text

inductive ByteOrder where
  | big
  | little
  deriving DecidableEq

/-- Units of varying length, of two bytes, or of four bytes. -/
inductive Encoding where
  | utf8
  | utf16 (order : ByteOrder)
  | utf32 (order : ByteOrder)
  deriving DecidableEq

namespace Encoding

/-- The encoding that the first bytes show. -/
def detect : List Nat → Encoding
  | 0 :: 0 :: _ :: _ :: _ => .utf32 .big
  | 0 :: _ :: _ :: _ :: _ => .utf16 .big
  | _ :: 0 :: 0 :: 0 :: _ => .utf32 .little
  | _ :: 0 :: _ :: _ :: _ => .utf16 .little
  | [0, _] => .utf16 .big
  | [_, 0] => .utf16 .little
  | _ => .utf8

/-- The number that some bytes give, the most significant byte first. -/
def join (bytes : List Nat) : Nat := bytes.foldl (fun value byte => value * 256 + byte) 0

def unit (order : ByteOrder) (bytes : List Nat) : Nat :=
  match order with
  | .big => join bytes
  | .little => join bytes.reverse

/-- The units of two bytes; the last one may not be cut. -/
def pairs (order : ByteOrder) : List Nat → Reading (List Nat)
  | [] => .ok []
  | a :: b :: rest => do
    let units ← pairs order rest
    pure (unit order [a, b] :: units)
  | _ => .error .bytes

/-- The units of four bytes; the last one may not be cut. -/
def quadruples (order : ByteOrder) : List Nat → Reading (List Nat)
  | [] => .ok []
  | a :: b :: c :: d :: rest => do
    let units ← quadruples order rest
    pure (unit order [a, b, c, d] :: units)
  | _ => .error .bytes

/-- The characters for units of two bytes. -/
def ofUnits : List Nat → List Char
  | high :: low :: rest =>
    if isHighHalf high && isLowHalf low then spell (joinHalves high low) ++ ofUnits rest
    else spell high ++ ofUnits (low :: rest)
  | [single] => spell single
  | [] => []

/-- The characters for a unit of four bytes. -/
def ofPoint (point : Nat) : Reading (List Char) := if point < 0x110000 then .ok (spell point) else .error .bytes

end Encoding

def byteOrderMark : Char := Char.ofNat 0xFEFF

/-- The characters that the bytes of a text stand for. -/
def charsOfBytes (text : String) : Reading (List Char) :=
  let chars := text.toList
  if chars.head? == some byteOrderMark then .ok chars.tail
  else
    let bytes := (toPlain text).toUTF8.toList.map UInt8.toNat
    match Encoding.detect bytes with
    | .utf8 => .ok chars
    | .utf16 order => (Encoding.pairs order bytes).map Encoding.ofUnits
    | .utf32 order => do
      let points ← Encoding.quadruples order bytes
      let spellings ← points.mapM Encoding.ofPoint
      pure spellings.flatten

end NestedFlow.Text
