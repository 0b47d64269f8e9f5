import NestedFlow.Json
import NestedFlow.Text.Digit
import NestedFlow.Text.Reading
import NestedFlow.Text.Surrogate

/-! Reading JSON text.

The text holds one value between blanks. Beyond the standard, the words for not-a-number and the infinities
are accepted as numbers, and of repeated keys the last value counts, at the place of the first. A text is refused where
a whole number has too many digits or arrays and objects are nested too deeply, whatever follows.
-/

set_option autoImplicit false

namespace NestedFlow.Json

def isBlank (c : Char) : Bool := c = ' ' || c = '\t' || c = '\n' || c = '\r'

def skipBlanks (text : List Char) : List Char := text.dropWhile isBlank

def isDecimalDigit (c : Char) : Bool := '0' ≤ c && c ≤ '9'

def digitValue (c : Char) : Nat := c.toNat - '0'.toNat

def natOfDecimal (digits : List Char) : Nat :=
  digits.foldl (fun value c => 10 * value + digitValue c) 0

def hexValue? (c : Char) : Option Nat :=
  if isDecimalDigit c then some (digitValue c)
  else if 'a' ≤ c && c ≤ 'f' then some (c.toNat - 'a'.toNat + 10)
  else if 'A' ≤ c && c ≤ 'F' then some (c.toNat - 'A'.toNat + 10)
  else none

/-- A code unit of four hexadecimal digits. -/
def readUnit? : List Char → Option (Nat × List Char)
  | a :: b :: c :: d :: rest => do
    let a ← hexValue? a
    let b ← hexValue? b
    let c ← hexValue? c
    let d ← hexValue? d
    return (((a * 16 + b) * 16 + c) * 16 + d, rest)
  | _ => none

/-- The characters for an escape; two code units that form a surrogate pair are one code point. -/
def readEscape? : List Char → Option (List Char × List Char)
  | '"' :: rest => some (['"'], rest)
  | '\\' :: rest => some (['\\'], rest)
  | '/' :: rest => some (['/'], rest)
  | 'b' :: rest => some ([Char.ofNat 8], rest)
  | 'f' :: rest => some ([Char.ofNat 12], rest)
  | 'n' :: rest => some (['\n'], rest)
  | 'r' :: rest => some (['\r'], rest)
  | 't' :: rest => some (['\t'], rest)
  | 'u' :: rest => do
    let (unit, rest) ← readUnit? rest
    let alone := (Text.spell unit, rest)
    if Text.isHighHalf unit then
      match rest with
      | '\\' :: 'u' :: more =>
        match readUnit? more with
        | some (low, after) => return if Text.isLowHalf low then (Text.spell (Text.joinHalves unit low), after) else alone
        | none => return alone
      | _ => return alone
    else return alone
  | _ => none

/-- The rest of a string, after its opening quote. -/
def readString? : Nat → List Char → List Char → Option (String × List Char)
  | 0, _, _ => none
  | _ + 1, _, [] => none
  | fuel + 1, done, c :: rest =>
    if c = '"' then some (String.ofList done.reverse, rest)
    else if c = '\\' then
      match readEscape? rest with
      | some (spelling, rest) => readString? fuel (spelling.reverse ++ done) rest
      | none => none
    else if c.toNat < 32 then none
    else readString? fuel (c :: done) rest

/-- The digits of a fraction, if a point and at least one digit follow. -/
def readFraction (text : List Char) : List Char × List Char :=
  match text with
  | '.' :: rest =>
    let digits := rest.takeWhile isDecimalDigit
    if digits.isEmpty then ([], text) else (digits, rest.dropWhile isDecimalDigit)
  | _ => ([], text)

/-- The exponent, if a mark and at least one digit follow. -/
def readExponent (text : List Char) : Option Int × List Char :=
  match text with
  | mark :: rest =>
    if mark = 'e' ∨ mark = 'E' then
      let (negative, unsigned) := match rest with
        | '-' :: more => (true, more)
        | '+' :: more => (false, more)
        | _ => (false, rest)
      let digits := unsigned.takeWhile isDecimalDigit
      if digits.isEmpty then (none, text)
      else
        let size : Int := natOfDecimal digits
        (some (if negative then -size else size), unsigned.dropWhile isDecimalDigit)
    else (none, text)
  | [] => (none, text)

/-- A number without its sign. A leading zero stands alone. -/
def readUnsigned (negative : Bool) (text : List Char) : Reading (Json × List Char) :=
  let (whole, rest) := match text with
    | '0' :: rest => (['0'], rest)
    | _ => (text.takeWhile isDecimalDigit, text.dropWhile isDecimalDigit)
  if whole.isEmpty then .error .form
  else
    let (fraction, rest) := readFraction rest
    let (exponent, rest) := readExponent rest
    if fraction.isEmpty && exponent.isNone then
      if Text.maxDigits < whole.length then .error .digits
      else
        let n : Int := natOfDecimal whole
        .ok (.int (if negative then -n else n), rest)
    else
      let shift : Int := exponent.getD 0 - (fraction.length : Int)
      .ok (.float (Binary64.ofDecimal negative (natOfDecimal (whole ++ fraction)) shift), rest)

/-- The rest of a text after a given beginning. -/
def after? (start text : List Char) : Option (List Char) :=
  if text.take start.length = start then some (text.drop start.length) else none

def readWord? (text : List Char) : Option (Json × List Char) :=
  let words : List (String × Json) := [("null", .null), ("true", .bool true), ("false", .bool false),
    ("NaN", .float .nan), ("Infinity", .float (.infinite false)), ("-Infinity", .float (.infinite true))]
  words.findSome? fun word => (after? word.1.toList text).map fun rest => (word.2, rest)

def readNumber : List Char → Reading (Json × List Char)
  | '-' :: rest => readUnsigned true rest
  | text => readUnsigned false text

mutual

/-- A value. The steps bound the recursion, the depth the arrays and objects that lie in each other. -/
def readValue : Nat → Nat → List Char → Reading (Json × List Char)
  | 0, _, _ => .error .form
  | steps + 1, depth, text =>
    match text, depth with
    | '"' :: rest, _ => do
      let (value, rest) ← readString? (rest.length + 1) [] rest
      pure (.str value, rest)
    | '[' :: _, 0 | '\x7b' :: _, 0 => .error .depth
    | '[' :: rest, depth + 1 =>
      match skipBlanks rest with
      | ']' :: rest => .ok (.arr [], rest)
      | rest => readItems steps depth [] rest
    | '\x7b' :: rest, depth + 1 =>
      match skipBlanks rest with
      | '\x7d' :: rest => .ok (.obj [], rest)
      | rest => readFields steps depth [] rest
    | text, _ =>
      match readWord? text with
      | some found => .ok found
      | none => readNumber text

def readItems : Nat → Nat → List Json → List Char → Reading (Json × List Char)
  | 0, _, _, _ => .error .form
  | steps + 1, depth, done, text => do
    let (item, rest) ← readValue steps depth text
    match skipBlanks rest with
    | ',' :: rest => readItems steps depth (item :: done) (skipBlanks rest)
    | ']' :: rest => .ok (.arr (item :: done).reverse, rest)
    | _ => .error .form

def readFields : Nat → Nat → List (String × Json) → List Char → Reading (Json × List Char)
  | 0, _, _, _ => .error .form
  | steps + 1, depth, done, text =>
    match text with
    | '"' :: rest => do
      let (key, rest) ← readString? (rest.length + 1) [] rest
      match skipBlanks rest with
      | ':' :: rest =>
        let (value, rest) ← readValue steps depth (skipBlanks rest)
        let fields := setField key value done
        match skipBlanks rest with
        | ',' :: rest => readFields steps depth fields (skipBlanks rest)
        | '\x7d' :: rest => .ok (.obj fields, rest)
        | _ => .error .form
      | _ => .error .form
    | _ => .error .form

end

/-- The most arrays and objects that lie in each other. -/
def maxDepth : Nat := 990

/-- The value of a text. -/
def ofChars (text : List Char) : Reading Json := do
  let (value, rest) ← readValue (text.length + 1) maxDepth (skipBlanks text)
  if (skipBlanks rest).isEmpty then .ok value else .error .form

def ofText (text : String) : Reading Json := ofChars text.toList

end NestedFlow.Json
