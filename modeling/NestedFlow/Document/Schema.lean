import NestedFlow.Json.Reader
import NestedFlow.Text.Blank

/-! Reading data by a schema.

Records admit no unknown fields, and a field may be absent only if it has a default. Texts, lists and records are
taken as they are. Whole numbers are read leniently: from truth values, from floating-point numbers without a
fraction, and from decimal texts.
-/

set_option autoImplicit false

namespace NestedFlow

namespace Schema

/-! ### Whole numbers -/

/-- A sign in front, if there is one, and the rest. -/
def signOf : List Char → Bool × List Char
  | '-' :: rest => (true, rest)
  | '+' :: rest => (false, rest)
  | text => (false, text)

/-- What follows the leading zeros of a number. A single zero stays if nothing else is left of the whole part. -/
def afterZeros? : Char → List Char → Option (List Char)
  | last, [] => some [last]
  | last, c :: rest =>
    if c = '0' || c = '_' then afterZeros? c rest
    else if c = '.' then some (last :: c :: rest)
    else if c = '-' || Json.isDecimalDigit c then some (c :: rest)
    else none

def withoutZeros? : List Char → Option (List Char)
  | '0' :: rest => afterZeros? '0' rest
  | c :: rest => if Json.isDecimalDigit c then some (c :: rest) else none
  | [] => none

/-- Drop a fraction of zeros. -/
def withoutFraction (text : List Char) : List Char :=
  let whole := text.takeWhile fun c => c != '.'
  let fraction := text.drop (whole.length + 1)
  if !fraction.isEmpty && fraction.all fun c => c == '0' then whole else text

def hasDouble : List Char → Bool
  | '_' :: '_' :: _ => true
  | _ :: rest => hasDouble rest
  | [] => false

/-- Drop separators, if they stand one by one between other characters. -/
def withoutSeparators (text : List Char) : List Char :=
  if text.head? == some '_' || text.getLast? == some '_' || hasDouble text then text
  else text.filter fun c => c != '_'

/-- A number of digits alone, with no zero in front of others. -/
def natOfDigits? : List Char → Option Nat
  | [] => none
  | ['0'] => some 0
  | digits =>
    if digits.head? != some '0' && digits.all Json.isDecimalDigit && digits.length ≤ Text.maxDigits then
      some (Json.natOfDecimal digits)
    else none

/-- A number of digits that may have one minus sign, which may have been met already. -/
def intOfDigits? : Bool → List Char → Option Int
  | false, '-' :: digits | true, digits => (natOfDigits? digits).map fun size => -(size : Int)
  | false, digits => (natOfDigits? digits).map fun size => (size : Int)

/-- A number written with white space around it, a sign, leading zeros, separators or a fraction of zeros. A minus sign
may also follow the leading zeros. -/
def intOfText? (text : String) : Option Int := do
  let (negative, unsigned) := signOf (Text.trim Text.isWhite text.toList)
  let digits ← withoutZeros? unsigned
  intOfDigits? negative (withoutSeparators (withoutFraction digits))

/-- Floating-point numbers count only within the range of machine integers. -/
def int? : Json → Option Int
  | .int value => some value
  | .bool value => some (if value then 1 else 0)
  | .float value =>
    match value.toInt? with
    | some whole => if -Int.pow 2 63 < whole ∧ whole < Int.pow 2 63 then some whole else none
    | none => none
  | .str text => intOfText? text
  | _ => none

/-! ### Other data -/

def text? : Json → Option String
  | .str text => some text
  | _ => none

def list? {α : Type} (item? : Json → Option α) : Json → Option (List α)
  | .arr items => items.mapM item?
  | _ => none

def texts? : Json → Option (List String) := list? text?

def nullable? {α : Type} (value? : Json → Option α) : Json → Option (Option α)
  | .null => some none
  | other => (value? other).map some

def fields? : Json → Option (List (String × Json))
  | .obj fields => some fields
  | _ => none

/-- The fields of a record that has no others than the given ones. -/
def record? (names : List String) : Json → Option (List (String × Json))
  | .obj fields => if fields.all fun field => decide (field.1 ∈ names) then some fields else none
  | _ => none

def required? {α : Type} (fields : List (String × Json)) (name : String) (value? : Json → Option α) : Option α :=
  (Json.field? name fields).bind value?

def optional? {α : Type} (fields : List (String × Json)) (name : String) (default : α) (value? : Json → Option α) :
    Option α :=
  match Json.field? name fields with
  | none => some default
  | some value => value? value

/-- A field that can only have one text, or be absent. -/
def literal? (fields : List (String × Json)) (name text : String) : Option Unit :=
  optional? fields name () fun value => if (text? value) = some text then some () else none

/-- The text of the field that tells the cases of a union apart. -/
def tag? (name : String) (value : Json) : Option String := (value.get? name).bind text?

end Schema

end NestedFlow
