import NestedFlow.Decimal.Binary64

/-! Shortest decimal text of a double-precision number.

The digits are the fewest that read back as the same number, and of those the nearest to it. A style says
where positional notation ends and how an exponent is written.
-/

set_option autoImplicit false

namespace NestedFlow.Decimal

/-- The number `digits · 10 ^ exponent`. -/
structure Digits where
  digits : Nat
  exponent : Int
  deriving DecidableEq

/-- Numerator and denominator of a power of ten or of two. -/
def power (base : Nat) (exponent : Int) : Nat × Nat :=
  if 0 ≤ exponent then (Nat.pow base exponent.toNat, 1) else (1, Nat.pow base (-exponent).toNat)

/-- The largest `p` with `10 ^ p ≤ num / den`, for a positive quotient. -/
def leadingExponent (num den : Nat) : Int :=
  let bits : Int := (Nat.log2 num : Int) - (Nat.log2 den : Int)
  let guess := bits * 30103 / 100000
  let fits (p : Int) : Bool :=
    let (top, bottom) := power 10 p
    top * den ≤ num * bottom
  ([guess + 2, guess + 1, guess].find? fits).getD (guess - 1)

/-- The interval of the numbers that round to a given one, in quarters of its unit in the last place. -/
structure Rounding where
  lower : Nat
  upper : Nat
  closed : Bool

def Rounding.of (mantissa : Nat) (exponent : Int) : Rounding where
  lower :=
    if mantissa = Nat.pow 2 52 ∧ exponent ≠ Binary64.minExponent then 4 * mantissa - 1 else 4 * mantissa - 2
  upper := 4 * mantissa + 2
  closed := mantissa % 2 = 0

/-- The nearer of the two neighbours of a number on the grid of `n` digits, if one of them reads back. -/
def onGrid? (mantissa : Nat) (exponent : Int) (leading : Int) (n : Nat) : Option Digits :=
  let interval := Rounding.of mantissa exponent
  let (unitNum, unitDen) := power 2 (exponent - 2)
  let place := leading + 1 - (n : Int)
  let (gridNum, gridDen) := power 10 place
  let value := 4 * mantissa * unitNum * gridDen
  let step := gridNum * unitDen
  let low := value / step
  let inside (digits : Nat) : Bool :=
    let x := digits * step
    let bottom := interval.lower * unitNum * gridDen
    let top := interval.upper * unitNum * gridDen
    if interval.closed then bottom ≤ x && x ≤ top else bottom < x && x < top
  let pick (digits : Nat) : Digits :=
    if digits = Nat.pow 10 n then ⟨1, place + n⟩ else ⟨digits, place⟩
  match inside low, inside (low + 1) with
  | true, true =>
    let below := value - low * step
    let above := (low + 1) * step - value
    if below < above then some (pick low)
    else if above < below then some (pick (low + 1))
    else if low % 2 = 0 then some (pick low) else some (pick (low + 1))
  | true, false => some (pick low)
  | false, true => some (pick (low + 1))
  | false, false => none

/-- Seventeen digits always read back. -/
def shortest (mantissa : Nat) (exponent : Int) : Digits :=
  let (num, den) := Binary64.scaleDown mantissa 1 (-exponent)
  let leading := leadingExponent num den
  ((List.range 17).findSome? fun n => onGrid? mantissa exponent leading (n + 1)).getD ⟨mantissa, exponent⟩

/-- How a number is laid out: the decimal exponents written positionally, the sign of a positive exponent
and the least number of its digits, and the texts of what is not finite. -/
structure Style where
  positionalFrom : Int
  positionalTo : Int
  plus : String
  exponentDigits : Nat
  nan : String
  infinity : String
  negativeInfinity : String

def padLeft (width : Nat) (text : String) : String :=
  String.ofList (List.replicate (width - text.length) '0') ++ text

def zeros (n : Int) : String := String.ofList (List.replicate n.toNat '0')

def Style.layout (style : Style) (number : Digits) : String :=
  let digits := toString number.digits
  let count : Int := digits.length
  let point := count + number.exponent
  let exponent := point - 1
  if style.positionalFrom ≤ exponent ∧ exponent ≤ style.positionalTo then
    if point ≤ 0 then "0." ++ zeros (-point) ++ digits
    else if count ≤ point then digits ++ zeros (point - count) ++ ".0"
    else
      let chars := digits.toList
      String.ofList (chars.take point.toNat) ++ "." ++ String.ofList (chars.drop point.toNat)
  else
    let chars := digits.toList
    let fraction := chars.drop 1
    let sign := if exponent < 0 then "-" else style.plus
    String.ofList (chars.take 1) ++ (if fraction.isEmpty then "" else "." ++ String.ofList fraction)
      ++ "e" ++ sign ++ padLeft style.exponentDigits (toString exponent.natAbs)

def Style.write (style : Style) : Binary64 → String
  | .nan => style.nan
  | .infinite false => style.infinity
  | .infinite true => style.negativeInfinity
  | .finite negative mantissa exponent =>
    (if negative then "-" else "") ++
      (if mantissa = 0 then "0.0" else style.layout (shortest mantissa exponent))

/-- The style of values shown in messages: positional from `10 ^ -4` to below `10 ^ 16`, and a signed exponent of
at least two digits. -/
def display : Style := ⟨-4, 15, "+", 2, "nan", "inf", "-inf"⟩

/-- The style of documents: positional from `10 ^ -5` to below `10 ^ 16`, and a signed exponent. What is not finite has
no number in a document. -/
def document : Style := ⟨-5, 15, "+", 1, "null", "null", "null"⟩

end NestedFlow.Decimal
