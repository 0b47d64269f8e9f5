/-! Double-precision numbers by their parts.

A finite number is `± mantissa · 2 ^ exponent`; reading a decimal gives the nearest one, with ties to the
even mantissa, as the standard for binary floating point prescribes. All arithmetic is on natural numbers.
-/

set_option autoImplicit false

namespace NestedFlow

inductive Binary64 where
  | nan
  | infinite (negative : Bool)
  | finite (negative : Bool) (mantissa : Nat) (exponent : Int)
  deriving DecidableEq, Inhabited

namespace Binary64

/-- The least exponent, at which the mantissa may have fewer than 53 bits. -/
def minExponent : Int := -1074

def maxExponent : Int := 971

/-- A quotient rounded to the nearest natural number, a tie to the even one. -/
def roundDiv (num den : Nat) : Nat :=
  let quotient := num / den
  let twice := 2 * (num % den)
  if twice < den then quotient
  else if den < twice then quotient + 1
  else if quotient % 2 = 0 then quotient else quotient + 1

/-- Numerator and denominator of `num / den` divided by a power of two. -/
def scaleDown (num den : Nat) (exponent : Int) : Nat × Nat :=
  if 0 ≤ exponent then (num, den * Nat.pow 2 exponent.toNat) else (num * Nat.pow 2 (-exponent).toNat, den)

/-- The exponent at which `num / den` has a mantissa of 53 bits. -/
def normalExponent (num den : Nat) : Int :=
  let guess : Int := (Nat.log2 num : Int) - (Nat.log2 den : Int) - 52
  let (scaledNum, scaledDen) := scaleDown num den guess
  if scaledNum < Nat.pow 2 52 * scaledDen then guess - 1 else guess

/-- The number nearest to a quotient of natural numbers. -/
def ofRatio (negative : Bool) (num den : Nat) : Binary64 :=
  if num = 0 then .finite negative 0 minExponent
  else
    let exponent := max (normalExponent num den) minExponent
    let (scaledNum, scaledDen) := scaleDown num den exponent
    let mantissa := roundDiv scaledNum scaledDen
    let (mantissa, exponent) :=
      if mantissa = Nat.pow 2 53 then (Nat.pow 2 52, exponent + 1) else (mantissa, exponent)
    if maxExponent < exponent then .infinite negative else .finite negative mantissa exponent

/-- The number nearest to `± digits · 10 ^ exponent`. Exponents beyond the range of the format give zero or
an infinity without being expanded. -/
def ofDecimal (negative : Bool) (digits : Nat) (exponent : Int) : Binary64 :=
  let size : Int := (Nat.log2 digits : Int) / 3 + 1
  if digits = 0 then .finite negative 0 minExponent
  else if 400 < exponent then .infinite negative
  else if size + exponent < -400 then .finite negative 0 minExponent
  else if 0 ≤ exponent then ofRatio negative (digits * Nat.pow 10 exponent.toNat) 1
  else ofRatio negative digits (Nat.pow 10 (-exponent).toNat)

/-- The integer that a finite number is equal to, if there is one. -/
def toInt? : Binary64 → Option Int
  | .finite negative mantissa exponent =>
    let magnitude : Option Nat :=
      if 0 ≤ exponent then some (mantissa * Nat.pow 2 exponent.toNat)
      else
        let den := Nat.pow 2 (-exponent).toNat
        if mantissa % den = 0 then some (mantissa / den) else none
    magnitude.map fun n => if negative then -(n : Int) else (n : Int)
  | _ => none

/-- Numeric equality: the two zeros are equal, and not-a-number differs from everything. -/
def numEq : Binary64 → Binary64 → Bool
  | .infinite n, .infinite m => n == m
  | .finite n mantissa exponent, .finite m mantissa' exponent' =>
    if mantissa = 0 ∧ mantissa' = 0 then true
    else n == m && mantissa == mantissa' && exponent == exponent'
  | _, _ => false

end Binary64

end NestedFlow
