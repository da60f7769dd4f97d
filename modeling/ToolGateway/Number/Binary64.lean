/-!
Finite binary floating-point numbers with 53 significant bits, as exact data.

A `Binary64` is a sign, a significand and a power of two; its magnitude in units of 2^-1074 is the natural number
`units`, so comparison and rounding are exact arithmetic on `Nat`. `ofUnits?` rounds a quotient of naturals to the
nearest number, a tie to the even significand, and `ofDecimal?` reads a decimal with it.
-/

namespace ToolGateway

/-- a finite double: the magnitude is `significand * 2 ^ scale` units of 2^-1074. A significand has 53 bits, so it is
below 2^53; the least one with its top bit set is 2^52. -/
structure Binary64 where
  negative : Bool
  significand : Nat
  scale : Nat
  /-- each magnitude has one form: the top bit is set unless the scale is already the least -/
  isNormal : significand < 0x20000000000000 ∧ (scale = 0 ∨ 0x10000000000000 ≤ significand) ∧ scale ≤ 2045 := by decide
  deriving DecidableEq, Repr

namespace Binary64

def zero (negative : Bool) : Binary64 :=
  { negative, significand := 0, scale := 0 }

instance : Inhabited Binary64 := ⟨zero false⟩

/-- the magnitude in units of 2^-1074 -/
def units (x : Binary64) : Nat :=
  x.significand <<< x.scale

/-- how many units make up one -/
def one : Nat := 1 <<< 1074

/-- the value in units of 2^-1074 -/
def signedUnits (x : Binary64) : Int :=
  if x.negative then -(x.units : Int) else x.units

def isIntegral (x : Binary64) : Bool :=
  x.units % one = 0

/-- the integer part of the value, toward zero -/
def truncate (x : Binary64) : Int :=
  let n : Int := (x.units / one : Nat)
  if x.negative then -n else n

/-- the number with this sign, significand and scale, if there is one -/
def ofParts? (negative : Bool) (significand scale : Nat) : Option Binary64 :=
  if h : significand < 0x20000000000000 ∧ (scale = 0 ∨ 0x10000000000000 ≤ significand) ∧ scale ≤ 2045 then
    some { negative, significand, scale, isNormal := h }
  else if significand = 0x20000000000000 then
    if h : scale + 1 ≤ 2045 then
      some { negative, significand := 0x10000000000000, scale := scale + 1,
             isNormal := ⟨by decide, .inr (Nat.le_refl _), h⟩ }
    else none
  else none

/-- `num / den` rounded to the nearest natural number, a tie to the even one -/
def roundDiv (num den : Nat) : Nat :=
  let q := num / den
  let r := num % den
  if 2 * r < den then q
  else if den < 2 * r then q + 1
  else if q % 2 = 0 then q else q + 1

/-- the number nearest to `num / den` units; `none` when it is too large to be finite -/
def ofUnits? (negative : Bool) (num den : Nat) : Option Binary64 :=
  let scale := Nat.log2 (num / den) - 52
  ofParts? negative (roundDiv num (den <<< scale)) scale

/-- the number nearest to `digits * 10 ^ exponent`; `none` when it is too large to be finite. Exponents far outside the
range are settled from the count of digits, without raising ten to them. -/
def ofDecimal? (negative : Bool) (digits : Nat) (exponent : Int) : Option Binary64 :=
  if digits = 0 then some (zero negative)
  else
    let top : Int := exponent + (Nat.toDigits 10 digits).length
    if 310 < top then none
    else if top < -325 then some (zero negative)
    else if 0 ≤ exponent then ofUnits? negative (digits * Nat.pow 10 exponent.toNat * one) 1
    else ofUnits? negative (digits * one) (Nat.pow 10 (-exponent).toNat)

/-- the number nearest to an integer; `none` when it is too large to be finite -/
def ofInt? (i : Int) : Option Binary64 :=
  ofUnits? (decide (i < 0)) (i.natAbs * one) 1

end Binary64

end ToolGateway
