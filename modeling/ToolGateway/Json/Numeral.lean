import ToolGateway.Bytes
import ToolGateway.Json

/-!
Numbers as JSON texts write them, and the values they are given.

The digits are gathered in a significand of 64 bits. It is made a double, and that is multiplied or divided by powers of
ten. Each of these steps rounds, so a decimal of many digits, or far from one, is not always given the double nearest to
it: `31.245270191439438` is the shortest text of a double, and is read as the next greater one.
-/

namespace ToolGateway

namespace Binary64

/-- the product of two numbers, rounded; `none` when it is too large to be finite -/
def mul? (x y : Binary64) : Option Binary64 :=
  ofUnits? (x.negative ^^ y.negative) (x.units * y.units) one

/-- the quotient of two numbers, the divisor not zero, rounded; `none` when it is too large to be finite -/
def div? (x y : Binary64) : Option Binary64 :=
  ofUnits? (x.negative ^^ y.negative) (x.units * one) y.units

/-- the greatest exponent of a power of ten that is finite -/
def greatestPower : Nat := 308

def powerOfTen? (exponent : Nat) : Option Binary64 :=
  ofUnits? false (Nat.pow 10 exponent * one) 1

/-- divides by the greatest power of ten so many times; zero stays as it is -/
def lower? : Nat → Binary64 → Option Binary64
  | 0, x => some x
  | times + 1, x =>
    if x.significand = 0 then some x
    else do
      let quotient ← x.div? (← powerOfTen? greatestPower)
      lower? times quotient

/-- `significand * 10 ^ exponent`, rounded on every step of the way; `none` when it gets too large to be finite -/
def ofScaled? (significand : Nat) (exponent : Int) : Option Binary64 := do
  let x ← ofUnits? false (significand * one) 1
  if 0 ≤ exponent then
    if exponent ≤ greatestPower then x.mul? (← powerOfTen? exponent.toNat)
    else if significand = 0 then some x
    else none
  else
    let places := (-exponent).toNat
    let times := (places - 1) / greatestPower
    let y ← lower? times x
    y.div? (← powerOfTen? (places - times * greatestPower))

end Binary64

/-- a number as it is written, behind its sign: the digits in front of the point and behind it, and the exponent -/
inductive Numeral where
  | whole (digits : Bytes)
  | decimal (front behind : Bytes) (exponent : Int)
  deriving DecidableEq, Repr

namespace Numeral

/-- gathers digits behind those that make `acc` as long as 64 bits hold them, and gives the digits that are left -/
def gather (acc : Nat) : Bytes → Nat × Bytes
  | [] => (acc, [])
  | b :: rest =>
    let n := acc * 10 + (b.toNat - 0x30)
    if n < 0x10000000000000000 then gather n rest else (acc, b :: rest)

/-- the double that a significand and an exponent make -/
def real? (negative : Bool) (significand : Nat) (exponent : Int) : Option Number :=
  (Binary64.ofScaled? significand exponent).map fun x => .real { x with negative }

/-- the value of a number: an integer if it is written as one and 64 bits hold it, else a double; a negative zero is a
double. Whole digits that were not gathered count as zeros, those behind the point do not count. -/
def value? (negative : Bool) : Numeral → Option Number
  | whole digits =>
    match gather 0 digits with
    | (n, []) =>
      if negative then
        if 0 < n ∧ n ≤ 0x8000000000000000 then some (.int (-n)) else real? negative n 0
      else some (.int n)
    | (n, left) => real? negative n left.length
  | decimal front behind exponent =>
    let (n, frontLeft) := gather 0 front
    let (significand, behindLeft) := gather n behind
    real? negative significand (exponent + frontLeft.length - (behind.length - behindLeft.length : Nat))

end Numeral

end ToolGateway
