import ToolGateway.Number.Binary64

/-!
The shortest decimal that reads back as a given floating-point number.

The reals that round to a number form an interval, its ends included when the significand is even. `shortest` takes
the first count of digits 1, 2, … for which a decimal with so many digits lies in that interval, and of the candidates
the one nearest to the number. `Layout` decides how such a decimal is laid out.
-/

namespace ToolGateway

/-- the decimal `digits * 10 ^ exponent` -/
structure Decimal where
  digits : Nat
  exponent : Int
  deriving DecidableEq, Repr

namespace Binary64

/-- the interval of reals that round to the number, in quarters of a unit, with whether its ends belong to it -/
structure Interval where
  low : Nat
  high : Nat
  closed : Bool

/-- half the gap to the neighbours on either side; below a power of two the gap is half as wide -/
def interval (x : Binary64) : Interval :=
  let gap := 1 <<< x.scale
  let below := if x.significand = 0x10000000000000 ∧ x.scale ≠ 0 then gap else 2 * gap
  { low := 4 * x.units - below, high := 4 * x.units + 2 * gap, closed := x.significand % 2 = 0 }

/-- whether the interval holds `num / den` quarter units -/
def Interval.holds (i : Interval) (num den : Nat) : Bool :=
  if i.closed then i.low * den ≤ num && num ≤ i.high * den
  else i.low * den < num && num < i.high * den

/-- ten to an integer power, as a fraction -/
def tenPower (e : Int) : Nat × Nat :=
  if 0 ≤ e then (Nat.pow 10 e.toNat, 1) else (1, Nat.pow 10 (-e).toNat)

/-- the exponent of the leading digit of a positive magnitude: the `e` with 10^e ≤ magnitude < 10^(e+1). It is estimated
from the bits and settled by one or two comparisons. -/
def leadingExponent (x : Binary64) : Int :=
  let bits : Int := (Nat.log2 x.units : Int) - 1074
  let guess : Int := Int.fdiv (bits * 30103) 100000
  let reaches (e : Int) : Bool :=
    let (num, den) := tenPower e
    num * one ≤ x.units * den
  if reaches (guess + 1) then guess + 1
  else if reaches guess then guess
  else guess - 1

/-- the decimal with `count` digits nearest to the magnitude among those that read back as it -/
def withDigits? (x : Binary64) (lead : Int) (count : Nat) : Option Decimal :=
  let exponent := lead - (count - 1 : Nat)
  let (num, den) := tenPower exponent
  -- one step of the last digit is `num / den`; the magnitude is `units / one`
  let step := num * one
  let target := x.units * den
  let floor := target / step
  let i := x.interval
  let fits (d : Nat) : Bool := i.holds (4 * d * step) den
  let nearLow := decide (2 * (target - floor * step) < step) ||
    (decide (2 * (target - floor * step) = step) && floor % 2 = 0)
  if fits floor && fits (floor + 1) then some ⟨if nearLow then floor else floor + 1, exponent⟩
  else if fits floor then some ⟨floor, exponent⟩
  else if fits (floor + 1) then some ⟨floor + 1, exponent⟩
  else none

def trimZeros : Nat → Decimal → Decimal
  | 0, d => d
  | fuel + 1, d =>
    if d.digits ≠ 0 ∧ d.digits % 10 = 0 then trimZeros fuel ⟨d.digits / 10, d.exponent + 1⟩ else d

/-- the magnitude itself as a decimal: a unit is 5^1074 times 10^-1074 -/
def exactDecimal (x : Binary64) : Decimal :=
  ⟨x.units * Nat.pow 5 1074, -1074⟩

/-- the shortest decimal that reads back as the magnitude; seventeen digits always do, and the exact decimal ends the
search whatever they do -/
def shortest (x : Binary64) : Decimal :=
  if x.significand = 0 then ⟨0, 0⟩
  else
    let lead := x.leadingExponent
    let found := (List.range 17).findSome? fun i => withDigits? x lead (i + 1)
    trimZeros 20 (found.getD x.exactDecimal)

end Binary64

structure Layout where
  /-- the least and greatest exponent of the leading digit that are written without an exponent -/
  leastPositional : Int
  greatestPositional : Int
  /-- whether an integral value written without an exponent keeps a `.0` -/
  keepsPoint : Bool

namespace Layout

/-- the digits with their point, for a decimal whose leading digit has exponent `lead` -/
def positional (layout : Layout) (digits : List Char) (lead : Int) : List Char :=
  if lead < 0 then
    '0' :: '.' :: (List.replicate (-lead - 1).toNat '0' ++ digits)
  else
    let whole := lead.toNat + 1
    if digits.length ≤ whole then
      digits ++ List.replicate (whole - digits.length) '0' ++ (if layout.keepsPoint then ['.', '0'] else [])
    else digits.take whole ++ '.' :: digits.drop whole

/-- the digits with a point after the first, and the exponent with its sign -/
def scientific (digits : List Char) (lead : Int) : List Char :=
  let exponent := (if lead < 0 then ['-'] else ['+']) ++ Nat.toDigits 10 lead.natAbs
  match digits with
  | [] => []
  | [d] => d :: 'e' :: exponent
  | d :: rest => d :: '.' :: (rest ++ 'e' :: exponent)

/-- the text of a floating-point number, with the digits of its shortest decimal -/
def text (layout : Layout) (x : Binary64) : List Char :=
  let d := x.shortest
  let digits := Nat.toDigits 10 d.digits
  let lead := d.exponent + (digits.length - 1 : Nat)
  let body :=
    if layout.leastPositional ≤ lead ∧ lead ≤ layout.greatestPositional then layout.positional digits lead
    else scientific digits lead
  if x.negative then '-' :: body else body

end Layout

end ToolGateway
