import ToolGateway.Json
import ToolGateway.Number.Shortest

/-!
JSON values compared by what they mean: `1` and `1.0` are the same number, and the order of members does not count.

Integers are compared with each other exactly; an integer and another number are compared as doubles.
-/

namespace ToolGateway

namespace Number

/-- the value in units of 2^-1074 -/
def units : Number → Int
  | .int i => i * (Binary64.one : Nat)
  | .real x => x.signedUnits

/-- the double nearest to the number; integers that JSON texts hold are always in range -/
def toBinary64 : Number → Binary64
  | .int i => (Binary64.ofInt? i).getD (.zero false)
  | .real x => x

def same : Number → Number → Bool
  | .int i, .int k => i == k
  | a, b => a.toBinary64.signedUnits == b.toBinary64.signedUnits

/-- whether two numbers are the same, and a zero with a sign and one without are not -/
def sameSigned (a b : Number) : Bool :=
  same a b && a.toBinary64.negative == b.toBinary64.negative

/-- the gap between one and the next double, 2^-52, in units of 2^-1074 -/
def closeness : Nat := 1 <<< 1022

/-- whether two numbers, as doubles, are less than 2^-52 apart -/
def isCloseTo (a b : Number) : Bool :=
  decide ((a.toBinary64.signedUnits - b.toBinary64.signedUnits).natAbs < closeness)

/-- whether the value is an integer, however it is written -/
def isWhole : Number → Bool
  | .int _ => true
  | .real x => x.isIntegral

/-- the integer that the number stands for, if it does -/
def whole? : Number → Option Int
  | .int i => some i
  | .real x => if x.isIntegral then some x.truncate else none

/-- whether the decimal `a` is an integral multiple of the decimal `b` -/
def divides (b a : Decimal) : Bool :=
  let shift := max (-a.exponent).toNat (-b.exponent).toNat
  let scaled (d : Decimal) : Nat := d.digits * Nat.pow 10 (d.exponent + shift).toNat
  scaled a % scaled b = 0

/-- whether a number is a multiple of `step`. Of an integral step only an integral number is one. Of another step zero
is one, and nothing else below the step is; above it the shortest decimals of the two decide. -/
def isMultipleOf (n : Number) (step : Binary64) : Bool :=
  let x := n.toBinary64
  if step.isIntegral then x.isIntegral && x.truncate % step.truncate = 0
  else x.signedUnits = 0 || (step.signedUnits ≤ x.signedUnits && divides step.shortest x.shortest)

end Number

namespace Json

section

variable (sameNumber : Number → Number → Bool)

mutual

/-- whether two values mean the same, given what the same numbers are; both have their members ascending by name -/
def sameBy : Json → Json → Bool
  | null, null => true
  | bool a, bool b => a == b
  | number a, number b => sameNumber a b
  | string a, string b => a == b
  | array a, array b => sameItems a b
  | object a, object b => sameMembers a b
  | _, _ => false

def sameItems : List Json → List Json → Bool
  | [], [] => true
  | a :: as, b :: bs => sameBy a b && sameItems as bs
  | _, _ => false

def sameMembers : List (String × Json) → List (String × Json) → Bool
  | [], [] => true
  | (k, a) :: as, (l, b) :: bs => k == l && sameBy a b && sameMembers as bs
  | _, _ => false

end

/-- whether no two of some values mean the same -/
def allDifferentBy : List Json → Bool
  | [] => true
  | j :: rest => !rest.any (sameBy sameNumber j) && allDifferentBy rest

end

def same : Json → Json → Bool :=
  sameBy Number.same

/-- how many values are compared each with each; among more, zeros with and without a sign are different -/
def pairwiseLimit : Nat := 15

def allDifferent (items : List Json) : Bool :=
  allDifferentBy (if items.length ≤ pairwiseLimit then Number.same else Number.sameSigned) items

/-- whether a value is the one that was asked for; a number has to be close to it only -/
def isConstant (j wanted : Json) : Bool :=
  match j, wanted with
  | number a, number b => a.isCloseTo b
  | _, _ => same j wanted

end Json

end ToolGateway
