import ToolGateway.Text.Parts

/-!
Addresses of machines in numbers: four octets, or eight groups of octets in base sixteen.
-/

namespace ToolGateway.Address

open Text

/-- a number up to 255 without leading zeros -/
def isOctetNumber (digits : List Char) : Bool :=
  digits ≠ [] && digits.length ≤ 3 && digits.all Char.isDigit && (digits.length = 1 || digits.head? ≠ some '0') &&
    decimalValue digits ≤ 255

def isIpv4 (text : List Char) : Bool :=
  let numbers := parts '.' text
  numbers.length = 4 && numbers.all isOctetNumber

/-- one to four digits of base sixteen -/
def isGroup (text : List Char) : Bool :=
  text.length ≤ 4 && text ≠ [] && text.all isHexDigit

/-- how many groups some parts of an address stand for; an address of four octets in the last place stands for two -/
def groupCount? (mayEndInOctets : Bool) : List (List Char) → Option Nat
  | [] => some 0
  | [part] => if isGroup part then some 1 else if mayEndInOctets && isIpv4 part then some 2 else none
  | part :: rest => if isGroup part then (groupCount? mayEndInOctets rest).map (· + 1) else none

/-- how many groups the side of an address stands for -/
def sideCount? (mayEndInOctets : Bool) (side : List Char) : Option Nat :=
  if side = [] then some 0 else groupCount? mayEndInOctets (parts ':' side)

/-- a text before and behind two colons -/
def cutGap? : List Char → Option (List Char × List Char)
  | ':' :: ':' :: rest => some ([], rest)
  | c :: rest => (cutGap? rest).map fun (front, back) => (c :: front, back)
  | [] => none

/-- whether a text is an address of eight groups, of which two colons stand for one or more that are zero -/
def isIpv6 (text : List Char) : Bool :=
  match cutGap? text with
  | none => sideCount? true text == some 8
  | some (front, back) =>
    match sideCount? false front, sideCount? true back with
    | some m, some n => m + n ≤ 7
    | _, _ => false

end ToolGateway.Address
