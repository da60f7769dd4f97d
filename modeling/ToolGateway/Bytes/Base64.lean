import ToolGateway.Bytes

/-!
Octets written in the standard base-64 alphabet with padding.

Reading is strict: a text is accepted exactly when it is the written form of some octets. `Fault` names the octet at
fault; the order in which faults are looked for is length, alphabet, padding, spare bits.
-/

namespace ToolGateway.Base64

/-- the letter of a six-bit value -/
def letter (n : Nat) : Char :=
  if n < 26 then Char.ofNat (0x41 + n)
  else if n < 52 then Char.ofNat (0x61 + (n - 26))
  else if n < 62 then Char.ofNat (0x30 + (n - 52))
  else if n = 62 then '+'
  else '/'

/-- the letters of an octet string, three octets to four letters, padded with `=` -/
def letters : Bytes → List Char
  | [] => []
  | [a] => [letter (a.toNat / 4), letter (a.toNat % 4 * 16), '=', '=']
  | [a, b] =>
    [letter (a.toNat / 4), letter (a.toNat % 4 * 16 + b.toNat / 16), letter (b.toNat % 16 * 4), '=']
  | a :: b :: c :: rest =>
    letter (a.toNat / 4) :: letter (a.toNat % 4 * 16 + b.toNat / 16) :: letter (b.toNat % 16 * 4 + c.toNat / 64)
      :: letter (c.toNat % 64) :: letters rest

def encode (bytes : Bytes) : String :=
  String.ofList (letters bytes)

/-- the octet of the padding sign -/
def pad : UInt8 := 0x3D

/-- the six-bit value of a letter, given by its octet -/
def value? (b : UInt8) : Option Nat :=
  let n := b.toNat
  if 0x41 ≤ n && n ≤ 0x5A then some (n - 0x41)
  else if 0x61 ≤ n && n ≤ 0x7A then some (n - 0x61 + 26)
  else if 0x30 ≤ n && n ≤ 0x39 then some (n - 0x30 + 52)
  else if n = 0x2B then some 62
  else if n = 0x2F then some 63
  else none

/-- why a text is no written form -/
inductive Fault where
  /-- the octet at this offset has no place there -/
  | badOctet (octet : UInt8) (offset : Nat)
  /-- one letter is left over after the groups of four -/
  | badLength
  /-- the last letter, at this offset, carries bits that no octet takes -/
  | spareBits (octet : UInt8) (offset : Nat)
  /-- the last group of four is not filled up with padding -/
  | badPadding
  deriving DecidableEq, Repr

def Fault.message : Fault → String
  | .badOctet octet offset => "Invalid byte " ++ toString octet.toNat ++ ", offset " ++ toString offset ++ "."
  | .badLength => "Encoded text cannot have a 6-bit remainder."
  | .spareBits octet offset => "Invalid last symbol " ++ toString octet.toNat ++ ", offset " ++ toString offset ++ "."
  | .badPadding => "Invalid padding"

/-- the six-bit values of letters, or the first octet that is none -/
def values (offset : Nat) : Bytes → Except Fault (List Nat)
  | [] => .ok []
  | b :: rest =>
    match value? b with
    | none => .error (.badOctet b offset)
    | some v => do
      let tail ← values (offset + 1) rest
      return v :: tail

/-- the octets of six-bit values, with the value of the bits left over -/
def octets : List Nat → Bytes × Nat
  | a :: b :: c :: d :: rest =>
    let (tail, spare) := octets rest
    ((a * 4 + b / 16).toUInt8 :: (b % 16 * 16 + c / 4).toUInt8 :: (c % 4 * 64 + d).toUInt8 :: tail, spare)
  | [a, b, c] => ([(a * 4 + b / 16).toUInt8, (b % 16 * 16 + c / 4).toUInt8], c % 4)
  | [a, b] => ([(a * 4 + b / 16).toUInt8], b % 16)
  | _ => ([], 0)

def decodeOctets (text : Bytes) : Except Fault Bytes :=
  if text.length % 4 = 1 then
    match text.getLast? with
    | some b =>
      if b ≠ pad ∧ value? b = none then .error (.badOctet b (text.length - 1)) else .error .badLength
    | none => .error .badLength
  else
    let data := text.takeWhile (· ≠ pad)
    let padding := text.dropWhile (· ≠ pad)
    match values 0 data with
    | .error fault => .error fault
    | .ok sextets =>
      if padding ≠ [] ∧ (data.length % 4 < 2 ∨ 4 < data.length % 4 + padding.length ∨ padding.any (· ≠ pad)) then
        .error (.badOctet pad data.length)
      else if text.length % 4 ≠ 0 then .error .badPadding
      else
        let (bytes, spare) := octets sextets
        if spare ≠ 0 then
          .error (.spareBits (data.getLast?.getD 0) (data.length - 1))
        else .ok bytes

/-- the octets that a text in base 64 stands for -/
def decode (text : String) : Except Fault Bytes :=
  decodeOctets (Utf8.encode text)

end ToolGateway.Base64
