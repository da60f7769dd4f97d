import ToolGateway.Bytes

/-!
Octets written as pairs of hexadecimal digits.

`encode` writes lower-case digits; `decode` reads either case and says which character is no digit.
-/

namespace ToolGateway.Hex

def digit (n : Nat) : Char :=
  if n < 10 then Char.ofNat (0x30 + n) else Char.ofNat (0x57 + n)

/-- the two digits of an octet, high half first -/
def pair (b : UInt8) : List Char :=
  [digit (b.toNat / 16), digit (b.toNat % 16)]

/-- the lower-case digits of an octet string -/
def encode (bytes : Bytes) : String :=
  String.ofList (bytes.flatMap pair)

/-- the value of a hexadecimal digit of either case, given by its octet -/
def value? (b : UInt8) : Option Nat :=
  let n := b.toNat
  if 0x30 ≤ n && n ≤ 0x39 then some (n - 0x30)
  else if 0x41 ≤ n && n ≤ 0x46 then some (n - 0x37)
  else if 0x61 ≤ n && n ≤ 0x66 then some (n - 0x57)
  else none

/-- why a text is no hexadecimal form -/
inductive Fault where
  /-- the digits do not pair up -/
  | oddLength
  /-- the octet at this offset is no digit -/
  | badDigit (octet : UInt8) (offset : Nat)
  deriving DecidableEq, Repr

/-- reads digit pairs, counting the offset of the next one -/
def decodePairs (offset : Nat) : Bytes → Except Fault Bytes
  | [] => .ok []
  | [_] => .error .oddLength
  | high :: low :: rest =>
    match value? high, value? low with
    | none, _ => .error (.badDigit high offset)
    | some _, none => .error (.badDigit low (offset + 1))
    | some h, some l => do
      let tail ← decodePairs (offset + 2) rest
      return (h * 16 + l).toUInt8 :: tail

/-- the octets that a text of digit pairs stands for; an odd number of digits is reported before any bad digit -/
def decode (text : String) : Except Fault Bytes :=
  let octets := Utf8.encode text
  if octets.length % 2 = 1 then .error .oddLength else decodePairs 0 octets

end ToolGateway.Hex
