/-!
The order of texts by their UTF-16 code units.

A character below U+10000 is one unit and any other is a pair of surrogates, which are units from D800 to DFFF. So the
order is that of code points except between a character from U+E000 to U+FFFF and one from U+10000 on.
-/

namespace ToolGateway.Utf16

def unitsOf (c : Char) : List Nat :=
  let n := c.toNat
  if n < 0x10000 then [n]
  else [0xD800 + (n - 0x10000) / 0x400, 0xDC00 + (n - 0x10000) % 0x400]

def units (s : String) : List Nat :=
  s.toList.flatMap unitsOf

/-- compares from the first unit on; what ends first is less -/
def compareUnits : List Nat → List Nat → Ordering
  | [], [] => .eq
  | [], _ :: _ => .lt
  | _ :: _, [] => .gt
  | a :: as, b :: bs => if a < b then .lt else if b < a then .gt else compareUnits as bs

def compare (a b : String) : Ordering :=
  compareUnits (units a) (units b)

end ToolGateway.Utf16
