/-!
Sets of characters.

A set is a list of ranges of code points, ascending and with gaps between them; `CharSet.ofRanges` makes one of any
ranges. Two sets with the same characters have the same ranges. The written form of a set is its ranges in base sixteen,
such as `41-5A 5F`.
-/

namespace ToolGateway

/-- a set of characters: ascending ranges of code points with gaps between them -/
structure CharSet where
  ranges : List (Nat × Nat)
  deriving DecidableEq, Repr

namespace CharSet

def highest : Nat := 0x10FFFF

/-- ranges that ascend by their first code points, with those that touch made one -/
def joined : List (Nat × Nat) → List (Nat × Nat)
  | (a, b) :: (c, d) :: rest =>
    if c ≤ b + 1 then joined ((a, max b d) :: rest) else (a, b) :: joined ((c, d) :: rest)
  | ranges => ranges
termination_by ranges => ranges.length

def ofRanges (ranges : List (Nat × Nat)) : CharSet :=
  ⟨joined (ranges.mergeSort fun r s => r.1 ≤ s.1)⟩

def none : CharSet := ⟨[]⟩

def all : CharSet := ⟨[(0, highest)]⟩

def single (c : Char) : CharSet :=
  ⟨[(c.toNat, c.toNat)]⟩

def range (low high : Char) : CharSet :=
  ⟨[(low.toNat, high.toNat)]⟩

def holds (s : CharSet) (c : Char) : Bool :=
  s.ranges.any fun (low, high) => low ≤ c.toNat && c.toNat ≤ high

def union (s t : CharSet) : CharSet :=
  if s.ranges.isEmpty then t else if t.ranges.isEmpty then s else ofRanges (s.ranges ++ t.ranges)

/-- the code points from `low` on that are in none of some ranges -/
def gaps (low : Nat) : List (Nat × Nat) → List (Nat × Nat)
  | [] => if low ≤ highest then [(low, highest)] else []
  | (a, b) :: rest => if low < a then (low, a - 1) :: gaps (b + 1) rest else gaps (b + 1) rest

def complement (s : CharSet) : CharSet :=
  ⟨gaps 0 s.ranges⟩

def inter (s t : CharSet) : CharSet :=
  (s.complement.union t.complement).complement

def diff (s t : CharSet) : CharSet :=
  s.inter t.complement

def symmDiff (s t : CharSet) : CharSet :=
  (s.diff t).union (t.diff s)

def unions (sets : List CharSet) : CharSet :=
  ofRanges (sets.flatMap ranges)

/-! ## Written form -/

/-- the value of a digit of base sixteen written in capitals -/
def digitValue (c : Char) : Nat :=
  if c.isDigit then c.toNat - 0x30 else c.toNat - 0x37

/-- the ranges of a written form; `low` is the first code point of a range whose last one is being read as `current` -/
def rangesOf (low : Option Nat) (current : Nat) : List Char → List (Nat × Nat)
  | [] => [(low.getD current, current)]
  | ' ' :: rest => (low.getD current, current) :: rangesOf .none 0 rest
  | '-' :: rest => rangesOf (some current) 0 rest
  | c :: rest => rangesOf low (16 * current + digitValue c) rest

/-- the set of a written form in several lines -/
def ofLines (lines : List String) : CharSet :=
  ofRanges (lines.flatMap fun line => rangesOf .none 0 line.toList)

/-! ## Sets of ASCII -/

/-- the decimal digits -/
def digits : CharSet := ⟨[(0x30, 0x39)]⟩

def letters : CharSet := ⟨[(0x41, 0x5A), (0x61, 0x7A)]⟩

end CharSet

end ToolGateway
