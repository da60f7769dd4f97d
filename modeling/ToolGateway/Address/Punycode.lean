/-!
Labels of any script written in ASCII.

A written label has its ASCII characters, a hyphen, and letters that stand for numbers of base thirty-six with digits of
changing weight. Each number tells, for the next character by code point, how many places are passed over before it is
put in.
-/

namespace ToolGateway.Address.Punycode

/-- the letter or digit of a value below thirty-six -/
def digit (n : Nat) : Char :=
  if n < 26 then Char.ofNat (0x61 + n) else Char.ofNat (0x30 + (n - 26))

/-- the value of a letter or digit -/
def value? (c : Char) : Option Nat :=
  if c.isLower then some (c.toNat - 0x61)
  else if c.isUpper then some (c.toNat - 0x41)
  else if c.isDigit then some (c.toNat - 0x30 + 26)
  else none

/-- the least value that does not end a number, for a digit at a position and a bias -/
def threshold (position bias : Nat) : Nat :=
  if position ≤ bias then 1 else if bias + 26 ≤ position then 26 else position - bias

/-- a number made small by steps, with what the steps add to the bias; a number is halved several times by each step,
which bounds the fuel -/
def shrink : Nat → Nat → Nat → Nat × Nat
  | 0, n, steps => (n, steps)
  | fuel + 1, n, steps => if 455 < n then shrink fuel (n / 35) (steps + 36) else (n, steps)

/-- the bias after a number, with so many characters in the label -/
def adapt (n count : Nat) (isFirst : Bool) : Nat :=
  let n := if isFirst then n / 700 else n / 2
  let n := n + n / count
  let (rest, steps) := shrink n.log2.succ n 0
  steps + 36 * rest / (rest + 38)

/-- the digits of a number; each one takes a part of it away, which bounds the fuel -/
def digitsOf (bias : Nat) : Nat → Nat → Nat → List Char
  | 0, _, _ => []
  | fuel + 1, position, n =>
    let t := threshold position bias
    if n < t then [digit n]
    else digit (t + (n - t) % (36 - t)) :: digitsOf bias fuel (position + 36) ((n - t) / (36 - t))

/-! ## Writing -/

/-- what has been written, and what the next number starts from -/
structure Writing where
  written : List Char
  number : Nat := 0
  bias : Nat := 72
  count : Nat

/-- goes past a character; one of the code point that is being put in has its number written -/
def Writing.past (basics code : Nat) (w : Writing) (c : Char) : Writing :=
  if c.toNat < code then { w with number := w.number + 1 }
  else if c.toNat = code then
    { written := w.written ++ digitsOf w.bias (w.number.log2 + 2) 36 w.number, number := 0,
      bias := adapt w.number (w.count + 1) (w.count = basics), count := w.count + 1 }
  else w

/-- puts in the characters of some code points, which ascend from `low` on -/
def Writing.all (label : List Char) (basics : Nat) : Nat → Writing → List Nat → Writing
  | _, w, [] => w
  | low, w, code :: rest =>
    let w := { w with number := w.number + (code - low) * (w.count + 1) }
    let w := label.foldl (Writing.past basics code) w
    Writing.all label basics (code + 1) { w with number := w.number + 1 } rest

/-- a label written in ASCII, without the mark in front -/
def encode (label : List Char) : List Char :=
  let basics := label.filter fun c => c.toNat < 0x80
  let codes := ((label.filter fun c => 0x80 ≤ c.toNat).map Char.toNat).eraseDups.mergeSort
  let front := if basics.isEmpty then [] else basics ++ ['-']
  front ++ (Writing.all label basics.length 0x80 { written := [], count := basics.length } codes).written

/-! ## Reading -/

/-- a number, and what follows it -/
def readNumber? (bias : Nat) : Nat → Nat → Nat → List Char → Option (Nat × List Char)
  | _, _, _, [] => none
  | position, weight, n, c :: rest => do
    let d ← value? c
    let t := threshold position bias
    let n := n + d * weight
    if d < t then return (n, rest) else readNumber? bias (position + 36) (weight * (36 - t)) n rest

/-- puts in the characters that numbers stand for; each number takes a character, which bounds the fuel -/
def putIn? : Nat → Nat → Nat → Nat → List Char → List Char → Option (List Char)
  | 0, _, _, _, _, label => some label
  | fuel + 1, code, place, bias, text, label =>
    match text with
    | [] => some label
    | _ => do
      let (n, rest) ← readNumber? bias 36 1 place text
      let count := label.length + 1
      let code := code + n / count
      let here := n % count
      if code.isValidChar then
        putIn? fuel code (here + 1) (adapt (n - place) count (place = 0)) rest
          (label.take here ++ Char.ofNat code :: label.drop here)
      else none

/-- the label that a text in ASCII stands for, without the mark in front -/
def decode? (text : List Char) : Option (List Char) :=
  let behind := (text.reverse.takeWhile (· ≠ '-')).reverse
  let front := text.take (text.length - behind.length)
  let basics := front.dropLast
  if front = ['-'] then none
  else putIn? text.length 0x80 0 72 behind basics

end ToolGateway.Address.Punycode
