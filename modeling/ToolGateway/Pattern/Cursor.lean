import ToolGateway.Text.Blank
import ToolGateway.Text.Property

/-!
Going through the written form of a pattern.

A `Cursor` keeps what is still to be read and what has been read. Reading stops early at a mistake, at a place where the
pattern looks ahead or back, and at a control character written `\c` with a letter; the cursor tells where that was.
-/

namespace ToolGateway.Pattern

/-- why reading stops early -/
inductive Stop where
  | mistake
  /-- a group that looks ahead or back -/
  | look
  /-- a control character written with a letter -/
  | control
  deriving DecidableEq, Repr

/-- something that has been read: a character, or the letter of a shorthand for a set with the backslash before it -/
inductive Mark where
  | char (c : Char)
  | shorthand (letter : Char)
  deriving DecidableEq, Repr

/-- a place in a written pattern -/
structure Cursor where
  rest : List Char
  /-- what has been read, the last first -/
  past : List Mark := []
  /-- whether blanks and remarks do not count -/
  isSpaced : Bool := false
  /-- the names of groups -/
  names : List String := []
  /-- whether the bell was written `\a` outside brackets -/
  hasBell : Bool := false
  deriving Repr

abbrev Scan := ExceptT Stop (StateM Cursor)

namespace Cursor

def next (k : Cursor) : Cursor :=
  match k.rest with
  | [] => k
  | c :: rest => { k with rest := rest, past := .char c :: k.past }

def skip (k : Cursor) : Nat → Cursor
  | 0 => k
  | n + 1 => k.next.skip n

/-- how many of the first characters are blanks or belong to remarks, which go from a number sign to the line's end -/
def spaceLength (isRemark : Bool) : List Char → Nat
  | [] => 0
  | c :: rest =>
    if isRemark then spaceLength (c ≠ '\n') rest + 1
    else if Text.isBlank c then spaceLength false rest + 1
    else if c = '#' then spaceLength true rest + 1
    else 0

/-- past what does not count -/
def pastSpace (k : Cursor) : Cursor :=
  if k.isSpaced then k.skip (spaceLength false k.rest) else k

def written : List Mark → List Char
  | [] => []
  | .char c :: rest => c :: written rest
  | .shorthand letter :: rest => '\\' :: letter :: written rest

end Cursor

namespace Scan

def mistake {α : Type} : Scan α :=
  throw .mistake

def peek? : Scan (Option Char) :=
  return (← get).rest.head?

/-- the next character; there has to be one -/
def peek : Scan Char := do
  match ← peek? with
  | some c => return c
  | none => mistake

def bump : Scan Unit :=
  modify Cursor.next

def skipSpace : Scan Unit :=
  modify Cursor.pastSpace

/-- past a character and what does not count behind it -/
def bumpOn : Scan Unit :=
  modify fun k => k.next.pastSpace

def isAt (text : String) : Scan Bool :=
  return text.toList.isPrefixOf (← get).rest

/-- past a text, if the rest starts with it -/
def take (text : String) : Scan Bool := do
  if ← isAt text then
    modify fun k => k.skip text.length
    return true
  else return false

/-- the next character but one; what does not count is passed over -/
def peekBehind? : Scan (Option Char) :=
  return (← get).next.pastSpace.rest.head?

/-! ## Characters behind a backslash -/

/-- the value of digits of base sixteen in either case -/
def hexValue? (digits : List Char) : Option Nat :=
  digits.foldlM (fun n c =>
    if c.isDigit then some (16 * n + (c.toNat - 0x30))
    else if 'a' ≤ c && c ≤ 'f' then some (16 * n + (c.toNat - 0x57))
    else if 'A' ≤ c && c ≤ 'F' then some (16 * n + (c.toNat - 0x37))
    else none) 0

def charOfHex? (digits : List Char) : Option Char :=
  match hexValue? digits with
  | some n => if digits ≠ [] ∧ n.isValidChar then some (Char.ofNat n) else none
  | none => none

/-- what stands in braces, from the opening one on; the cursor stops at the closing one -/
def braced : Nat → Scan (List Char)
  | 0 => mistake
  | fuel + 1 => do
    bumpOn
    let c ← peek
    if c = '\x7d' then return [] else return c :: (← braced fuel)

/-- so many characters; what does not count may stand between them -/
def several : Nat → Scan (List Char)
  | 0 => return []
  | n + 1 => do
    let c ← peek
    bumpOn
    return c :: (← several n)

/-- a code point, from the letter before it on: so many digits, or digits in braces -/
def codePoint (count : Nat) : Scan Char := do
  bumpOn
  let digits ←
    if (← peek) = '\x7b' then do
      let digits ← braced ((← get).rest.length)
      bumpOn
      pure digits
    else several count
  match charOfHex? digits with
  | some c => return c
  | none => mistake

end Scan

/-- the signs with a meaning of their own -/
def isMeta (c : Char) : Bool :=
  "\\.+*?()|[]\x7b\x7d^$#&-~".toList.contains c

/-- whether a character stands for itself behind a backslash -/
def isSign (c : Char) : Bool :=
  c.toNat < 0x80 && !c.isAlphanum && c ≠ '<' && c ≠ '>'

/-- the characters that letters behind a backslash stand for -/
def namedCharacters : List (Char × Char) :=
  [('a', '\x07'), ('f', '\x0c'), ('t', '\t'), ('n', '\n'), ('r', '\r'), ('v', '\x0b')]

/-- how many digits a code point has behind a letter -/
def codePointLengths : List (Char × Nat) :=
  [('x', 2), ('u', 4), ('U', 8)]

end ToolGateway.Pattern
