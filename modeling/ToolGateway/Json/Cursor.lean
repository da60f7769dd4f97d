import ToolGateway.Json.Fault

/-!
A place in a JSON text: the octets still to be read, and how far reading has come.

Every reader moves a `Cursor` forward. `fail` reports a fault at the place reached, `failAhead` one octet further, at
the octet that was looked at but not taken.
-/

namespace ToolGateway

/-- the octets left, the line, and the octets of the line already taken -/
structure Cursor where
  rest : Bytes
  line : Nat
  column : Nat
  deriving DecidableEq, Repr

namespace Cursor

def start (bytes : Bytes) : Cursor :=
  ⟨bytes, 1, 0⟩

/-- one octet further; a line feed begins a line -/
def step (c : Cursor) : Cursor :=
  match c.rest with
  | [] => c
  | b :: rest => if b = 0x0A then ⟨rest, c.line + 1, 0⟩ else ⟨rest, c.line, c.column + 1⟩

def steps : Nat → Cursor → Cursor
  | 0, c => c
  | n + 1, c => steps n c.step

def toEnd (c : Cursor) : Cursor :=
  c.steps c.rest.length

def peek? (c : Cursor) : Option UInt8 :=
  c.rest.head?

def errorHere (c : Cursor) (fault : Fault) : ReadError :=
  ⟨fault, c.line, c.column⟩

/-- a fault at the octet at the cursor -/
def errorAhead (c : Cursor) (fault : Fault) : ReadError :=
  c.step.errorHere fault

def fail {α : Type} (c : Cursor) (fault : Fault) : Except ReadError α :=
  .error (c.errorHere fault)

/-- fails at the octet at the cursor -/
def failAhead {α : Type} (c : Cursor) (fault : Fault) : Except ReadError α :=
  .error (c.errorAhead fault)

def pastBlanks (line column : Nat) : Bytes → Cursor
  | [] => ⟨[], line, column⟩
  | b :: rest =>
    if b = 0x0A then pastBlanks (line + 1) 0 rest
    else if b = 0x20 ∨ b = 0x09 ∨ b = 0x0D then pastBlanks line (column + 1) rest
    else ⟨b :: rest, line, column⟩

/-- past blank, tab, line feed and carriage return -/
def skipBlanks (c : Cursor) : Cursor :=
  pastBlanks c.line c.column c.rest

def isDigit (b : UInt8) : Bool :=
  0x30 ≤ b.toNat && b.toNat ≤ 0x39

/-- the digits at the cursor, and the cursor past them -/
def takeDigits (c : Cursor) : List UInt8 × Cursor :=
  let digits := c.rest.takeWhile isDigit
  (digits, ⟨c.rest.dropWhile isDigit, c.line, c.column + digits.length⟩)

end Cursor

end ToolGateway
