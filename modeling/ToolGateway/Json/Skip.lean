import ToolGateway.Json.Reader

/-!
Passing over a JSON value that nothing asks for.

A member with an unknown name is passed over without being read: its texts need not be characters, its numbers need not
be in range and its containers may be nested to any depth. Only the signs have to be in their places, and an end of the
text inside a number counts as a bad number.
-/

namespace ToolGateway.Cursor

/-- past an escape, after its backslash -/
def skipEscape (c : Cursor) : Except ReadError Cursor :=
  match c.peek? with
  | none => c.fail .endInString
  | some 0x75 => do
    let (_, c) ← c.step.readHexQuad
    return c
  | some b =>
    match escapeLetter? b with
    | some _ => .ok c.step
    | none => c.step.fail .badEscape

/-- past the closing quote -/
def skipChars : Nat → Cursor → Except ReadError Cursor
  | 0, c => c.fail .endInString
  | fuel + 1, c =>
    match c.peek? with
    | none => c.fail .endInString
    | some b =>
      if b = 0x22 then .ok c.step
      else if b = 0x5C then do
        let c ← c.step.skipEscape
        skipChars fuel c
      else if b.toNat < 0x20 then c.fail .controlCharacter
      else skipChars fuel c.step

def skipString (c : Cursor) : Except ReadError Cursor :=
  skipChars (c.rest.length + 1) c

def skipExponent (c : Cursor) : Except ReadError Cursor :=
  let c := c.step
  let c := if c.peek? = some 0x2B ∨ c.peek? = some 0x2D then c.step else c
  match c.peek? with
  | none => c.fail .badNumber
  | some b => if isDigit b then .ok c.takeDigits.2 else c.failAhead .badNumber

/-- past a number, after its minus sign if it has one -/
def skipNumber (c : Cursor) : Except ReadError Cursor :=
  let fraction (c : Cursor) : Except ReadError Cursor :=
    match c.peek? with
    | some 0x2E =>
      let (digits, past) := c.step.takeDigits
      if digits = [] then past.failAhead .badNumber
      else if past.peek? = some 0x65 ∨ past.peek? = some 0x45 then past.skipExponent
      else .ok past
    | some 0x65 => c.skipExponent
    | some 0x45 => c.skipExponent
    | _ => .ok c
  match c.peek? with
  | none => c.fail .badNumber
  | some 0x30 =>
    match c.step.peek? with
    | some b => if isDigit b then c.step.failAhead .badNumber else fraction c.step
    | none => fraction c.step
  | some b => if isDigit b then fraction c.takeDigits.2 else c.failAhead .badNumber

inductive Container where
  | list
  | object
  deriving DecidableEq, Repr

def Container.closing : Container → UInt8
  | .list => 0x5D
  | .object => 0x7D

/-- the fault of a text that ends inside a container -/
def Container.endFault : Container → Fault
  | .list => .endInList
  | .object => .endInObject

/-- the fault of a container with something other than a comma between its entries -/
def Container.commaFault : Container → Fault
  | .list => .noListComma
  | .object => .noObjectComma

mutual

/-- past a value and all that is still open around it, innermost first -/
def skipFrom : Nat → List Container → Cursor → Except ReadError Cursor
  | 0, _, c => c.fail .endInValue
  | fuel + 1, around, c =>
    let c := c.skipBlanks
    match c.peek? with
    | none => c.fail .endInValue
    | some b =>
      if b = 0x6E then do
        let c ← c.step.readWord [0x75, 0x6C, 0x6C]
        skipAfter fuel around c
      else if b = 0x74 then do
        let c ← c.step.readWord [0x72, 0x75, 0x65]
        skipAfter fuel around c
      else if b = 0x66 then do
        let c ← c.step.readWord [0x61, 0x6C, 0x73, 0x65]
        skipAfter fuel around c
      else if b = 0x2D then do
        let c ← c.step.skipNumber
        skipAfter fuel around c
      else if isDigit b then do
        let c ← c.skipNumber
        skipAfter fuel around c
      else if b = 0x22 then do
        let c ← c.step.skipString
        skipAfter fuel around c
      else if b = 0x5B then skipOpened fuel .list around c.step
      else if b = 0x7B then skipOpened fuel .object around c.step
      else c.failAhead .noValue

/-- past what is open, the innermost container just opened -/
def skipOpened : Nat → Container → List Container → Cursor → Except ReadError Cursor
  | 0, _, _, c => c.fail .endInValue
  | fuel + 1, inner, around, c =>
    let c := c.skipBlanks
    match c.peek? with
    | none => c.fail inner.endFault
    | some b => if b = inner.closing then skipAfter fuel around c.step else skipEntry fuel inner around c

/-- past what is open, an entry of the innermost container being next -/
def skipEntry : Nat → Container → List Container → Cursor → Except ReadError Cursor
  | 0, _, _, c => c.fail .endInValue
  | fuel + 1, .list, around, c => skipFrom fuel (.list :: around) c
  | fuel + 1, .object, around, c =>
    let c := c.skipBlanks
    match c.peek? with
    | none => c.fail .endInObject
    | some b =>
      if b = 0x22 then do
        let c ← c.step.skipString
        let c ← c.readColon
        skipFrom fuel (.object :: around) c
      else c.failAhead .noKey

/-- past what is open, a value being just behind -/
def skipAfter : Nat → List Container → Cursor → Except ReadError Cursor
  | 0, _, c => c.fail .endInValue
  | _ + 1, [], c => .ok c
  | fuel + 1, inner :: around, c =>
    let c := c.skipBlanks
    match c.peek? with
    | none => c.fail inner.endFault
    | some b =>
      if b = 0x2C then skipEntry fuel inner around c.step
      else if b = inner.closing then skipAfter fuel around c.step
      else c.failAhead inner.commaFault

end

def skipValue (c : Cursor) : Except ReadError Cursor :=
  skipFrom (4 * c.rest.length + 4) [] c

end ToolGateway.Cursor
