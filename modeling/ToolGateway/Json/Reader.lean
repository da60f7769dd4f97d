import ToolGateway.Json.Cursor
import ToolGateway.Json.Numeral

/-!
Reading JSON texts.

Reading follows RFC 8259. Containers may be nested 127 deep; a number has the value that `Numeral.value?` gives it; a
repeated member keeps its last value. The first fault met ends reading.

Fuel bounds the loops. Every step takes an octet, so the length of the text is enough; `Json.read` supplies it and shows
none.
-/

namespace ToolGateway

namespace Cursor

/-! ## Numbers -/

/-- the natural number that digits stand for, after `acc` -/
def digitsValue (acc : Nat) (digits : List UInt8) : Nat :=
  digits.foldl (fun n b => n * 10 + (b.toNat - 0x30)) acc

/-- how many digits it takes to exceed `limit`, counting from `count` digits that make `acc` -/
def digitsToExceed (limit acc count : Nat) : List UInt8 → Option Nat
  | [] => none
  | b :: rest =>
    let n := acc * 10 + (b.toNat - 0x30)
    if limit < n then some (count + 1) else digitsToExceed limit n (count + 1) rest

/-- the greatest exponent that is read as a number; past it the value is zero or out of range -/
def exponentLimit : Nat := 2147483647

/-- the rest of a number, from its exponent sign on -/
def readExponent (whole fraction : Bytes) (c : Cursor) : Except ReadError (Numeral × Cursor) :=
  let c := c.step
  let isNegative := c.peek? = some 0x2D
  let c := if c.peek? = some 0x2B ∨ c.peek? = some 0x2D then c.step else c
  match c.peek? with
  | none => c.fail .endInValue
  | some b =>
    if isDigit b then
      let (exponent, past) := c.takeDigits
      match digitsToExceed exponentLimit 0 0 exponent with
      | some count =>
        if (whole ++ fraction).any (· ≠ 0x30) ∧ ¬ isNegative then (c.steps count).fail .numberOutOfRange
        else .ok (.decimal [] [] 0, past)
      | none =>
        let e : Int := digitsValue 0 exponent
        .ok (.decimal whole fraction (if isNegative then -e else e), past)
    else c.failAhead .badNumber

/-- the rest of a number, after its whole digits -/
def readFraction (whole : Bytes) (c : Cursor) : Except ReadError (Numeral × Cursor) :=
  match c.peek? with
  | some 0x2E =>
    let (fraction, past) := c.step.takeDigits
    if fraction = [] then
      if past.rest = [] then past.fail .endInValue else past.failAhead .badNumber
    else
      match past.peek? with
      | some 0x65 => readExponent whole fraction past
      | some 0x45 => readExponent whole fraction past
      | _ => .ok (.decimal whole fraction 0, past)
  | some 0x65 => readExponent whole [] c
  | some 0x45 => readExponent whole [] c
  | _ => .ok (.whole whole, c)

/-- a number as it is written, after its minus sign if it has one; a zero is followed by no further digit -/
def readNumeral (c : Cursor) : Except ReadError (Numeral × Cursor) :=
  match c.peek? with
  | none => c.fail .endInValue
  | some 0x30 =>
    match c.step.peek? with
    | some b => if isDigit b then c.step.failAhead .badNumber else readFraction [0x30] c.step
    | none => readFraction [0x30] c.step
  | some b =>
    if isDigit b then
      let (digits, past) := c.takeDigits
      readFraction digits past
    else c.failAhead .badNumber

/-- a number, after its minus sign if it has one -/
def readNumber (negative : Bool) (c : Cursor) : Except ReadError (Number × Cursor) := do
  let (numeral, past) ← c.readNumeral
  match numeral.value? negative with
  | some n => return (n, past)
  | none => past.fail .numberOutOfRange

/-! ## Texts -/

def readHexQuad (c : Cursor) : Except ReadError (Nat × Cursor) :=
  match c.rest with
  | p :: q :: r :: s :: _ =>
    let past := c.steps 4
    match Hex.value? p, Hex.value? q, Hex.value? r, Hex.value? s with
    | some p, some q, some r, some s => .ok (p * 4096 + q * 256 + r * 16 + s, past)
    | _, _, _, _ => past.fail .badEscape
  | _ => c.toEnd.fail .endInString

/-- takes the octet `expected` after the first half of a surrogate pair -/
def expectSecondHalf (expected : UInt8) (c : Cursor) : Except ReadError Cursor :=
  match c.peek? with
  | none => c.fail .endInString
  | some b => if b = expected then .ok c.step else c.failAhead .halfSurrogate

/-- the character of an escape by code unit, after its `u`; a pair of surrogates is one character -/
def readUnicodeEscape (c : Cursor) : Except ReadError (Char × Cursor) := do
  let (high, c) ← c.readHexQuad
  if 0xDC00 ≤ high ∧ high ≤ 0xDFFF then c.fail .loneSurrogate
  else if high < 0xD800 ∨ 0xDBFF < high then return (Char.ofNat high, c)
  else
    let c ← c.expectSecondHalf 0x5C
    let c ← c.expectSecondHalf 0x75
    let (low, c) ← c.readHexQuad
    if low < 0xDC00 ∨ 0xDFFF < low then c.fail .loneSurrogate
    else return (Char.ofNat ((high - 0xD800) * 1024 + (low - 0xDC00) + 0x10000), c)

def escapeLetter? (b : UInt8) : Option Char :=
  if b = 0x22 then some '"'
  else if b = 0x5C then some '\\'
  else if b = 0x2F then some '/'
  else if b = 0x62 then some '\x08'
  else if b = 0x66 then some '\x0c'
  else if b = 0x6E then some '\n'
  else if b = 0x72 then some '\r'
  else if b = 0x74 then some '\t'
  else none

/-- the character of an escape, after its backslash -/
def readEscape (c : Cursor) : Except ReadError (Char × Cursor) :=
  match c.peek? with
  | none => c.fail .endInString
  | some 0x75 => c.step.readUnicodeEscape
  | some b =>
    match escapeLetter? b with
    | some char => .ok (char, c.step)
    | none => c.step.fail .badEscape

/-- the characters up to the closing quote. Octets that form no character are passed over, and the first of them is the
fault once the quote is reached: `bad` holds it. -/
def readChars : Nat → Option ReadError → Cursor → Except ReadError (List Char × Cursor)
  | 0, _, c => c.fail .endInString
  | fuel + 1, bad, c =>
    match c.rest with
    | [] => c.fail .endInString
    | b :: _ =>
      if b = 0x22 then
        match bad with
        | some e => .error e
        | none => .ok ([], c.step)
      else if b = 0x5C then do
        let (char, c) ← c.step.readEscape
        let (chars, c) ← readChars fuel bad c
        return (char :: chars, c)
      else if b.toNat < 0x20 then c.failAhead .controlCharacter
      else
        match Utf8.next? c.rest with
        | some (char, rest) => do
          let (chars, c) ← readChars fuel bad ⟨rest, c.line, c.column + char.utf8Size⟩
          return (char :: chars, c)
        | none => readChars fuel (bad <|> some (c.errorAhead .badCodePoint)) c.step

/-- a text, after its opening quote -/
def readString (c : Cursor) : Except ReadError (String × Cursor) := do
  let (chars, c) ← readChars (c.rest.length + 1) none c
  return (String.ofList chars, c)

/-! ## Words and separators -/

/-- takes the octets of a word one by one -/
def readWord : Bytes → Cursor → Except ReadError Cursor
  | [], c => .ok c
  | expected :: word, c =>
    match c.peek? with
    | none => c.fail .endInValue
    | some b => if b = expected then readWord word c.step else c.failAhead .noWord

def readColon (c : Cursor) : Except ReadError Cursor :=
  let c := c.skipBlanks
  match c.peek? with
  | none => c.fail .endInObject
  | some b => if b = 0x3A then .ok c.step else c.failAhead .noColon

/-- whether a list has a further item: the cursor at the item, or at the closing bracket -/
def nextItem (isFirst : Bool) (c : Cursor) : Except ReadError (Bool × Cursor) :=
  let c := c.skipBlanks
  match c.peek? with
  | none => c.fail .endInList
  | some b =>
    if b = 0x5D then .ok (false, c)
    else if isFirst then .ok (true, c)
    else if b = 0x2C then
      let c := c.step.skipBlanks
      match c.peek? with
      | none => c.fail .endInValue
      | some b => if b = 0x5D then c.failAhead .trailingComma else .ok (true, c)
    else c.failAhead .noListComma

/-- whether an object has a further member: the cursor at the quote that opens its key, or at the closing brace -/
def nextKey (isFirst : Bool) (c : Cursor) : Except ReadError (Bool × Cursor) :=
  let c := c.skipBlanks
  match c.peek? with
  | none => c.fail .endInObject
  | some b =>
    if b = 0x7D then .ok (false, c)
    else if isFirst then
      if b = 0x22 then .ok (true, c) else c.failAhead .noKey
    else if b = 0x2C then
      let c := c.step.skipBlanks
      match c.peek? with
      | none => c.fail .endInValue
      | some b =>
        if b = 0x22 then .ok (true, c)
        else if b = 0x7D then c.failAhead .trailingComma
        else c.failAhead .noKey
    else c.failAhead .noObjectComma

/-! ## Values -/

mutual

/-- a value; `depth` is how many containers may still be opened -/
def readValue : Nat → Nat → Cursor → Except ReadError (Json × Cursor)
  | 0, _, c => c.fail .endInValue
  | fuel + 1, depth, c =>
    let c := c.skipBlanks
    match c.peek? with
    | none => c.fail .endInValue
    | some b =>
      if b = 0x6E then do
        let c ← c.step.readWord [0x75, 0x6C, 0x6C]
        return (.null, c)
      else if b = 0x74 then do
        let c ← c.step.readWord [0x72, 0x75, 0x65]
        return (.bool true, c)
      else if b = 0x66 then do
        let c ← c.step.readWord [0x61, 0x6C, 0x73, 0x65]
        return (.bool false, c)
      else if b = 0x2D then do
        let (n, c) ← c.step.readNumber true
        return (.number n, c)
      else if isDigit b then do
        let (n, c) ← c.readNumber false
        return (.number n, c)
      else if b = 0x22 then do
        let (s, c) ← c.step.readString
        return (.string s, c)
      else if b = 0x5B then
        match depth with
        | 0 => c.failAhead .tooDeep
        | depth + 1 => do
          let (items, c) ← readItems fuel depth true c.step
          return (.array items, c)
      else if b = 0x7B then
        match depth with
        | 0 => c.failAhead .tooDeep
        | depth + 1 => do
          let (members, c) ← readMembers fuel depth true c.step
          return (.ofMembers members, c)
      else c.failAhead .noValue

/-- the items of a list, after its opening bracket -/
def readItems : Nat → Nat → Bool → Cursor → Except ReadError (List Json × Cursor)
  | 0, _, _, c => c.fail .endInList
  | fuel + 1, depth, isFirst, c => do
    let (more, c) ← c.nextItem isFirst
    if more then
      let (item, c) ← readValue fuel depth c
      let (items, c) ← readItems fuel depth false c
      return (item :: items, c)
    else return ([], c.step)

/-- the members of an object, after its opening brace -/
def readMembers : Nat → Nat → Bool → Cursor → Except ReadError (List (String × Json) × Cursor)
  | 0, _, _, c => c.fail .endInObject
  | fuel + 1, depth, isFirst, c => do
    let (more, c) ← c.nextKey isFirst
    if more then
      let (key, c) ← c.step.readString
      let c ← c.readColon
      let (value, c) ← readValue fuel depth c
      let (members, c) ← readMembers fuel depth false c
      return ((key, value) :: members, c)
    else return ([], c.step)

end

/-- a value of a text that allows `depth` further containers -/
def readJson (depth : Nat) (c : Cursor) : Except ReadError (Json × Cursor) :=
  readValue (2 * c.rest.length + 2) depth c

def readEnd (c : Cursor) : Except ReadError Unit :=
  let c := c.skipBlanks
  match c.peek? with
  | none => .ok ()
  | some _ => c.failAhead .trailingText

end Cursor

/-- how many containers may be nested in a text -/
def nestingLimit : Nat := 127

/-- the value that a JSON text stands for -/
def Json.read (bytes : Bytes) : Except ReadError Json := do
  let (value, c) ← (Cursor.start bytes).readJson nestingLimit
  c.readEnd
  return value

def Json.readText (text : String) : Except ReadError Json :=
  Json.read (Utf8.encode text)

end ToolGateway
