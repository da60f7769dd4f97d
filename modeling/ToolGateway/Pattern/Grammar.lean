import ToolGateway.Pattern.Bracket

/-!
The grammar of written patterns, and what a written pattern is settled to.

The shorthands for digits, blanks and parts of words stand for the sets of a scripting language: `settle?` writes those
sets in their place, and a control character in place of `\c` with a letter. A text that is not in the grammar is not a
pattern. Once a group looks ahead or back, though, the text is taken as it is from its start to its end.
-/

namespace ToolGateway.Pattern

/-- a part of a sequence: how deep it is nested, and whether it can be repeated -/
structure Part where
  height : Nat
  isRepeatable : Bool := true
  deriving DecidableEq, Repr

namespace Part

def highest (parts : List Part) : Nat :=
  parts.foldl (fun n part => max n part.height) 0

/-- several parts as one: by itself a part is nested no deeper -/
def together (parts : List Part) : Part :=
  match parts with
  | [] => ⟨0, true⟩
  | [part] => part
  | parts => ⟨highest parts + 1, true⟩

end Part

namespace Scan

/-! ## Groups -/

/-- whether a character may stand in the name of a group, or at its start -/
def isNameCharacter (isFirst : Bool) (c : Char) : Bool :=
  c = '_' || (if isFirst then Text.Property.isAlphabetic c
    else c = '.' || c = '[' || c = ']' || Text.Property.isAlphanumeric c)

def groupName : Scan Unit := do
  let name := (← get).rest.takeWhile (· ≠ '>')
  modify fun k => k.skip name.length
  let _ ← peek
  bump
  let text := String.ofList name
  match name with
  | [] => mistake
  | c :: rest =>
    if isNameCharacter true c && rest.all (isNameCharacter false) && !(← get).names.contains text then
      modify fun k => { k with names := text :: k.names }
    else mistake

/-- the letters that turn something on or off, up to a colon or a closing parenthesis -/
def flags : Nat → List Char → Scan (List Char)
  | 0, _ => mistake
  | fuel + 1, found => do
    let c ← peek
    if c = ':' || c = ')' then
      if found.head? = some '-' then mistake else return found.reverse
    else if "imsUuRx-".toList.contains c && !found.contains c then
      bump
      flags fuel (c :: found)
    else mistake

/-- what the letters say about blanks, if anything -/
def spacing? (flags : List Char) : Option Bool :=
  if flags.contains 'x' then some (!(flags.takeWhile (· ≠ 'x')).contains '-') else none

/-- how the inside of a group starts -/
inductive Opening where
  /-- a group, with what it says about blanks -/
  | group (spacing : Option Bool)
  /-- no group, but what holds for the rest of the group around it -/
  | flags (spacing : Option Bool)

/-- past what stands in front of the inside of a group, from the opening parenthesis on -/
def opening : Scan Opening := do
  bumpOn
  let isLook := (← isAt "?=") || (← isAt "?!") || (← isAt "?<=") || (← isAt "?<!")
  if isLook then throw .look
  if ← take "?P<" then
    groupName
    return .group none
  else if ← take "?<" then
    groupName
    return .group none
  else if ← take "?" then
    let found ← flags ((← get).rest.length + 1) []
    let c ← peek
    bump
    if c = ':' then return .group (spacing? found)
    else if found.isEmpty then mistake
    else return .flags (spacing? found)
  else return .group none

/-! ## Counts -/

/-- decimal digits; what does not count may stand between them -/
def digits : Nat → Scan (List Char)
  | 0 => return []
  | fuel + 1 => do
    match ← peek? with
    | some c =>
      if c.isDigit then
        bumpOn
        return c :: (← digits fuel)
      else return []
    | none => return []

def skipBlanks : Scan Unit :=
  modify fun k => k.skip (k.rest.takeWhile Text.isBlank).length

/-- a count with blanks around it; there may be none -/
def count? : Scan (Option Nat) := do
  skipBlanks
  let found ← digits (← get).rest.length
  skipBlanks
  if found.isEmpty then return none
  let n := found.foldl (fun n c => 10 * n + (c.toNat - 0x30)) 0
  if n < 0x100000000 then return some n else mistake

/-- past the mark of a count that takes as little as it can -/
def skipLazy : Scan Unit := do
  if (← peek?) = some '?' then bump

/-- past counts in braces, from the opening one on -/
def counts : Scan Unit := do
  bumpOn
  let _ ← peek
  match ← count? with
  | none => mistake
  | some least =>
    if (← peek) = ',' then
      bumpOn
      if (← peek) ≠ '\x7d' then
        match ← count? with
        | some most => if most < least then mistake
        | none => mistake
    if (← peek) ≠ '\x7d' then mistake
    bumpOn
    skipLazy

/-! ## Sequences -/

/-- a character, an escape, or the sign of a place or of any character -/
def single : Scan Part := do
  if (← peek) = '\\' then
    let start ← get
    let _ ← escape
    if start.rest.take 2 = ['\\', 'a'] then modify fun k => { k with hasBell := true }
  else bump
  return ⟨0, true⟩

def repeated (parts : List Part) : Scan (List Part) :=
  match parts with
  | [] => mistake
  | part :: rest => if part.isRepeatable then return ⟨part.height + 1, true⟩ :: rest else mistake

mutual

def choice : Nat → List Part → Scan Part
  | 0, _ => mistake
  | fuel + 1, found => do
    let found := (← sequence fuel []) :: found
    if (← peek?) = some '|' then
      bump
      choice fuel found
    else return Part.together found

/-- a sequence up to a bar, a closing parenthesis or the end, behind some parts, the last of them first -/
def sequence : Nat → List Part → Scan Part
  | 0, _ => mistake
  | fuel + 1, parts => do
    skipSpace
    match ← peek? with
    | none => return Part.together parts
    | some c =>
      if c = '|' || c = ')' then return Part.together parts
      else if c = '(' then sequence fuel ((← group fuel) :: parts)
      else if c = '[' then
        let set ← bracket (2 * (← get).rest.length + 2)
        sequence fuel (⟨set.height, true⟩ :: parts)
      else if c = '?' || c = '*' || c = '+' then
        let parts ← repeated parts
        bump
        skipLazy
        sequence fuel parts
      else if c = '\x7b' then
        let parts ← repeated parts
        counts
        sequence fuel parts
      else sequence fuel ((← single) :: parts)

def group : Nat → Scan Part
  | 0 => mistake
  | fuel + 1 => do
    let outside := (← get).isSpaced
    match ← opening with
    | .flags spacing =>
      modify fun k => { k with isSpaced := spacing.getD outside }
      return ⟨0, false⟩
    | .group spacing =>
      modify fun k => { k with isSpaced := spacing.getD outside }
      let inside ← choice fuel []
      if (← peek) = ')' then
        modify fun k => { k.next with isSpaced := outside }
        return ⟨inside.height + 1, true⟩
      else mistake

end

def heightLimit : Nat := 250

/-- A whole pattern. Every call takes a character or goes one level down in the grammar, of three, which bounds the
fuel. -/
def whole : Scan Unit := do
  let part ← choice (3 * (← get).rest.length + 3) []
  if (← peek?).isSome || heightLimit < part.height then mistake

end Scan

/-! ## Settling -/

/-- the set that the letter of a shorthand stands for, as it is written -/
def shorthandText (letter : Char) : String :=
  match letter with
  | 'd' => "[0-9]"
  | 'D' => "[^0-9]"
  | 'w' => "[A-Za-z0-9_]"
  | 'W' => "[^A-Za-z0-9_]"
  | 's' => "[ \t\n\r\x0b\x0c\u2003\ufeff\u2029\u00a0]"
  | _ => "[^ \t\n\r\x0b\x0c\u2003\ufeff\u2029\u00a0]"

/-- what has been read, with a set written in place of each shorthand -/
def settledText (marks : List Mark) : List Char :=
  marks.flatMap fun
    | .char c => [c]
    | .shorthand letter => (shorthandText letter).toList

/-- settles a pattern in which so many control characters may be written with a letter -/
def settleWithin : Nat → List Char → Option (List Char)
  | 0, _ => none
  | fuel + 1, text =>
    match Scan.whole.run { rest := text } with
    | (.ok (), k) => if k.hasBell then none else some (settledText k.past.reverse)
    | (.error .mistake, _) => none
    | (.error .look, _) => some text
    | (.error .control, k) =>
      match k.rest with
      | _ :: _ :: letter :: rest =>
        settleWithin fuel (Cursor.written k.past.reverse ++ Char.ofNat (letter.toNat % 32) :: rest)
      | _ => none

/-- the text that a written pattern is settled to, if it is one -/
def settle? (text : String) : Option String :=
  (settleWithin (text.length + 1) text.toList).map String.ofList

end ToolGateway.Pattern
