import ToolGateway.Pattern
import ToolGateway.Pattern.Grammar

/-!
Reading patterns from their written form.

`Pattern.read?` reads a text that `settle?` has given; there is no pattern for a text with something that cannot be
matched: a condition that is repeated, a look back at texts of different lengths, a group that is not there, a property
that is not known, or more repetitions than there is room for. Braces that hold no counts stand for themselves.

Letters in a group turn on that case does not count, that lines count, that a point takes every character, that counts
take as little as they can, and that blanks do not count. In a group with a colon they hold for its inside, otherwise
for all that follows.
-/

namespace ToolGateway.Pattern

/-- what is still to be read, and what holds for it -/
structure Reading where
  rest : List Char
  ignoresCase : Bool := false
  isLinewise : Bool := false
  takesLineEnds : Bool := false
  isLazy : Bool := false
  isSpaced : Bool := false
  /-- how many groups have been opened -/
  groupCount : Nat := 0
  /-- the numbers of the groups with names -/
  names : List (String × Nat) := []
  /-- the groups whose matches are asked for again -/
  used : List Nat := []
  /-- whether one of them was given by its number -/
  hasNumbers : Bool := false
  deriving Repr

abbrev Read := StateT Reading Option

namespace Read

def drop (n : Nat) : Read Unit :=
  modify fun r => { r with rest := r.rest.drop n }

def isAt (text : String) : Read Bool :=
  return text.toList.isPrefixOf (← get).rest

def take (text : String) : Read Bool := do
  let isThere ← isAt text
  if isThere then drop text.length
  return isThere

/-- past a text that has to be there -/
def demand (text : String) : Read Unit := do
  if !(← take text) then failure

/-- past a remark in parentheses, up to the closing one -/
def pastRemark? : List Char → Option (List Char)
  | [] => none
  | ')' :: rest => some rest
  | '\\' :: _ :: rest => pastRemark? rest
  | _ :: rest => pastRemark? rest

/-- past remarks and, if they do not count, blanks; every step takes a character -/
def pastSpace? (isSpaced : Bool) : Nat → List Char → Option (List Char)
  | 0, text => some text
  | fuel + 1, text =>
    match text with
    | '(' :: '?' :: '#' :: rest => (pastRemark? rest).bind (pastSpace? isSpaced fuel)
    | c :: rest =>
      if isSpaced && c = '#' then pastSpace? isSpaced fuel ((rest.dropWhile (· ≠ '\n')).drop 1)
      else if isSpaced && " \r\n\t".toList.contains c then pastSpace? isSpaced fuel rest
      else some text
    | [] => some []

/-- past what does not count -/
def skipSpace : Read Unit := do
  let r ← get
  let rest ← pastSpace? r.isSpaced r.rest.length r.rest
  set { r with rest := rest }

/-! ## Characters and sets -/

/-- one character, or those that differ from it in case only -/
def char (c : Char) : Read Pattern :=
  return .one (SetTerm.folded (← get).ignoresCase (.single c))

/-- a set that has a meaning -/
def set (term : SetTerm) : Read Pattern := do
  return .one (← term.meaning? (← get).ignoresCase)

/-- the text of a code point behind its letter: so many digits, or up to eight of them in braces -/
def codePointText (count : Nat) : Read (List Char) := do
  let rest := (← get).rest
  let isDigit (c : Char) : Bool := (Scan.hexValue? [c]).isSome
  if count ≤ rest.length && (rest.take count).all isDigit then
    drop count
    return rest.take count
  else
    demand "\x7b"
    let digits := rest.tail.takeWhile isDigit
    drop digits.length
    demand "\x7d"
    if digits.length ≤ 8 then return digits else failure

def codePoint (count : Nat) : Read Char := do
  Scan.charOfHex? (← codePointText count)

/-- the text of a property, behind its letter: a character, or what stands in braces -/
def propertyText : Read (List Char) := do
  match (← get).rest with
  | '\x7b' :: rest =>
    let name := rest.takeWhile (· ≠ '\x7d')
    drop (name.length + 1)
    demand "\x7d"
    return '\x7b' :: name ++ ['\x7d']
  | c :: _ =>
    drop 1
    return [c]
  | [] => failure

/-- the characters that letters behind a backslash stand for -/
def charOfLetter? (c : Char) : Option Char :=
  if c = 'e' then some '\x1b' else namedCharacters.lookup c

/-- what a backslash and the letters behind it mean for a set, in brackets or outside -/
inductive SetEscape where
  | char (c : Char)
  /-- a set as it is written -/
  | text (text : List Char)
  deriving Repr

/-- an escape that stands for characters, behind the backslash -/
def setEscape : Read SetEscape := do
  match (← get).rest with
  | [] => failure
  | c :: _ =>
    drop 1
    if let some count := codePointLengths.lookup c then return .char (← codePoint count)
    if c = 'p' || c = 'P' then return .text ('\\' :: c :: (← propertyText))
    if Scan.isShorthand c then return .text ['\\', c]
    if c = 'h' then return .text "[0-9A-Fa-f]".toList
    if c = 'H' then return .text "[^0-9A-Fa-f]".toList
    if let some d := charOfLetter? c then return .char d
    if c.isAlphanum then failure else return .char c

/-- a set as it is written, in brackets or behind a backslash -/
def setText (text : List Char) : Read Pattern := do
  let scan : Scan SetTerm :=
    if text.head? = some '\\' then do Scan.term (← Scan.escape) else Scan.bracket (2 * text.length + 2)
  match scan.run { rest := text } with
  | (.ok term, k) => if k.rest.isEmpty then set term else failure
  | _ => failure

/-- what stands in brackets, without its escapes that only patterns have; `depth` brackets are open -/
def bracketText : Nat → Nat → Read (List Char)
  | 0, _ => failure
  | fuel + 1, depth => do
    match (← get).rest with
    | [] => failure
    | '\\' :: 'b' :: _ =>
      drop 2
      return '\x08' :: (← bracketText fuel depth)
    | '\\' :: _ =>
      drop 1
      let text := match ← setEscape with
        | .char c => if isMeta c then ['\\', c] else [c]
        | .text text => text
      return text ++ (← bracketText fuel depth)
    | c :: _ =>
      drop 1
      if c = '[' then return c :: (← bracketText fuel (depth + 1))
      else if c ≠ ']' then return c :: (← bracketText fuel depth)
      else if depth = 1 then return [c]
      else return c :: (← bracketText fuel (depth - 1))

/-- a set in brackets, from the opening one on; a bracket that closes may stand first as a member -/
def bracket : Read Pattern := do
  drop 1
  let front := (if ← take "^" then ['[', '^'] else ['[']) ++ (if ← take "]" then [']'] else [])
  setText (front ++ (← bracketText ((← get).rest.length + 1) 1))

/-! ## Groups that are matched again -/

/-- what a group that has been opened has matched -/
def again (number : Nat) : Read Pattern := do
  let r ← get
  if number ≤ r.groupCount then
    modify fun r => { r with used := number :: r.used }
    return .again number r.ignoresCase
  else failure

def number? : Read (Option Nat) := do
  let digits := (← get).rest.takeWhile Char.isDigit
  drop digits.length
  return if digits.isEmpty then none else some (digits.foldl (fun n c => 10 * n + (c.toNat - 0x30)) 0)

/-- what the group of a number has matched -/
def againByNumber (number : Nat) : Read Pattern := do
  modify fun r => { r with hasNumbers := true }
  again number

/-- a name of letters, digits and low lines, up to a closing sign -/
def name (closing : String) : Read String := do
  let name := (← get).rest.takeWhile fun c => c = '_' || Text.Property.isAlphanumeric c
  drop name.length
  demand closing
  if name.isEmpty then failure else return String.ofList name

/-- what the group of a name has matched; a number may stand for the name -/
def againByName (closing : String) : Read Pattern := do
  let name ← name closing
  match (← get).names.lookup name with
  | some number => again number
  | none =>
    match name.toNat? with
    | some number => againByNumber number
    | none => failure

/-! ## Conditions and escapes -/

/-- the end of the text, or the line ends before it -/
def lastLineEnd : Pattern :=
  .ahead (.seq (.loop (.one (.single '\n')) 0 none true) (.edge .textEnd)) true

/-- an escape outside brackets, from the backslash on, and whether it can be repeated -/
def escape : Read (Pattern × Bool) := do
  drop 1
  match (← get).rest with
  | [] => failure
  | c :: rest =>
    let edge (e : Edge) : Read (Pattern × Bool) := do
      drop 1
      return (.edge e, false)
    if c.isDigit then
      match ← number? with
      | some number => return (← againByNumber number, true)
      | none => failure
    else if c = 'k' then
      drop 1
      if ← take "'" then return (← againByName "'", true)
      demand "<"
      return (← againByName ">", true)
    else if c = 'A' then edge .textStart
    else if c = 'z' then edge .textEnd
    else if (c = 'b' || c = 'B') && rest.head? = some '\x7b' then failure
    else if c = 'b' then edge .word
    else if c = 'B' then edge .noWord
    else if c = '<' then edge .wordStart
    else if c = '>' then edge .wordEnd
    else if c = 'Z' then
      drop 1
      return (lastLineEnd, false)
    else if c = 'G' then
      drop 1
      return (.edge .textStart, true)
    else if c = 'K' then
      drop 1
      return (.empty, true)
    else
      match ← setEscape with
      | .char c => return (← char c, true)
      | .text text => return (← setText text, true)

/-! ## Counts -/

def counts : Read (Nat × Option Nat) := do
  drop 1
  skipSpace
  let least ← if ← isAt "," then pure 0 else do
    match ← number? with
    | some n => pure n
    | none => failure
  skipSpace
  if ← take "\x7d" then return (least, some least)
  demand ","
  skipSpace
  let most ← number?
  skipSpace
  demand "\x7d"
  return (least, most)

/-- the counts that a sign or braces ask for, if they stand here -/
def counts? : Read (Option (Nat × Option Nat)) := do
  if ← take "?" then return some (0, some 1)
  if ← take "*" then return some (0, none)
  if ← take "+" then return some (1, none)
  if ← isAt "\x7b" then
    let r ← get
    match counts.run r with
    | some (found, r) =>
      StateT.set r
      return some found
    | none => return none
  return none

/-! ## Groups -/

/-- what a look back at a body sees; where the body is a choice of texts of different lengths, each is looked for by
itself -/
def lookBack (isThere : Bool) : Pattern → Read Pattern
  | .either left right => do
    match (Pattern.either left right).width? with
    | some width => return .behind (.either left right) width isThere
    | none =>
      let first ← lookBack isThere left
      let second ← lookBack isThere right
      return if isThere then .either first second else .seq first second
  | body => do
    match body.width? with
    | some width => return .behind body width isThere
    | none => failure

def applyFlag (c : Char) (value : Bool) (r : Reading) : Option Reading :=
  match c with
  | 'i' => some { r with ignoresCase := value }
  | 'm' => some { r with isLinewise := value }
  | 's' => some { r with takesLineEnds := value }
  | 'U' => some { r with isLazy := value }
  | 'x' => some { r with isSpaced := value }
  | 'u' => if value then some r else none
  | _ => none

/-- the letters of a group, and whether a colon follows them; `count` of them have been read -/
def flags : Nat → Nat → Bool → Read Bool
  | 0, _, _ => failure
  | fuel + 1, count, isNegated => do
    skipSpace
    match (← get).rest with
    | [] => failure
    | c :: _ =>
      drop 1
      if c = '-' then
        if isNegated then failure else flags fuel (count + 1) true
      else if c = ')' || c = ':' then
        if (isNegated && count = 1) || (c = ')' && count = 0) then failure else return c = ':'
      else
        StateT.set (← applyFlag c (!isNegated) (← get))
        flags fuel (count + 1) isNegated

/-- how the inside of a group starts -/
inductive Opening where
  | plain
  | named (name : String)
  | look (isAhead isThere : Bool)
  | atomic
  /-- what a group has matched -/
  | again (pattern : Pattern)
  | flags
  deriving Repr

/-- past what stands in front of the inside of a group -/
def opening : Read Opening := do
  drop 1
  skipSpace
  if ← take "?=" then return .look true true
  if ← take "?!" then return .look true false
  if ← take "?<=" then return .look false true
  if ← take "?<!" then return .look false false
  if ← take "?<" then return .named (← name ">")
  if ← take "?P<" then return .named (← name ">")
  if ← take "?P=" then return .again (← againByName ")")
  if ← take "?>" then return .atomic
  if ← take "?" then return .flags
  return .plain

/-- opens a group that is kept -/
def openGroup (name : Option String) : Read Nat := do
  let number := (← get).groupCount + 1
  modify fun r =>
    { r with groupCount := number, names := (name.map (·, number)).toList ++ r.names }
  return number

def depthLimit : Nat := 64

/-! ## Sequences -/

def sequenceOf : List Pattern → Pattern
  | [] => .empty
  | [p] => p
  | p :: rest => .seq p (sequenceOf rest)

def choiceOf : List Pattern → Pattern
  | [] => .empty
  | [p] => p
  | p :: rest => .either p (choiceOf rest)

/-- the pattern of a sign that stands for more than itself, and whether it can be repeated -/
def sign (c : Char) : Read (Pattern × Bool) := do
  let r ← get
  drop 1
  if c = '.' then
    return (.one (if r.takesLineEnds then .all else (CharSet.single '\n').complement), true)
  else if c = '^' then return (.edge (if r.isLinewise then .lineStart else .textStart), false)
  else if c = '$' then return (.edge (if r.isLinewise then .lineEnd else .textEnd), false)
  else return (← char c, true)

mutual

def choice : Nat → Nat → Read Pattern
  | 0, _ => failure
  | fuel + 1, depth => do
    let first ← sequence fuel depth []
    skipSpace
    if ← isAt "|" then return choiceOf (first :: (← others fuel depth))
    let r ← get
    if r.hasNumbers && !r.names.isEmpty then failure else return first

/-- the other sequences of a choice, each with its bar -/
def others : Nat → Nat → Read (List Pattern)
  | 0, _ => failure
  | fuel + 1, depth => do
    if ← take "|" then
      let next ← sequence fuel depth []
      skipSpace
      return next :: (← others fuel depth)
    else return []

/-- a sequence behind some patterns, the last of them first, up to where nothing more is read -/
def sequence : Nat → Nat → List Pattern → Read Pattern
  | 0, _, _ => failure
  | fuel + 1, depth, found => do
    let before := (← get).rest.length
    if before = 0 then return sequenceOf found.reverse
    let next ← piece fuel depth
    let found := if next = .empty then found else next :: found
    if (← get).rest.length = before then return sequenceOf found.reverse else sequence fuel depth found

/-- a part of a sequence with its counts -/
def piece : Nat → Nat → Read Pattern
  | 0, _ => failure
  | fuel + 1, depth => do
    let (body, isRepeatable) ← atom fuel depth
    skipSpace
    match ← counts? with
    | none => return body
    | some (least, most) =>
      if !isRepeatable then failure
      skipSpace
      let isLazy ← take "?"
      let loop := Pattern.loop body least most (isLazy == (← get).isLazy)
      if ← take "+" then return .atomic loop else return loop

/-- a part of a sequence without its counts, and whether it can be repeated -/
def atom : Nat → Nat → Read (Pattern × Bool)
  | 0, _ => failure
  | fuel + 1, depth => do
    skipSpace
    match (← get).rest with
    | [] => return (.empty, false)
    | c :: _ =>
      if c = '(' then group fuel (depth + 1)
      else if c = '\\' then escape
      else if c = '[' then return (← bracket, true)
      else if "+*?|)".toList.contains c then return (.empty, false)
      else sign c

/-- a group, from the opening parenthesis on, and whether it can be repeated -/
def group : Nat → Nat → Read (Pattern × Bool)
  | 0, _ => failure
  | fuel + 1, depth => do
    if depthLimit ≤ depth then failure
    let inside : Read Pattern := do
      let body ← choice fuel depth
      skipSpace
      demand ")"
      return body
    match ← opening with
    | .plain =>
      let number ← openGroup none
      return (.group number (← inside), true)
    | .named name =>
      let number ← openGroup (some name)
      return (.group number (← inside), true)
    | .look true isThere => return (.ahead (← inside) isThere, false)
    | .look false isThere => return (← lookBack isThere (← inside), false)
    | .atomic => return (.atomic (← inside), true)
    | .again pattern => return (pattern, true)
    | .flags =>
      let before ← get
      if ← flags (before.rest.length + 1) 0 false then
        let body ← choice fuel depth
        demand ")"
        modify fun r => { r with
          ignoresCase := before.ignoresCase, isLinewise := before.isLinewise, takesLineEnds := before.takesLineEnds,
          isLazy := before.isLazy, isSpaced := before.isSpaced }
        let isCondition := match body with
          | .empty | .edge _ | .ahead _ _ | .behind _ _ _ => true
          | _ => false
        return (body, !isCondition)
      else return (.empty, false)

end

end Read

/-! ## Whole patterns -/

def stateRoom : Nat := 32

/-- where some code points have to be cut, as the last one of the first part, so that they differ from each other in the
bits of their last bytes only, and there take all values that those bytes can have -/
def cut? (first last : Nat) : Option Nat :=
  ([0x7f, 0x7ff, 0xd7ff, 0xdfff, 0xffff].find? fun m => decide (first ≤ m ∧ m < last)) <|>
    ([0x40, 0x1000, 0x40000].findSome? fun size =>
      if last < 0x80 || first / size = last / size then none
      else if first % size ≠ 0 then some (first / size * size + size - 1)
      else if last % size ≠ size - 1 then some (last / size * size - 1)
      else none)

/-- code points, cut wherever they have to be; one form of encoding is cut at most twice in front of each of its last
three bytes, and there are four forms and a gap, which bounds the fuel -/
def cuts : Nat → Nat → Nat → List (Nat × Nat)
  | 0, _, _ => []
  | fuel + 1, first, last =>
    match cut? first last with
    | some m => cuts fuel first m ++ cuts fuel (m + 1) last
    | none => if 0xd800 ≤ first && last ≤ 0xdfff then [] else [(first, last)]

/-- About how much room a set takes. A matcher that goes backwards has a state for each run of first bytes, which is
shared, and a choice between the last ones. A character alone has a state for each of its bytes. -/
def setRoom (set : CharSet) : Nat :=
  let bytes (i : Nat) : List UInt8 := String.utf8EncodeChar (Char.ofNat i)
  if set.ranges.length = 1 && set.ranges.all (fun r => r.1 = r.2) then
    set.ranges.foldl (fun n r => n + (bytes r.1).length * stateRoom) 0
  else if set.ranges.all (·.2 < 0x80) then
    2 * stateRoom + if set.ranges.length = 1 then 0 else 8 * set.ranges.length
  else
    let runs := (set.ranges.flatMap fun r => cuts 32 r.1 r.2).map fun r => (bytes r.1).zip (bytes r.2)
    let starts := runs.flatMap fun run => (List.range run.length).map fun n => run.take (n + 1)
    2 * stateRoom + 4 * runs.length + (distinct starts).length * stateRoom

/-- about how much room a pattern takes; a body that is repeated takes it again each time, and each repetition that may
be left out takes a choice of its own -/
def room : Pattern → Nat
  | one set => setRoom set
  | seq first second => first.room + second.room
  | either left right => left.room + right.room + stateRoom
  | loop body least most _ =>
    let most := most.getD (max 1 least)
    max 1 most * body.room + (max 1 (most - least)) * (stateRoom + 8)
  | group _ body => body.room + 2 * stateRoom
  | ahead body _ => body.room
  | behind body _ _ => body.room
  | atomic body => body.room
  | _ => stateRoom

def roomLimit : Nat := 10485760

/-- The pattern that a settled text is the written form of. Every call takes a character or goes one level down in the
grammar, of five, which bounds the fuel. -/
def read? (text : String) : Option Pattern := do
  let text := text.toList
  let (pattern, r) ← (Read.choice (5 * text.length + 5) 0).run { rest := text }
  if r.rest.isEmpty && pattern.room ≤ roomLimit then return pattern.keeping r.used else failure

end ToolGateway.Pattern
