import ToolGateway.Pattern.Cursor
import ToolGateway.Text.Folding

/-!
Sets of characters in brackets.

What stands in brackets is a union of characters, ranges, named sets and further brackets, or such unions with operators
between them, which all bind to the left. `SetTerm.meaning?` gives the set; it has none if a property is not known.
Where case does not count, characters are added that differ in case only from those of a named set, of either side of an
operator, and of a bracket, each time before it is negated.
-/

namespace ToolGateway.Pattern

/-- what stands between two sides in brackets -/
inductive SetOperator where
  | both
  | without
  | oneOnly
  deriving DecidableEq, Repr

/-- a written set of characters -/
inductive SetTerm where
  | char (c : Char)
  | range (low high : Char)
  /-- a backslash and a letter: digits, blanks or parts of words, or with a capital all but them -/
  | shorthand (letter : Char)
  /-- a set of ASCII with a name -/
  | ascii (set : CharSet) (isNegated : Bool)
  /-- the characters with a property, or with a value of a property -/
  | property (name : String) (value : Option String) (isNegated : Bool)
  | union (terms : List SetTerm)
  | combined (operator : SetOperator) (left right : SetTerm)
  | bracket (isNegated : Bool) (body : SetTerm)
  deriving Repr

namespace SetTerm

mutual

/-- how many brackets, operators and unions of several terms stand inside each other -/
def height : SetTerm → Nat
  | union [] => 0
  | union [term] => term.height
  | union terms => highest terms + 1
  | combined _ left right => max left.height right.height + 1
  | bracket _ body => body.height + 1
  | _ => 0

def highest : List SetTerm → Nat
  | [] => 0
  | term :: rest => max term.height (highest rest)

end

/-- the set that the letter of a shorthand stands for, in lower case -/
def shorthandSet (letter : Char) : CharSet :=
  match letter with
  | 'd' => Text.Category.ofCode "Nd"
  | 's' => CharSet.ofRanges Text.blankRanges
  | _ => Text.Property.wordParts

/-- a set with what differs in case only, if case does not count -/
def folded (ignoresCase : Bool) (set : CharSet) : CharSet :=
  if ignoresCase then Text.foldedSet set else set

def negated (isNegated : Bool) (set : CharSet) : CharSet :=
  if isNegated then set.complement else set

def combine : SetOperator → CharSet → CharSet → CharSet
  | .both => CharSet.inter
  | .without => CharSet.diff
  | .oneOnly => CharSet.symmDiff

mutual

/-- the set that a term stands for; there is none if a property is not known -/
def meaning? (ignoresCase : Bool) : SetTerm → Option CharSet
  | char c => some (.single c)
  | range low high => some (.range low high)
  | shorthand letter => some (negated letter.isUpper (shorthandSet letter.toLower))
  | ascii set isNegated => some (negated isNegated (folded ignoresCase set))
  | property name value isNegated =>
    (match value with
    | some value => Text.Property.valueSet? name value
    | none => Text.Property.set? name).map fun set => negated isNegated (folded ignoresCase set)
  | union terms => (meanings? ignoresCase terms).map CharSet.unions
  | combined operator left right => do
    let left ← left.meaning? ignoresCase
    let right ← right.meaning? ignoresCase
    return combine operator (folded ignoresCase left) (folded ignoresCase right)
  | bracket isNegated body => (body.meaning? ignoresCase).map fun set => negated isNegated (folded ignoresCase set)

def meanings? (ignoresCase : Bool) : List SetTerm → Option (List CharSet)
  | [] => some []
  | term :: rest => do
    let set ← term.meaning? ignoresCase
    return set :: (← meanings? ignoresCase rest)

end

end SetTerm

/-- what stands behind a backslash: a character, a set, or a condition on a place -/
inductive Escape where
  | char (c : Char)
  | set (term : SetTerm)
  | edge
  deriving Repr

def asciiSets : List (String × List (Nat × Nat)) :=
  [("alnum", [(0x30, 0x39), (0x41, 0x5A), (0x61, 0x7A)]), ("alpha", [(0x41, 0x5A), (0x61, 0x7A)]),
    ("ascii", [(0x00, 0x7F)]), ("blank", [(0x09, 0x09), (0x20, 0x20)]), ("cntrl", [(0x00, 0x1F), (0x7F, 0x7F)]),
    ("digit", [(0x30, 0x39)]), ("graph", [(0x21, 0x7E)]), ("lower", [(0x61, 0x7A)]), ("print", [(0x20, 0x7E)]),
    ("punct", [(0x21, 0x2F), (0x3A, 0x40), (0x5B, 0x60), (0x7B, 0x7E)]), ("space", [(0x09, 0x0D), (0x20, 0x20)]),
    ("upper", [(0x41, 0x5A)]), ("word", [(0x30, 0x39), (0x41, 0x5A), (0x5F, 0x5F), (0x61, 0x7A)]),
    ("xdigit", [(0x30, 0x39), (0x41, 0x46), (0x61, 0x66)])]

namespace Scan

/-- the name of a property and its value, if one is asked for -/
def splitProperty (text : String) : String × Option String :=
  let cut (mark : String) : Option (String × Option String) :=
    match text.splitOn mark with
    | name :: value :: more => some (name, some (mark.intercalate (value :: more)))
    | _ => none
  (((cut "!=").or (cut ":")).or (cut "=")).getD (text, none)

/-- the characters with a property, from the letter before it on -/
def property (isNegated : Bool) : Scan SetTerm := do
  bumpOn
  let c ← peek
  if c = '\x7b' then
    let text ← braced ((← get).rest.length)
    bump
    let (name, value) := splitProperty (String.ofList text)
    return .property name value isNegated
  else if c = '\\' then mistake
  else
    bumpOn
    return .property (String.singleton c) none isNegated

/-- the letters and hyphens of a name in braces, from the first one on -/
def edgeName : Nat → Scan (List Char)
  | 0 => return []
  | fuel + 1 => do
    match ← peek? with
    | some c =>
      if c.isAlpha || c = '-' then
        bumpOn
        return c :: (← edgeName fuel)
      else return []
    | none => return []

/-- which side of a word an edge is on, in braces, unless what stands there are counts -/
def edgeSide : Scan Unit := do
  let start ← get
  bumpOn
  let c ← peek
  if c.isAlpha || c = '-' then
    let name := String.ofList (← edgeName (← get).rest.length)
    if (← peek) = '\x7d' && ["start", "end", "start-half", "end-half"].contains name then bump else mistake
  else set start

/-- the letters of shorthands for sets -/
def isShorthand (c : Char) : Bool :=
  "dswDSW".toList.contains c

/-- what stands behind a backslash, from the backslash on -/
def escape : Scan Escape := do
  let start ← get
  bump
  let c ← peek
  if let some count := codePointLengths.lookup c then return .char (← codePoint count)
  if c = 'p' || c = 'P' then return .set (← property (c = 'P'))
  if isShorthand c then
    set { start.next.next with past := .shorthand c :: start.past }
    return .set (.shorthand c)
  bump
  if isSign c then return .char c
  if let some d := namedCharacters.lookup c then return .char d
  if c = 'b' then
    if (← peek?) = some '\x7b' then edgeSide
    return .edge
  if "AzB<>".toList.contains c then return .edge
  if c = 'c' then
    if ((← peek?).map Char.isAlpha).getD false then
      set start
      throw .control
  mistake

/-- a named set of ASCII, if one stands here -/
def asciiSet? : Scan (Option SetTerm) := do
  let rest := (← get).rest
  match rest with
  | '[' :: ':' :: inner =>
    let (isNegated, inner) := match inner with
      | '^' :: inner => (true, inner)
      | inner => (false, inner)
    let name := inner.takeWhile (· ≠ ':')
    match inner.drop name.length, asciiSets.lookup (String.ofList name) with
    | ':' :: ']' :: _, some ranges =>
      modify fun k => k.skip (name.length + (if isNegated then 5 else 4))
      return some (.ascii ⟨ranges⟩ isNegated)
    | _, _ => return none
  | _ => return none

/-- a character, or what stands behind a backslash -/
def member : Scan Escape := do
  let c ← peek
  if c = '\\' then escape
  else
    bump
    return .char c

/-- a member by itself; a condition on a place is none -/
def term : Escape → Scan SetTerm
  | .char c => return .char c
  | .set term => return term
  | .edge => mistake

/-- a member, or two characters with a hyphen between them -/
def range : Scan SetTerm := do
  let first ← member
  skipSpace
  let c ← peek
  let behind ← peekBehind?
  if c ≠ '-' || behind = some ']' || behind = some '-' then term first
  else
    bumpOn
    match first, ← member with
    | .char low, .char high => if low ≤ high then return .range low high else mistake
    | _, _ => mistake

/-- hyphens in front, which stand for themselves -/
def hyphens : Nat → Scan (List SetTerm)
  | 0 => return []
  | fuel + 1 => do
    if (← peek) = '-' then
      bumpOn
      return .char '-' :: (← hyphens fuel)
    else return []

def operator? : Scan (Option SetOperator) := do
  if ← take "&&" then return some .both
  if ← take "--" then return some .without
  if ← take "~~" then return some .oneOnly
  return none

/-- the terms on one side, the last first, as one term; `left` is what stands before the last operator -/
def side (left : Option (SetTerm × SetOperator)) (terms : List SetTerm) : SetTerm :=
  let right := match terms with
    | [term] => term
    | terms => .union terms.reverse
  match left with
  | some (left, operator) => .combined operator left right
  | none => right

mutual

/-- a set in brackets, from the opening one on; every call takes a character or goes inside a bracket, which bounds the
fuel by twice the number of characters -/
def bracket : Nat → Scan SetTerm
  | 0 => mistake
  | fuel + 1 => do
    bumpOn
    let isNegated := (← peek) = '^'
    if isNegated then bumpOn
    let first ← hyphens (← get).rest.length
    if first.isEmpty && (← peek) = ']' then
      bumpOn
      return .bracket isNegated (← terms fuel none [.char ']'])
    else return .bracket isNegated (← terms fuel none first)

/-- what follows some terms up to the closing bracket -/
def terms : Nat → Option (SetTerm × SetOperator) → List SetTerm → Scan SetTerm
  | 0, _, _ => mistake
  | fuel + 1, left, found => do
    skipSpace
    let c ← peek
    if c = ']' then
      bump
      return side left found
    else if c = '[' then
      match ← asciiSet? with
      | some term => terms fuel left (term :: found)
      | none => terms fuel left ((← bracket fuel) :: found)
    else
      match ← operator? with
      | some operator => terms fuel (some (side left found, operator)) []
      | none => terms fuel left ((← range) :: found)

end

end Scan

end ToolGateway.Pattern
