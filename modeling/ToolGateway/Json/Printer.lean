import ToolGateway.Json
import ToolGateway.Number.Shortest
import ToolGateway.Bytes.Hex

/-!
The written forms of JSON values.

`Json.chars` is the compact form, without a blank between the signs; `Json.prettyChars` puts each item and member on a
line of its own, two blanks further in for each level. Both write members in the order of the list.
-/

namespace ToolGateway

def intChars (i : Int) : List Char :=
  if i < 0 then '-' :: Nat.toDigits 10 i.natAbs else Nat.toDigits 10 i.natAbs

/-- Numbers with a point are written positionally from a leading exponent of -5 to one of 15, and always with a point.
-/
def Number.layout : Layout := ⟨-5, 15, true⟩

def Number.chars : Number → List Char
  | .int i => intChars i
  | .real x => Number.layout.text x

namespace Json

/-- the characters that stand for one character inside quotes: quote and backslash behind a backslash, controls by
letter or by four digits, all else as itself -/
def escapeChar (c : Char) : List Char :=
  if c = '"' then ['\\', '"']
  else if c = '\\' then ['\\', '\\']
  else if c = '\x08' then ['\\', 'b']
  else if c = '\x0c' then ['\\', 'f']
  else if c = '\n' then ['\\', 'n']
  else if c = '\r' then ['\\', 'r']
  else if c = '\t' then ['\\', 't']
  else if c.toNat < 0x20 then ['\\', 'u', '0', '0', Hex.digit (c.toNat / 16), Hex.digit (c.toNat % 16)]
  else [c]

def quotedChars (s : String) : List Char :=
  '"' :: (s.toList.flatMap escapeChar ++ ['"'])

mutual

/-- the compact form -/
def chars : Json → List Char
  | null => ['n', 'u', 'l', 'l']
  | bool true => ['t', 'r', 'u', 'e']
  | bool false => ['f', 'a', 'l', 's', 'e']
  | number n => n.chars
  | string s => quotedChars s
  | array items => '[' :: (charsItems items ++ [']'])
  | object members => '\x7b' :: (charsMembers members ++ ['\x7d'])

def charsItems : List Json → List Char
  | [] => []
  | [j] => chars j
  | j :: rest => chars j ++ ',' :: charsItems rest

def charsMembers : List (String × Json) → List Char
  | [] => []
  | [(k, j)] => quotedChars k ++ ':' :: chars j
  | (k, j) :: rest => quotedChars k ++ ':' :: (chars j ++ ',' :: charsMembers rest)

end

def compact (j : Json) : String :=
  String.ofList (chars j)

/-- a line break and the blanks in front of a line at this level -/
def lineStart (level : Nat) : List Char :=
  '\n' :: List.replicate (2 * level) ' '

mutual

/-- the form with a line for each item and member; `level` is how far in the value stands -/
def prettyChars (level : Nat) : Json → List Char
  | null => ['n', 'u', 'l', 'l']
  | bool true => ['t', 'r', 'u', 'e']
  | bool false => ['f', 'a', 'l', 's', 'e']
  | number n => n.chars
  | string s => quotedChars s
  | array [] => ['[', ']']
  | array items => '[' :: (prettyItems (level + 1) items ++ lineStart level ++ [']'])
  | object [] => ['\x7b', '\x7d']
  | object members => '\x7b' :: (prettyMembers (level + 1) members ++ lineStart level ++ ['\x7d'])

def prettyItems (level : Nat) : List Json → List Char
  | [] => []
  | [j] => lineStart level ++ prettyChars level j
  | j :: rest => lineStart level ++ prettyChars level j ++ ',' :: prettyItems level rest

def prettyMembers (level : Nat) : List (String × Json) → List Char
  | [] => []
  | [(k, j)] => lineStart level ++ quotedChars k ++ ':' :: ' ' :: prettyChars level j
  | (k, j) :: rest =>
    lineStart level ++ quotedChars k ++ ':' :: ' ' :: (prettyChars level j ++ ',' :: prettyMembers level rest)

end

/-- the form with a line for each item and member, as a text -/
def pretty (j : Json) : String :=
  String.ofList (prettyChars 0 j)

end Json

end ToolGateway
