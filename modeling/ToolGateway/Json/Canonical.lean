import ToolGateway.Json.Reader
import ToolGateway.Text.Utf16
import ToolGateway.Crypto.Sha256

/-!
The canonical form of a JSON value: one text for all values that mean the same.

Members are sorted by the UTF-16 units of their names, and a number that is an integer of magnitude below 2^53 is
written as one, however it was given. All else is the compact form. The digest of a value is the SHA-256 of that text.
-/

namespace ToolGateway

/-- a double that is an integer of magnitude below 2^53 becomes that integer, a negative zero becomes zero -/
def Number.collapse : Number → Number
  | .int i => .int i
  | .real x => if x.isIntegral && x.truncate.natAbs < 0x20000000000000 then .int x.truncate else .real x

namespace Json

/-- named texts with commas between them, each name in quotes -/
def joinMembers : List (String × List Char) → List Char
  | [] => []
  | [(k, text)] => quotedChars k ++ ':' :: text
  | (k, text) :: rest => quotedChars k ++ ':' :: (text ++ ',' :: joinMembers rest)

def joinItems : List (List Char) → List Char
  | [] => []
  | [text] => text
  | text :: rest => text ++ ',' :: joinItems rest

/-- named things in the order of the UTF-16 units of the names -/
def sortByUnits {α : Type} (members : List (String × α)) : List (String × α) :=
  members.mergeSort fun a b => (Utf16.compare a.1 b.1).isLE

mutual

def canonicalChars : Json → List Char
  | null => ['n', 'u', 'l', 'l']
  | bool true => ['t', 'r', 'u', 'e']
  | bool false => ['f', 'a', 'l', 's', 'e']
  | number n => n.collapse.chars
  | string s => quotedChars s
  | array items => '[' :: (joinItems (canonicalItems items) ++ [']'])
  | object members => '\x7b' :: (joinMembers (sortByUnits (canonicalMembers members)) ++ ['\x7d'])

def canonicalItems : List Json → List (List Char)
  | [] => []
  | j :: rest => canonicalChars j :: canonicalItems rest

def canonicalMembers : List (String × Json) → List (String × List Char)
  | [] => []
  | (k, j) :: rest => (k, canonicalChars j) :: canonicalMembers rest

end

def canonical (j : Json) : String :=
  String.ofList (canonicalChars j)

/-- the canonical form of the value that a text stands for -/
def canonicalOf (bytes : Bytes) : Except ReadError String :=
  (read bytes).map canonical

def digest (j : Json) : Bytes :=
  Sha256.digest (Utf8.encode j.canonical)

def hexDigest (j : Json) : String :=
  Hex.encode j.digest

end Json

end ToolGateway
