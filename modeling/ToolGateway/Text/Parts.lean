/-!
Taking texts apart.
-/

namespace ToolGateway.Text

/-- a digit of base sixteen in either case -/
def isHexDigit (c : Char) : Bool :=
  c.isDigit || ('a' ≤ c && c ≤ 'f') || ('A' ≤ c && c ≤ 'F')

def hexDigitValue (c : Char) : Nat :=
  if c.isDigit then c.toNat - 0x30 else if c.isLower then c.toNat - 0x57 else c.toNat - 0x37

def decimalValue (digits : List Char) : Nat :=
  digits.foldl (fun n c => 10 * n + (c.toNat - 0x30)) 0

/-- what follows a character that has to be there -/
def past? (c : Char) : List Char → Option (List Char)
  | [] => none
  | d :: rest => if d = c then some rest else none

/-- a text before and behind the first character of a kind, if it has one -/
def cut (isMark : Char → Bool) (text : List Char) : List Char × Option (List Char) :=
  match text.dropWhile fun c => !isMark c with
  | [] => (text, none)
  | _ :: rest => (text.takeWhile fun c => !isMark c, some rest)

/-- a text before and behind the last character of a kind -/
def cutLast? (isMark : Char → Bool) (text : List Char) : Option (List Char × List Char) :=
  match cut isMark text.reverse with
  | (behind, some before) => some (before.reverse, behind.reverse)
  | (_, none) => none

/-- the parts of a text between the characters of one kind -/
def parts (mark : Char) (text : List Char) : List (List Char) :=
  text.foldr (fun c found =>
    if c = mark then [] :: found
    else match found with
      | [] => [[c]]
      | part :: rest => (c :: part) :: rest) [[]]

end ToolGateway.Text
