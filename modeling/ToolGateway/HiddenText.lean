import ToolGateway.Bytes

/-!
Characters that a reader does not see, or that change the order of what is seen.

`classify` puts a character into at most one of four classes and gives a readable form of it. `findings` lists every
such character of a text with its offset in octets, `smuggled` reads the message that tag characters spell, `screen`
refuses a text with a finding, and `clean` takes out all that `screen` would refuse, and stray controls with it.
-/

namespace ToolGateway

/-- the classes of hidden characters -/
inductive Hazard where
  /-- tag characters, which copy printable ASCII without being drawn -/
  | tag
  /-- embeddings, overrides and isolates of the writing direction -/
  | direction
  /-- blanks of no width and joiners -/
  | invisible
  /-- code points that are no characters -/
  | noncharacter
  deriving DecidableEq, Repr

def Hazard.label : Hazard → String
  | .tag => "Unicode Tag (U+E0000-U+E007F)"
  | .direction => "Bidirectional Control"
  | .invisible => "Invisible Formatting"
  | .noncharacter => "Deprecated/Non-Character"

/-- every class, in the order in which they are tried -/
def Hazard.all : List Hazard :=
  [.tag, .direction, .invisible, .noncharacter]

namespace HiddenText

/-- tag characters are U+E0000 to U+E007F -/
def isTag (n : Nat) : Bool :=
  0xE0000 ≤ n && n ≤ 0xE007F

/-- controls of the writing direction -/
def isDirection (n : Nat) : Bool :=
  (0x202A ≤ n && n ≤ 0x202E) || (0x2066 ≤ n && n ≤ 0x2069) || n == 0x061C

/-- joiners, blanks of no width, and the byte order mark -/
def isInvisible (n : Nat) : Bool :=
  n == 0x200B || n == 0x200C || n == 0x200D || n == 0x2060 || n == 0xFEFF

/-- U+FDD0 to U+FDEF, and the last two code points of every plane -/
def isNoncharacter (n : Nat) : Bool :=
  (0xFDD0 ≤ n && n ≤ 0xFDEF) || 0xFFFE ≤ n % 0x10000

/-- what a tag character stands for: the ASCII character it copies, or a name in brackets -/
def tagMeaning (n : Nat) : String :=
  if 0xE0020 ≤ n && n ≤ 0xE007E then String.singleton (Char.ofNat (n - 0xE0000))
  else if n = 0xE007F then "[Cancel Tag]"
  else if n = 0xE0001 then "[Start Tag]"
  else ""

def directionMeaning (n : Nat) : String :=
  if n = 0x202A then "[LRE]"
  else if n = 0x202B then "[RLE]"
  else if n = 0x202C then "[PDF]"
  else if n = 0x202D then "[LRO]"
  else if n = 0x202E then "[RLO]"
  else if n = 0x061C then "[ALM]"
  else if n = 0x2066 then "[LRI]"
  else if n = 0x2067 then "[RLI]"
  else if n = 0x2068 then "[FSI]"
  else "[PDI]"

def invisibleMeaning (n : Nat) : String :=
  if n = 0x200B then "[ZWSP]"
  else if n = 0x200C then "[ZWNJ]"
  else if n = 0x200D then "[ZWJ]"
  else if n = 0x2060 then "[WJ]"
  else "[ZWNBSP/BOM]"

/-- the class of a character and its readable form, `none` for a character that shows itself -/
def classify (c : Char) : Option (Hazard × String) :=
  let n := c.toNat
  if isTag n then some (.tag, tagMeaning n)
  else if isDirection n then some (.direction, directionMeaning n)
  else if isInvisible n then some (.invisible, invisibleMeaning n)
  else if isNoncharacter n then some (.noncharacter, "[Deprecated/NonChar]")
  else none

/-! ## Findings -/

structure Finding where
  char : Char
  /-- the code point in hexadecimal -/
  hex : String
  /-- the offset in the octets of the text -/
  index : Nat
  hazard : Hazard
  /-- the readable form -/
  meaning : String
  deriving DecidableEq, Repr

/-- `U+` and the upper-case hexadecimal digits of a number, at least four -/
def codePoint (n : Nat) : String :=
  let digits := (Nat.toDigits 16 n).map Char.toUpper
  String.ofList ('U' :: '+' :: (List.replicate (4 - digits.length) '0' ++ digits))

def finding? (index : Nat) (c : Char) : Option Finding :=
  (classify c).map fun (hazard, meaning) => ⟨c, codePoint c.toNat, index, hazard, meaning⟩

/-- one character further: the offset behind it, and the findings so far, last first -/
def scanStep (seen : Nat × List Finding) (c : Char) : Nat × List Finding :=
  (seen.1 + c.utf8Size, (finding? seen.1 c).toList ++ seen.2)

def findings (text : String) : List Finding :=
  (text.toList.foldl scanStep (0, [])).2.reverse

/-- the message that the tag characters of a text spell -/
def smuggled (text : String) : String :=
  String.join (((findings text).filter fun f => f.hazard == .tag).map (·.meaning))

/-! ## Screening and cleaning -/

/-- why a description is refused -/
inductive Alarm where
  /-- it holds this many hidden characters -/
  | hidden (count : Nat)
  /-- it has this many octets, more than can be cleaned -/
  | tooLarge (size : Nat)
  deriving DecidableEq, Repr

/-- the octets of the longest text that is cleaned -/
def sizeLimit : Nat := 1048576

def Alarm.message : Alarm → String
  | .hidden count => "ALERT: " ++ toString count ++ " hidden characters detected in tool description text"
  | .tooLarge size => "content too large: " ++ toString size ++ " bytes (max: " ++ toString sizeLimit ++ ")"

/-- refuses a text with hidden characters, saying only how many there are -/
def screen (text : String) : Except Alarm Unit :=
  let count := (findings text).length
  if count = 0 then .ok () else .error (.hidden count)

/-- control characters: U+0000 to U+001F and U+007F to U+009F -/
def isControl (c : Char) : Bool :=
  c.toNat < 0x20 || (0x7F ≤ c.toNat && c.toNat < 0xA0)

/-- whether cleaning leaves a character in: line feed, carriage return, tab, and what is neither a control nor hidden -/
def isKept (c : Char) : Bool :=
  if c = '\n' || c = '\r' || c = '\t' then true
  else if isControl c then false
  else (classify c).isNone

/-- the text without hidden characters and stray controls -/
def clean (text : String) : Except Alarm String :=
  if sizeLimit < text.utf8ByteSize then .error (.tooLarge text.utf8ByteSize)
  else .ok (String.ofList (text.toList.filter isKept))

end HiddenText

end ToolGateway
