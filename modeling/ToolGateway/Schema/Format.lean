import ToolGateway.Address.Idn
import ToolGateway.Address.Mailbox
import ToolGateway.Address.Uri
import ToolGateway.Pattern.Grammar
import ToolGateway.Schema.Draft

/-!
Formats that a schema may ask of a text: points in time, addresses of machines and documents, pointers into documents.

`Format.holds` says whether a text has a format. Up to draft-07 a schema asks for a format by its name; later drafts
take the keyword for a remark. Each draft knows the formats of the one before it, and a name that a draft does not know
asks for nothing.
-/

namespace ToolGateway

inductive Format where
  | date
  | time
  | dateTime
  | email
  | idnEmail
  | hostname
  | idnHostname
  | ipv4
  | ipv6
  | uri
  | uriReference
  | uriTemplate
  | iri
  | iriReference
  | jsonPointer
  | relativeJsonPointer
  | regex
  deriving DecidableEq, Repr

namespace Format

/-- the formats that every draft knows -/
def common : List (String × Format) :=
  [("date-time", dateTime), ("date", date), ("time", time), ("email", email), ("idn-email", idnEmail),
    ("hostname", hostname), ("ipv4", ipv4), ("ipv6", ipv6), ("uri", uri), ("regex", regex)]

/-- the formats that every draft after draft-04 knows besides -/
def since06 : List (String × Format) :=
  [("uri-reference", uriReference), ("uri-template", uriTemplate), ("json-pointer", jsonPointer)]

/-- the formats that every draft after draft-06 knows besides -/
def since07 : List (String × Format) :=
  [("idn-hostname", idnHostname), ("iri", iri), ("iri-reference", iriReference),
    ("relative-json-pointer", relativeJsonPointer)]

/-- the format of a name that a schema of a draft asks for -/
def named? (d : Draft) (name : String) : Option Format :=
  match d with
  | .draft04 => common.lookup name
  | .draft06 => (common ++ since06).lookup name
  | .draft07 => (common ++ since06 ++ since07).lookup name
  | _ => none

def name (f : Format) : String :=
  (((common ++ since06 ++ since07).find? fun entry => entry.2 == f).map (·.1)).getD ""

open Text

/-! ## Points in time -/

/-- Whether a character counts as a digit of a point in time: a decimal digit, or one of the six characters behind them,
which count from ten on. -/
def isClockDigit (c : Char) : Bool :=
  '0' ≤ c && c ≤ '?'

/-- a number of exactly so many digits, and what follows it -/
def readDigits? (count : Nat) (text : List Char) : Option (Nat × List Char) :=
  let digits := text.take count
  if digits.length = count ∧ digits.all isClockDigit then some (decimalValue digits, text.drop count) else none

def daysOf (year month : Nat) : Nat :=
  let isLeapYear := (year % 4 = 0 ∧ year % 100 ≠ 0) ∨ year % 400 = 0
  if month = 2 then (if isLeapYear then 29 else 28)
  else if month = 4 ∨ month = 6 ∨ month = 9 ∨ month = 11 then 30
  else 31

/-- a year, a month and a day with hyphens between them, and what follows -/
def pastDate? (text : List Char) : Option (List Char) := do
  let (year, text) ← readDigits? 4 text
  let (month, text) ← readDigits? 2 (← past? '-' text)
  let (day, text) ← readDigits? 2 (← past? '-' text)
  if 1 ≤ month ∧ month ≤ 12 ∧ 1 ≤ day ∧ day ≤ daysOf year month then some text else none

def isDate (text : List Char) : Bool :=
  pastDate? text == some []

/-- hours and minutes with a colon between them, as minutes, and what follows -/
def readMinutes? (text : List Char) : Option (Nat × List Char) := do
  let (hour, text) ← readDigits? 2 text
  let (minute, text) ← readDigits? 2 (← past? ':' text)
  if hour ≤ 23 ∧ minute ≤ 59 then some (60 * hour + minute, text) else none

/-- by how many minutes a clock is ahead of the common one, modulo a day -/
def readOffset? : List Char → Option Nat
  | ['Z'] => some 0
  | ['z'] => some 0
  | '+' :: text => (readMinutes? text).bind fun (minutes, rest) => if rest = [] then some minutes else none
  | '-' :: text => (readMinutes? text).bind fun (minutes, rest) => if rest = [] then some (1440 - minutes) else none
  | _ => none

/-- what follows a part of a second, if there is one; it has at least one digit -/
def pastFraction? : List Char → Option (List Char)
  | '.' :: c :: rest => if c.isDigit then some (rest.dropWhile Char.isDigit) else none
  | '.' :: [] => none
  | text => some text

/-- Whether a text is a time of day. The sixtieth second is there only in the last minute of the common clock. -/
def isTime (text : List Char) : Bool :=
  let checked : Option Bool := do
    let (minutes, text) ← readMinutes? text
    let (second, text) ← readDigits? 2 (← past? ':' text)
    let offset ← readOffset? (← pastFraction? text)
    return second ≤ 59 || (second = 60 && (minutes + 1440 - offset) % 1440 = 1439)
  checked.getD false

def isDateTime (text : List Char) : Bool :=
  match cut (fun c => c = 'T' || c = 't') text with
  | (day, some clock) => isDate day && isTime clock
  | (_, none) => false

/-! ## Templates and pointers -/

/-- whether a text has only characters of a kind and octets written as a per cent sign with two digits in lower case -/
def hasOnly (isPlain : Char → Bool) : List Char → Bool
  | '%' :: a :: b :: rest =>
    isHexDigit a && !a.isUpper && isHexDigit b && !b.isUpper && hasOnly isPlain rest
  | c :: rest => c ≠ '%' && isPlain c && hasOnly isPlain rest
  | [] => true

/-- whether a text is a variable of a template, with a length behind a colon, a star, or neither -/
def isTemplateVariable (text : List Char) : Bool :=
  let isName (name : List Char) : Bool :=
    name ≠ [] && hasOnly (fun c => c.isLower || c.isDigit || c = '_') name
  match cut (fun c => c = ':' || c = '*') text with
  | (name, none) => isName name
  | (name, some []) => isName name && text.getLast? = some '*'
  | (name, some (c :: digits)) =>
    isName name && (text.drop name.length).head? = some ':' && '1' ≤ c && c ≤ '9' && digits.length ≤ 3 &&
      digits.all Char.isDigit

/-- whether a text is what stands between the braces of a template -/
def isTemplateExpression (text : List Char) : Bool :=
  let names :=
    match text with
    | c :: rest => if "+#./;?&=,!@|".toList.contains c then rest else text
    | [] => []
  (parts ',' names).all isTemplateVariable

/-- whether a character may stand in a template outside braces -/
def isTemplateLiteral (c : Char) : Bool :=
  ' ' < c && !"\"'<>%\\^`\x7b|\x7d".toList.contains c

/-- whether a text is a template of an address; each step goes behind a brace, which bounds the fuel -/
def isUriTemplateWithin : Nat → List Char → Bool
  | 0, _ => false
  | fuel + 1, text =>
    match cut (· = '\x7b') text with
    | (literal, none) => hasOnly isTemplateLiteral literal
    | (literal, some rest) =>
      hasOnly isTemplateLiteral literal &&
        match cut (· = '\x7d') rest with
        | (expression, some rest) => isTemplateExpression expression && isUriTemplateWithin fuel rest
        | (_, none) => false

/-- whether a text is a template of an address -/
def isUriTemplate (text : List Char) : Bool :=
  isUriTemplateWithin (text.length + 1) text

/-- whether each tilde is followed by a zero or a one -/
def hasPointerEscapes : List Char → Bool
  | '~' :: c :: rest => (c = '0' || c = '1') && hasPointerEscapes rest
  | c :: rest => c ≠ '~' && hasPointerEscapes rest
  | [] => true

/-- whether a text is a pointer into a document: nothing, or tokens with a slash before each -/
def isJsonPointer (text : List Char) : Bool :=
  (text = [] || text.head? = some '/') && hasPointerEscapes text

/-- whether a text is a pointer from a place in a document: so many levels up, then a pointer or the question for the
name of the place -/
def isRelativeJsonPointer (text : List Char) : Bool :=
  let digits := text.takeWhile Char.isDigit
  let rest := text.dropWhile Char.isDigit
  digits ≠ [] && (digits.length = 1 || digits.head? ≠ some '0') && (rest = ['#'] || isJsonPointer rest)

def holds (f : Format) (text : String) : Bool :=
  match f with
  | date => isDate text.toList
  | time => isTime text.toList
  | dateTime => isDateTime text.toList
  | email => Address.isMailbox Address.isHostname text.toList
  | idnEmail => Address.isMailbox Address.isIdnHostname text.toList
  | hostname => Address.isHostname text.toList
  | idnHostname => Address.isIdnHostname text.toList
  | ipv4 => Address.isIpv4 text.toList
  | ipv6 => Address.isIpv6 text.toList
  | uri => Uri.isAddress false true text.toList
  | uriReference => Uri.isAddress false false text.toList
  | uriTemplate => isUriTemplate text.toList
  | iri => Uri.isAddress true true text.toList
  | iriReference => Uri.isAddress true false text.toList
  | jsonPointer => isJsonPointer text.toList
  | relativeJsonPointer => isRelativeJsonPointer text.toList
  | regex => (Pattern.settle? text).isSome

end Format

end ToolGateway
