import ToolGateway.Configuration.Setting
import ToolGateway.Configuration.Escape
import ToolGateway.Text.Blank

/-!
Settings from variables.

The name of a variable, less a common start and without regard to case, is a path of names with two low lines, or a
point, between them. Its value is read by its look: a truth value, a number, a text in quotes, a list, a group;
anything else is the text itself.
-/

namespace ToolGateway.Variable

/-- blanks within values -/
def isBlank (c : Char) : Bool :=
  c = ' ' || c = '\t' || c = '\n' || c = '\r' || c = '\x0c'

/-- whether a character ends a plain value inside a list or a group -/
def isSeparator (c : Char) : Bool :=
  c = ',' || c = '\x7b' || c = '\x7d' || c = '[' || c = ']'

/-! ## Plain values -/

/-- the value of decimal digits, none for no digits -/
def digitsNumber? (digits : List Char) : Option Nat :=
  if digits ≠ [] ∧ digits.all Char.isDigit then some (digits.foldl (fun n c => n * 10 + (c.toNat - 0x30)) 0) else none

/-- a number without a minus sign that fits in 64 bits -/
def natural? (text : List Char) : Option Setting :=
  let digits := match text with
    | '+' :: rest => rest
    | _ => text
  match digitsNumber? digits with
  | some n => if n < 0x10000000000000000 then some (.natural n) else none
  | none => none

/-- a number with a minus sign that fits in 64 bits -/
def negative? : List Char → Option Setting
  | '-' :: digits =>
    match digitsNumber? digits with
    | some n => if n ≤ 0x8000000000000000 then some (.integer (-n)) else none
    | none => none
  | _ => none

/-- the power of ten behind an `e`, zero when there is none -/
def exponent? : List Char → Option Int
  | [] => some 0
  | e :: rest =>
    if e = 'e' ∨ e = 'E' then
      match rest with
      | '-' :: digits => (digitsNumber? digits).map fun n => -(n : Int)
      | '+' :: digits => (digitsNumber? digits).map fun n => (n : Int)
      | digits => (digitsNumber? digits).map fun n => (n : Int)
    else none

/-- a decimal, with digits on at least one side of its point -/
def decimal? (text : List Char) : Option Setting :=
  let (isNegative, body) := match text with
    | '-' :: rest => (true, rest)
    | '+' :: rest => (false, rest)
    | _ => (false, text)
  let whole := body.takeWhile Char.isDigit
  match body.dropWhile Char.isDigit with
  | '.' :: rest =>
    let fraction := rest.takeWhile Char.isDigit
    match digitsNumber? (whole ++ fraction), exponent? (rest.dropWhile Char.isDigit) with
    | some n, some e =>
      some (((Binary64.ofDecimal? isNegative n (e - fraction.length)).map Setting.real).getD
        (.nonFinite (if isNegative then "-inf" else "inf")))
    | _, _ => none
  | _ => none

/-- a value without quotes or brackets -/
def plain (text : List Char) : Setting :=
  ((if text.contains '.' then decimal? text else none) <|> natural? text <|> negative? text).getD
    (.text (String.ofList text))

/-! ## Values of any kind -/

/-- a text up to the closing quote -/
def readQuoted? : Nat → List Char → Option (List Char × List Char)
  | 0, _ => none
  | fuel + 1, text =>
    match text with
    | '"' :: rest => some ([], rest)
    | '\\' :: rest =>
      match Setting.readEscape? rest with
      | some (c, rest) => (readQuoted? fuel rest).map fun (cs, rest) => (c :: cs, rest)
      | none => none
    | c :: rest => (readQuoted? fuel rest).map fun (cs, rest) => (c :: cs, rest)
    | [] => none

/-- the name of an entry of a group, in quotes or plain -/
def readName? (text : List Char) : Option (String × List Char) :=
  match text.dropWhile isBlank with
  | '"' :: rest => (readQuoted? (rest.length + 1) rest).map fun (cs, rest) => (String.ofList cs, rest)
  | text =>
    let isPart (c : Char) : Bool := c.isAlphanum || c = '_' || c = '-'
    match text.takeWhile isPart with
    | [] => none
    | name => some (String.ofList name, text.dropWhile isPart)

mutual

def readValue? : Nat → List Char → Option (Setting × List Char)
  | 0, _ => none
  | fuel + 1, text =>
    match text.dropWhile isBlank with
    | 't' :: 'r' :: 'u' :: 'e' :: rest => some (.flag true, rest)
    | 'f' :: 'a' :: 'l' :: 's' :: 'e' :: rest => some (.flag false, rest)
    | '[' :: rest => (readItems? fuel true rest).map fun (items, rest) => (.list items, rest)
    | '\x7b' :: rest => (readEntries? fuel true rest).map fun (entries, rest) =>
      (.group (Setting.mergeEntries [] entries), rest)
    | '"' :: rest => (readQuoted? (rest.length + 1) rest).map fun (cs, rest) => (.text (String.ofList cs), rest)
    | '\x27' :: c :: '\x27' :: rest => some (.text (String.singleton c), rest)
    | text => some (plain (Text.trim (text.takeWhile (!isSeparator ·))), text.dropWhile (!isSeparator ·))

/-- values up to the closing bracket, with commas between them -/
def readItems? : Nat → Bool → List Char → Option (List Setting × List Char)
  | 0, _, _ => none
  | fuel + 1, isFirst, text =>
    match text.dropWhile isBlank, isFirst with
    | ']' :: rest, _ => some ([], rest)
    | text, true => readItem? fuel text
    | ',' :: text, false =>
      match text.dropWhile isBlank with
      | ']' :: rest => some ([], rest)
      | text => readItem? fuel text
    | _, false => none

/-- one value of a list and all after it -/
def readItem? : Nat → List Char → Option (List Setting × List Char)
  | 0, _ => none
  | fuel + 1, text =>
    match readValue? fuel text with
    | some (s, rest) => (readItems? fuel false rest).map fun (items, rest) => (s :: items, rest)
    | none => none

/-- entries up to the closing brace, with commas between them -/
def readEntries? : Nat → Bool → List Char → Option (List (String × Setting) × List Char)
  | 0, _, _ => none
  | fuel + 1, isFirst, text =>
    match text.dropWhile isBlank, isFirst with
    | '\x7d' :: rest, _ => some ([], rest)
    | text, true => readEntry? fuel text
    | ',' :: text, false =>
      match text.dropWhile isBlank with
      | '\x7d' :: rest => some ([], rest)
      | text => readEntry? fuel text
    | _, false => none

/-- one entry of a group and all after it -/
def readEntry? : Nat → List Char → Option (List (String × Setting) × List Char)
  | 0, _ => none
  | fuel + 1, text =>
    match readName? text with
    | none => none
    | some (name, rest) =>
      match rest.dropWhile isBlank with
      | '=' :: rest =>
        match readValue? fuel rest with
        | some (s, rest) => (readEntries? fuel false rest).map fun (entries, rest) => ((name, s) :: entries, rest)
        | none => none
      | _ => none

end

/-- the setting that the value of a variable gives -/
def setting (value : String) : Setting :=
  let text := Text.trim value.toList
  match readValue? (2 * text.length + 2) text with
  | some (s, rest) => if rest.all isBlank then s else .text (String.ofList text)
  | none => .text (String.ofList text)

/-! ## Names -/

/-- the parts of a name between double low lines and points; `acc` holds the characters of the current part, last
first -/
def splitName (acc : List Char) : List Char → List (List Char)
  | '_' :: '_' :: rest => acc.reverse :: splitName [] rest
  | '.' :: rest => acc.reverse :: splitName [] rest
  | c :: rest => splitName (c :: acc) rest
  | [] => [acc.reverse]

/-- a name as it is compared, without blanks around it and without regard to case -/
def lowered (name : String) : List Char :=
  (Text.trim name.toList).map Char.toLower

/-- the path that a variable sets, if its name starts with `start`; a name with an empty part sets nothing -/
def path? (start name : String) : Option (List String) :=
  let start := start.toList.map Char.toLower
  if start.isPrefixOf (lowered name) then
    let parts := splitName [] (Text.trim ((lowered name).drop start.length))
    if parts.any List.isEmpty then none else some (parts.map String.ofList)
  else none

/-- the settings of some variables, later ones over earlier ones -/
def settings (start : String) (environment : List (String × String)) : Setting :=
  environment.foldl (fun sofar (name, value) =>
    match path? start name with
    | some path => sofar.merge (.nest path (setting value))
    | none => sofar) (.group [])

end ToolGateway.Variable
