import ToolGateway.Configuration.Setting
import ToolGateway.Configuration.Escape

/-!
Settings from TOML texts.

A text is read into statements, line by line: a table begins, a table is added to a list of tables, or a key gets a
value. `ofStatements?` then carries the statements out in order, and refuses one that defines again what is already
defined. `Toml.read?` does both; a text that is no TOML gives `none`.
-/

namespace ToolGateway.Toml

/-! ## Tables -/

/-- how a table came to be -/
inductive Origin where
  /-- its header has been read -/
  | header
  /-- the header of a table inside it has been read -/
  | implied
  /-- a dotted key goes through it -/
  | dotted
  deriving DecidableEq, Repr

/-- what a key stands for -/
inductive Entry where
  | value (setting : Setting)
  | table (origin : Origin) (entries : List (String × Entry))
  /-- a list of tables, the last one first -/
  | tables (items : List (List (String × Entry)))

/-- entries by key, in the order of their definition -/
abbrev Entries := List (String × Entry)

inductive Statement where
  | table (path : List String)
  | nextTable (path : List String)
  | assign (path : List String) (value : Setting)

def set (name : String) (entry : Entry) : Entries → Entries
  | [] => [(name, entry)]
  | (k, e) :: rest => if k = name then (k, entry) :: rest else (k, e) :: set name entry rest

/-- changes the entry at a path. Each name says whether it belongs to a dotted key: such a name goes through tables that
dotted keys have made, any other through all tables and through the last one of a list. -/
def update? (change : Option Entry → Option Entry) : List (String × Bool) → Entries → Option Entries
  | [], _ => none
  | [(name, _)], entries => (change (entries.lookup name)).map fun e => set name e entries
  | (name, isDotted) :: path, entries =>
    match entries.lookup name with
    | none => do
      let inner ← update? change path []
      return set name (.table (if isDotted then .dotted else .implied) inner) entries
    | some (.table origin inner) =>
      if isDotted ∧ origin ≠ .dotted then none
      else do
        let inner ← update? change path inner
        return set name (.table origin inner) entries
    | some (.tables (last :: earlier)) =>
      if isDotted then none
      else do
        let last ← update? change path last
        return set name (.tables (last :: earlier)) entries
    | some _ => none

/-- a value where nothing has been defined -/
def defineValue (s : Setting) : Option Entry → Option Entry
  | none => some (.value s)
  | some _ => none

/-- a table where there is none, or where only tables inside it have been defined -/
def defineTable : Option Entry → Option Entry
  | none => some (.table .header [])
  | some (.table .implied entries) => some (.table .header entries)
  | some _ => none

/-- one more table of a list -/
def defineNextTable : Option Entry → Option Entry
  | none => some (.tables [[]])
  | some (.tables items) => some (.tables ([] :: items))
  | some _ => none

/-- carries out statements; `current` is the path of the table that keys belong to -/
def run? (current : List String) (entries : Entries) : List Statement → Option Entries
  | [] => some entries
  | .table path :: rest => do
    let entries ← update? defineTable (path.map (·, false)) entries
    run? path entries rest
  | .nextTable path :: rest => do
    let entries ← update? defineNextTable (path.map (·, false)) entries
    run? path entries rest
  | .assign path value :: rest => do
    let entries ← update? (defineValue value) (current.map (·, false) ++ path.map (·, true)) entries
    run? current entries rest

mutual

def Entry.setting : Entry → Setting
  | .value s => s
  | .table _ entries => .group (settings entries)
  | .tables items => .list (listed items).reverse

def settings : List (String × Entry) → List (String × Setting)
  | [] => []
  | (name, e) :: rest => (name, e.setting) :: settings rest

/-- the settings of tables -/
def listed : List (List (String × Entry)) → List Setting
  | [] => []
  | entries :: rest => .group (settings entries) :: listed rest

end

def ofStatements? (statements : List Statement) : Option Setting :=
  (run? [] [] statements).map fun entries => .group (settings entries)

/-! ## Blanks and line ends -/

/-- blanks within a line -/
def isSpace (c : Char) : Bool :=
  c = ' ' || c = '\t'

/-- past the blanks within a line -/
def pastSpace (text : List Char) : List Char :=
  text.dropWhile isSpace

/-- whether a character may stand in a comment or a text -/
def isAllowed (c : Char) : Bool :=
  c = '\t' || (0x20 ≤ c.toNat && c.toNat ≠ 0x7F)

/-- past blanks and a comment, to the end of the line -/
def pastComment? (text : List Char) : Option (List Char) :=
  match pastSpace text with
  | '#' :: rest =>
    match rest.dropWhile isAllowed with
    | [] => some []
    | '\n' :: rest => some ('\n' :: rest)
    | _ => none
  | rest => some rest

def pastLine? (text : List Char) : Option (List Char) :=
  match pastComment? text with
  | some [] => some []
  | some ('\n' :: rest) => some rest
  | _ => none

def pastLines? : Nat → List Char → Option (List Char)
  | 0, _ => none
  | fuel + 1, text =>
    match pastComment? text with
    | some ('\n' :: rest) => pastLines? fuel rest
    | r => r

/-! ## Texts -/

/-- a text on one line, up to the closing quote -/
def readBasic? : Nat → List Char → Option (List Char × List Char)
  | 0, _ => none
  | fuel + 1, text =>
    match text with
    | '"' :: rest => some ([], rest)
    | '\\' :: rest =>
      match Setting.readEscape? rest with
      | some (c, rest) => (readBasic? fuel rest).map fun (cs, rest) => (c :: cs, rest)
      | none => none
    | c :: rest => if isAllowed c then (readBasic? fuel rest).map fun (cs, rest) => (c :: cs, rest) else none
    | [] => none

/-- a text without escapes on one line, up to the closing quote -/
def readLiteral? (text : List Char) : Option (List Char × List Char) :=
  let isInside (c : Char) : Bool := c ≠ '\x27' && isAllowed c
  match text.dropWhile isInside with
  | '\x27' :: rest => some (text.takeWhile isInside, rest)
  | _ => none

/-- the end of a text on several lines: three quotes, and up to two more before them that belong to the text -/
def closing? (quote : Char) (text : List Char) : Option (List Char × List Char) :=
  let quotes := (text.takeWhile (· == quote)).length
  if quotes < 3 then none
  else
    let kept := min (quotes - 3) 2
    some (List.replicate kept quote, text.drop (kept + 3))

/-- past a backslash at the end of a line: all blanks and line ends after it are left out -/
def pastBreak? (text : List Char) : Option (List Char) :=
  match pastSpace text with
  | '\n' :: rest => some (rest.dropWhile fun c => isSpace c || c = '\n')
  | _ => none

/-- a text on several lines, up to the closing quotes -/
def readLong? (quote : Char) : Nat → List Char → Option (List Char × List Char)
  | 0, _ => none
  | fuel + 1, text =>
    match closing? quote text with
    | some r => some r
    | none =>
      match text with
      | [] => none
      | '\\' :: rest =>
        if quote = '\x27' then (readLong? quote fuel rest).map fun (cs, rest) => ('\\' :: cs, rest)
        else
          match pastBreak? rest with
          | some rest => readLong? quote fuel rest
          | none =>
            match Setting.readEscape? rest with
            | some (c, rest) => (readLong? quote fuel rest).map fun (cs, rest) => (c :: cs, rest)
            | none => none
      | c :: rest =>
        if isAllowed c ∨ c = '\n' then (readLong? quote fuel rest).map fun (cs, rest) => (c :: cs, rest) else none

/-- past a line end that directly follows the opening quotes -/
def pastFirstLine : List Char → List Char
  | '\n' :: rest => rest
  | rest => rest

def readText? : List Char → Option (List Char × List Char)
  | '"' :: '"' :: '"' :: rest => readLong? '"' (rest.length + 1) (pastFirstLine rest)
  | '\x27' :: '\x27' :: '\x27' :: rest => readLong? '\x27' (rest.length + 1) (pastFirstLine rest)
  | '"' :: rest => readBasic? (rest.length + 1) rest
  | '\x27' :: rest => readLiteral? rest
  | _ => none

/-! ## Keys -/

/-- whether a character may stand in a key without quotes -/
def isKeyChar (c : Char) : Bool :=
  c.isAlphanum || c = '_' || c = '-'

def readKeyPart? (text : List Char) : Option (String × List Char) :=
  match text with
  | '"' :: rest => (readBasic? (rest.length + 1) rest).map fun (cs, rest) => (String.ofList cs, rest)
  | '\x27' :: rest => (readLiteral? rest).map fun (cs, rest) => (String.ofList cs, rest)
  | _ =>
    match text.takeWhile isKeyChar with
    | [] => none
    | name => some (String.ofList name, text.dropWhile isKeyChar)

/-- a key, its parts with points between them -/
def readKey? : Nat → List Char → Option (List String × List Char)
  | 0, _ => none
  | fuel + 1, text =>
    match readKeyPart? (pastSpace text) with
    | none => none
    | some (name, rest) =>
      match pastSpace rest with
      | '.' :: rest => (readKey? fuel rest).map fun (path, rest) => (name :: path, rest)
      | rest => some ([name], rest)

/-! ## Numbers, dates and times -/

/-- the digits of a numeral, which may have single low lines between them -/
def plainDigits? (isDigit : Char → Bool) : List Char → Option (List Char)
  | [] => none
  | [c] => if isDigit c then some [c] else none
  | c :: '_' :: rest => if isDigit c then (plainDigits? isDigit rest).map (c :: ·) else none
  | c :: rest => if isDigit c then (plainDigits? isDigit rest).map (c :: ·) else none

def valueOf (base : Nat) (digits : List Char) : Nat :=
  digits.foldl (fun n c => n * base + ((Hex.value? c.toNat.toUInt8).getD 0)) 0

/-- decimal digits without a needless zero in front -/
def wholeDigits? (text : List Char) : Option (List Char) :=
  match plainDigits? Char.isDigit text with
  | some ('0' :: _ :: _) => none
  | r => r

/-- an integer of 64 bits -/
def bounded (i : Int) : Option Setting :=
  if -0x8000000000000000 ≤ i ∧ i < 0x8000000000000000 then some (.integer i) else none

def splitSign : List Char → Bool × List Char
  | '-' :: rest => (true, rest)
  | '+' :: rest => (false, rest)
  | rest => (false, rest)

def integer? (text : List Char) : Option Setting :=
  let inBase (base : Nat) (isDigit : Char → Bool) (digits : List Char) : Option Setting :=
    (plainDigits? isDigit digits).bind fun digits => bounded (valueOf base digits)
  match text with
  | '0' :: 'x' :: digits => inBase 16 (fun c => c.toNat < 0x80 && (Hex.value? c.toNat.toUInt8).isSome) digits
  | '0' :: 'o' :: digits => inBase 8 (fun c => '0' ≤ c && c ≤ '7') digits
  | '0' :: 'b' :: digits => inBase 2 (fun c => c = '0' || c = '1') digits
  | _ =>
    let (isNegative, digits) := splitSign text
    (wholeDigits? digits).bind fun digits =>
      bounded (if isNegative then -(valueOf 10 digits : Int) else valueOf 10 digits)

/-- the power of ten of a numeral, from its `e` on -/
def exponent? : List Char → Option Int
  | [] => some 0
  | e :: rest =>
    if e = 'e' ∨ e = 'E' then
      let (isNegative, digits) := splitSign rest
      (plainDigits? Char.isDigit digits).map fun digits =>
        if isNegative then -(valueOf 10 digits : Int) else valueOf 10 digits
    else none

/-- a decimal with a fraction or an exponent, or the name of one that is not finite -/
def decimal? (text : List Char) : Option Setting :=
  let (isNegative, body) := splitSign text
  let isInside (c : Char) : Bool := c.isDigit || c = '_'
  if body = ['i', 'n', 'f'] then some (.nonFinite (if isNegative then "-inf" else "inf"))
  else if body = ['n', 'a', 'n'] then some (.nonFinite "NaN")
  else
    let number (whole fraction : List Char) (exponent : Int) : Option Setting :=
      some (((Binary64.ofDecimal? isNegative (valueOf 10 (whole ++ fraction)) (exponent - fraction.length)).map
        Setting.real).getD (.nonFinite (if isNegative then "-inf" else "inf")))
    match wholeDigits? (body.takeWhile isInside), body.dropWhile isInside with
    | some whole, '.' :: rest =>
      match plainDigits? Char.isDigit (rest.takeWhile isInside), exponent? (rest.dropWhile isInside) with
      | some fraction, some e => number whole fraction e
      | _, _ => none
    | some whole, e :: rest => (exponent? (e :: rest)).bind fun e => number whole [] e
    | _, _ => none

/-- a number of exactly so many digits in a range -/
def field? (count low high : Nat) (text : List Char) : Option (List Char) :=
  let digits := text.take count
  if digits.length = count ∧ digits.all Char.isDigit ∧ low ≤ valueOf 10 digits ∧ valueOf 10 digits ≤ high then
    some (text.drop count)
  else none

def past? (c : Char) : List Char → Option (List Char)
  | d :: rest => if c = d then some rest else none
  | [] => none

def pastDate? (text : List Char) : Option (List Char) :=
  field? 4 0 9999 text >>= past? '-' >>= field? 2 1 12 >>= past? '-' >>= field? 2 1 31

def pastTime? (text : List Char) : Option (List Char) := do
  let rest ← field? 2 0 23 text >>= past? ':' >>= field? 2 0 59 >>= past? ':' >>= field? 2 0 60
  match rest with
  | '.' :: rest => if (rest.head?.map Char.isDigit).getD false then some (rest.dropWhile Char.isDigit) else none
  | rest => some rest

/-- whether a text is an offset from universal time, or nothing -/
def isOffset (text : List Char) : Bool :=
  match text with
  | [] => true
  | ['Z'] => true
  | ['z'] => true
  | '+' :: rest => (field? 2 0 23 rest >>= past? ':' >>= field? 2 0 59) == some []
  | '-' :: rest => (field? 2 0 23 rest >>= past? ':' >>= field? 2 0 59) == some []
  | _ => false

def isMoment (text : List Char) : Bool :=
  match pastDate? text with
  | some [] => true
  | some (c :: rest) =>
    (c = 'T' || c = 't' || c = ' ') && ((pastTime? rest).map isOffset).getD false
  | none => pastTime? text == some []

/-- a date or a time, as a group with its written form -/
def moment? (text : List Char) : Option Setting :=
  if isMoment text then some (.group [("moment", .text (String.ofList text))]) else none

/-- whether a character may stand in a value without quotes -/
def isTokenChar (c : Char) : Bool :=
  c.isAlphanum || c = '_' || c = '-' || c = '+' || c = '.' || c = ':'

/-- a value without quotes and its text; between a date and a time there may be a blank -/
def takeToken (text : List Char) : List Char × List Char :=
  let token := text.takeWhile isTokenChar
  match text.dropWhile isTokenChar with
  | ' ' :: c :: rest =>
    if c.isDigit ∧ pastDate? token = some [] then
      (token ++ ' ' :: (c :: rest).takeWhile isTokenChar, (c :: rest).dropWhile isTokenChar)
    else (token, ' ' :: c :: rest)
  | rest => (token, rest)

/-- a value without quotes -/
def readPlain? (text : List Char) : Option (Setting × List Char) :=
  let (token, rest) := takeToken text
  let setting :=
    if token = ['t', 'r', 'u', 'e'] then some (Setting.flag true)
    else if token = ['f', 'a', 'l', 's', 'e'] then some (.flag false)
    else integer? token <|> decimal? token <|> moment? token
  setting.map (·, rest)

/-! ## Values -/

/-- the group that assignments between braces make -/
def inlineTable? (assignments : List (List String × Setting)) : Option Setting :=
  ofStatements? (assignments.map fun (path, s) => .assign path s)

mutual

def readValue? : Nat → List Char → Option (Setting × List Char)
  | 0, _ => none
  | fuel + 1, text =>
    match text with
    | '[' :: rest => (readItems? fuel rest).map fun (items, rest) => (.list items, rest)
    | '\x7b' :: rest =>
      match pastSpace rest with
      | '\x7d' :: rest => some (.group [], rest)
      | rest => do
        let (assignments, rest) ← readAssignments? fuel rest
        let s ← inlineTable? assignments
        return (s, rest)
    | '"' :: _ => (readText? text).map fun (cs, rest) => (.text (String.ofList cs), rest)
    | '\x27' :: _ => (readText? text).map fun (cs, rest) => (.text (String.ofList cs), rest)
    | _ => readPlain? text

/-- values up to the closing bracket, with commas and line ends between them -/
def readItems? : Nat → List Char → Option (List Setting × List Char)
  | 0, _ => none
  | fuel + 1, text => do
    let text ← pastLines? (text.length + 1) text
    match text with
    | ']' :: rest => some ([], rest)
    | _ =>
      let (s, rest) ← readValue? fuel text
      let rest ← pastLines? (rest.length + 1) rest
      match rest with
      | ',' :: rest =>
        let (items, rest) ← readItems? fuel rest
        return (s :: items, rest)
      | ']' :: rest => return ([s], rest)
      | _ => none

/-- assignments up to the closing brace, with commas between them -/
def readAssignments? : Nat → List Char → Option (List (List String × Setting) × List Char)
  | 0, _ => none
  | fuel + 1, text => do
    let (path, rest) ← readKey? (text.length + 1) text
    match pastSpace rest with
    | '=' :: rest =>
      let (s, rest) ← readValue? fuel (pastSpace rest)
      match pastSpace rest with
      | ',' :: rest =>
        let (assignments, rest) ← readAssignments? fuel rest
        return ((path, s) :: assignments, rest)
      | '\x7d' :: rest => return ([(path, s)], rest)
      | _ => none
    | _ => none

end

/-! ## Statements -/

/-- a statement at the start of a line -/
def readStatement? (text : List Char) : Option (Statement × List Char) :=
  match text with
  | '[' :: '[' :: rest => do
    let (path, rest) ← readKey? (rest.length + 1) rest
    match rest with
    | ']' :: ']' :: rest => return (.nextTable path, rest)
    | _ => none
  | '[' :: rest => do
    let (path, rest) ← readKey? (rest.length + 1) rest
    match rest with
    | ']' :: rest => return (.table path, rest)
    | _ => none
  | _ => do
    let (path, rest) ← readKey? (text.length + 1) text
    match rest with
    | '=' :: rest =>
      let (s, rest) ← readValue? (2 * rest.length + 2) (pastSpace rest)
      return (.assign path s, rest)
    | _ => none

/-- the statements of a text, each on a line of its own -/
def readStatements? : Nat → List Char → Option (List Statement)
  | 0, _ => none
  | fuel + 1, text => do
    let text ← pastLines? (text.length + 1) text
    match text with
    | [] => return []
    | _ =>
      let (statement, rest) ← readStatement? text
      let rest ← pastLine? rest
      let statements ← readStatements? fuel rest
      return statement :: statements

/-- the text with every line end as a single line feed -/
def plainLines : List Char → List Char
  | '\r' :: '\n' :: rest => '\n' :: plainLines rest
  | c :: rest => c :: plainLines rest
  | [] => []

def read? (text : String) : Option Setting :=
  let text := plainLines text.toList
  let text := if text.head? = some '\uFEFF' then text.tail else text
  (readStatements? (text.length + 1) text).bind ofStatements?

end ToolGateway.Toml
