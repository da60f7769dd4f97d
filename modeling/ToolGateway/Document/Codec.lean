import ToolGateway.Json.Skip

/-!
Documents of a type: how they are read from text, read from a JSON value, and written.

A `Codec α` holds all three. Reading from text goes through the text once, so the first fault met is reported, be it a
fault of the text or a misfit of the document. A misfit has its place where the reading of the innermost scalar or
container around it ends: `Halt.unplaced` carries it there.
-/

namespace ToolGateway

/-- why reading a document from text stopped -/
inductive Halt where
  | placed (error : ReadError)
  /-- a misfit that the container around it will place, found when the cursor stood at `reached` -/
  | unplaced (cause : Misfit) (reached : Cursor)
  deriving DecidableEq, Repr

/-- the fault with its place; a misfit that nothing encloses is placed where it was found -/
def Halt.error : Halt → ReadError
  | .placed e => e
  | .unplaced cause reached => reached.errorHere (.misfit cause)

/-- why a JSON value is no document of a type, and the names of the fields that lead to the fault -/
structure Refusal where
  path : List String
  cause : Misfit
  deriving DecidableEq, Repr

/-- the refusal seen from one field further out -/
def Refusal.within (name : String) (r : Refusal) : Refusal :=
  { r with path := name :: r.path }

/-- how documents of type `α` are read and written -/
structure Codec (α : Type) where
  /-- reads one document; the number is how many containers may still be opened -/
  fromText : Nat → Cursor → Except Halt (α × Cursor)
  fromJson : Json → Except Refusal α
  toJson : α → Json
  /-- what a field of this type is when it is left out and has no fallback of its own -/
  ifMissing : Option α

/-- a text reader as a reader of documents -/
def placing {α : Type} (r : Except ReadError α) : Except Halt α :=
  r.mapError .placed

namespace Cursor

/-- past a scalar, saying what it is; at a container, saying which -/
def readFound (c : Cursor) : Except ReadError (Found × Cursor) :=
  let c := c.skipBlanks
  match c.peek? with
  | none => c.fail .endInValue
  | some b =>
    if b = 0x6E then do
      let c ← c.step.readWord [0x75, 0x6C, 0x6C]
      return (.unit, c)
    else if b = 0x74 then do
      let c ← c.step.readWord [0x72, 0x75, 0x65]
      return (.flag true, c)
    else if b = 0x66 then do
      let c ← c.step.readWord [0x61, 0x6C, 0x73, 0x65]
      return (.flag false, c)
    else if b = 0x2D then do
      let (n, c) ← c.step.readNumber true
      return ((Json.number n).found, c)
    else if isDigit b then do
      let (n, c) ← c.readNumber false
      return ((Json.number n).found, c)
    else if b = 0x22 then do
      let (s, c) ← c.step.readString
      return (.text s, c)
    else if b = 0x5B then .ok (.list, c)
    else if b = 0x7B then .ok (.map, c)
    else c.failAhead .noValue

def closeList (c : Cursor) : Except ReadError Cursor :=
  let c := c.skipBlanks
  match c.peek? with
  | none => c.fail .endInList
  | some b =>
    if b = 0x5D then .ok c.step
    else if b = 0x2C then
      let c := c.step.skipBlanks
      if c.peek? = some 0x5D then c.failAhead .trailingComma else c.failAhead .trailingText
    else c.failAhead .trailingText

/-- where looking for the closing bracket of a list ends, found or not -/
def pastList (c : Cursor) : Cursor :=
  let c := c.skipBlanks
  if c.peek? = some 0x5D then c.step
  else if c.peek? = some 0x2C then c.step.skipBlanks
  else c

def closeObject (c : Cursor) : Except ReadError Cursor :=
  let c := c.skipBlanks
  match c.peek? with
  | none => c.fail .endInObject
  | some b =>
    if b = 0x7D then .ok c.step
    else if b = 0x2C then c.failAhead .trailingComma
    else c.failAhead .trailingText

/-- where looking for the closing brace of an object ends, found or not -/
def pastObject (c : Cursor) : Cursor :=
  let c := c.skipBlanks
  if c.peek? = some 0x7D then c.step else c

/-- closes a list after its content, or places the misfit found in it -/
def inList {α : Type} : Except Halt (α × Cursor) → Except Halt (α × Cursor)
  | .ok (a, c) => (placing c.closeList).map (a, ·)
  | .error (.placed e) => .error (.placed e)
  | .error (.unplaced cause reached) => .error (.placed (reached.pastList.errorHere (.misfit cause)))

/-- closes an object after its content, or places the misfit found in it -/
def inObject {α : Type} : Except Halt (α × Cursor) → Except Halt (α × Cursor)
  | .ok (a, c) => (placing c.closeObject).map (a, ·)
  | .error (.placed e) => .error (.placed e)
  | .error (.unplaced cause reached) => .error (.placed (reached.pastObject.errorHere (.misfit cause)))

end Cursor

namespace Codec

variable {α β : Type}

/-! ## Scalars -/

/-- a type whose documents are scalars, told apart by what stands there -/
def scalar (judge : Found → Except Misfit α) (toJson : α → Json) : Codec α where
  fromText _ c := do
    let (found, c) ← placing c.readFound
    match judge found with
    | .ok a => return (a, c)
    | .error cause => throw (.placed (c.errorHere (.misfit cause)))
  fromJson j := (judge j.found).mapError (⟨[], ·⟩)
  toJson := toJson
  ifMissing := none

/-- texts; `expected` words what was expected -/
def textNamed (expected : String) : Codec String :=
  scalar (fun found => match found with
    | .text s => .ok s
    | _ => .error (.wrongType found expected)) Json.string

def text : Codec String :=
  textNamed "a string"

/-- truth values -/
def flag : Codec Bool :=
  scalar (fun found => match found with
    | .flag b => .ok b
    | _ => .error (.wrongType found "a boolean")) Json.bool

/-- natural numbers; `expected` words what was expected -/
def count (expected : String) : Codec Nat :=
  scalar (fun found => match found with
    | .integer i => if 0 ≤ i then .ok i.toNat else .error (.wrongValue found expected)
    | _ => .error (.wrongType found expected)) Json.nat

/-- single characters, as texts of length one -/
def glyph : Codec Char :=
  scalar (fun found => match found with
    | .text s =>
      match s.toList with
      | [c] => .ok c
      | _ => .error (.wrongValue found "a character")
    | _ => .error (.wrongType found "a character")) fun c => Json.string (String.singleton c)

/-- `null` -/
def unit : Codec Unit :=
  scalar (fun found => match found with
    | .unit => .ok ()
    | _ => .error (.wrongType found "unit")) fun _ => Json.null

/-! ## Free values, optional values -/

/-- any JSON value -/
def free : Codec Json where
  fromText depth c := placing (c.readJson depth)
  fromJson j := .ok j
  toJson j := j
  ifMissing := none

/-- a document or `null` -/
def optional (inner : Codec α) : Codec (Option α) where
  fromText depth c :=
    let c := c.skipBlanks
    if c.peek? = some 0x6E then do
      let c ← placing (c.step.readWord [0x75, 0x6C, 0x6C])
      return (none, c)
    else do
      let (a, c) ← inner.fromText depth c
      return (some a, c)
  fromJson j := if j.isNull then .ok none else (inner.fromJson j).map some
  toJson a := (a.map inner.toJson).getD .null
  ifMissing := some none

/-- a document in another form: `view` may refuse what `inner` reads, and `form` is what is written -/
def through (inner : Codec α) (view : α → Except Misfit β) (form : β → α) : Codec β where
  fromText depth c := do
    let (a, c) ← inner.fromText depth c
    match view a with
    | .ok b => return (b, c)
    | .error cause => throw (.unplaced cause c)
  fromJson j := do
    let a ← inner.fromJson j
    (view a).mapError (⟨[], ·⟩)
  toJson b := inner.toJson (form b)
  ifMissing := none

/-! ## Lists and dictionaries -/

/-- items up to the closing bracket -/
def readItems (inner : Codec α) (depth : Nat) : Nat → Bool → Cursor → Except Halt (List α × Cursor)
  | 0, _, c => .error (.placed (c.errorHere .endInList))
  | fuel + 1, isFirst, c => do
    let (more, c) ← placing (c.nextItem isFirst)
    if more then
      let (a, c) ← inner.fromText depth c
      let (items, c) ← readItems inner depth fuel false c
      return (a :: items, c)
    else return ([], c)

/-- the documents of some values, counting positions from `index` -/
def itemsFromJson (inner : Codec α) (index : Nat) : List Json → Except Refusal (List α)
  | [] => .ok []
  | j :: rest => do
    let a ← (inner.fromJson j).mapError (Refusal.within (toString index))
    let items ← itemsFromJson inner (index + 1) rest
    return a :: items

def list (inner : Codec α) : Codec (List α) where
  fromText depth c := do
    let (found, c) ← placing c.readFound
    match found, depth with
    | .list, 0 => throw (.placed (c.errorAhead .tooDeep))
    | .list, depth + 1 => Cursor.inList (readItems inner depth (c.rest.length + 1) true c.step)
    | _, _ => throw (.placed (c.errorHere (.misfit (.wrongType found "a sequence"))))
  fromJson
    | .array items => itemsFromJson inner 0 items
    | j => .error ⟨[], .wrongType j.found "a sequence"⟩
  toJson items := .array (items.map inner.toJson)
  ifMissing := none

/-- entries up to the closing brace -/
def readEntries (inner : Codec α) (depth : Nat) : Nat → Bool → Cursor → Except Halt (List (String × α) × Cursor)
  | 0, _, c => .error (.placed (c.errorHere .endInObject))
  | fuel + 1, isFirst, c => do
    let (more, c) ← placing (c.nextKey isFirst)
    if more then
      let (key, c) ← placing c.step.readString
      let c ← placing c.readColon
      let (a, c) ← inner.fromText depth c
      let (entries, c) ← readEntries inner depth fuel false c
      return ((key, a) :: entries, c)
    else return ([], c)

def entriesFromJson (inner : Codec α) : List (String × Json) → Except Refusal (List (String × α))
  | [] => .ok []
  | (key, j) :: rest => do
    let a ← (inner.fromJson j).mapError (Refusal.within key)
    let entries ← entriesFromJson inner rest
    return (key, a) :: entries

/-- dictionaries from names to documents; of a repeated name the last entry counts -/
def dictionary (inner : Codec α) : Codec (Table String α) where
  fromText depth c := do
    let (found, c) ← placing c.readFound
    match found, depth with
    | .map, 0 => throw (.placed (c.errorAhead .tooDeep))
    | .map, depth + 1 =>
      let (entries, c) ← Cursor.inObject (readEntries inner depth (c.rest.length + 1) true c.step)
      return (Table.ofList entries, c)
    | _, _ => throw (.placed (c.errorHere (.misfit (.wrongType found "a map"))))
  fromJson
    | .object members => (entriesFromJson inner members).map Table.ofList
    | j => .error ⟨[], .wrongType j.found "a map"⟩
  toJson entries := .object (entries.map fun entry => (entry.1, inner.toJson entry.2))
  ifMissing := none

/-! ## Choices -/

def choose (variants : List (String × α)) (name : String) : Except Misfit α :=
  match variants.lookup name with
  | some a => .ok a
  | none => .error (.unknownVariant name (variants.map (·.1)))

def variantName (variants : List (String × α)) : Codec α :=
  scalar (fun found => match found with
    | .text s => choose variants s
    | _ => .error (.wrongType found "variant identifier")) fun _ => .null

/-- one of some named choices, given by its name or by an object whose one member, of that name, is `null` -/
def choice (variants : List (String × α)) (name : α → String) : Codec α where
  fromText depth c :=
    let c := c.skipBlanks
    match c.peek? with
    | none => .error (.placed (c.errorHere .endInValue))
    | some b =>
      if b = 0x22 then (variantName variants).fromText depth c
      else if b = 0x7B then
        match depth with
        | 0 => .error (.placed (c.errorAhead .tooDeep))
        | depth + 1 => do
          let (a, c) ← (variantName variants).fromText depth c.step
          let c ← placing c.readColon
          let (_, c) ← unit.fromText depth c
          let c := c.skipBlanks
          match c.peek? with
          | none => throw (.placed (c.errorHere .endInObject))
          | some b => if b = 0x7D then return (a, c.step) else throw (.placed (c.errorHere .noValue))
      else .error (.placed (c.errorAhead .noValue))
  fromJson
    | .string s => (choose variants s).mapError (⟨[], ·⟩)
    | .object [(s, j)] => do
      let a ← (choose variants s).mapError (⟨[], ·⟩)
      let _ ← unit.fromJson j
      return a
    | .object _ => .error ⟨[], .wrongValue .map "map with a single key"⟩
    | j => .error ⟨[], .wrongType j.found "string or map"⟩
  toJson a := .string (name a)
  ifMissing := none

/-! ## Whole texts -/

def read (codec : Codec α) (bytes : Bytes) : Except ReadError α := do
  let (a, c) ← (codec.fromText nestingLimit (Cursor.start bytes)).mapError Halt.error
  c.readEnd
  return a

def write (codec : Codec α) (a : α) : String :=
  (codec.toJson a).compact

end Codec

end ToolGateway
