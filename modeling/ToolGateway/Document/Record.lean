import ToolGateway.Document.Codec

/-!
Documents with named fields.

`Fields τ δ` lists the fields of a record: `τ` is the tuple of their values, and `δ`, the draft, has an optional value
for each, filled while the members of a document come in in any order. An unknown member is passed over, a repeated one
is refused, and a field left out takes its fallback. A record may also be given as the list of its fields in order.
-/

namespace ToolGateway

/-- the fields of a record, in the order in which they are written -/
inductive Fields : Type → Type → Type 1 where
  | done : Fields Unit Unit
  /-- a field with its name, its documents, what it is when left out, and which values are not written -/
  | field {α τ δ : Type} (name : String) (codec : Codec α) (fallback : Option α) (isOmitted : α → Bool)
      (rest : Fields τ δ) : Fields (α × τ) (Option α × δ)

namespace Fields

def length {τ δ : Type} : Fields τ δ → Nat
  | done => 0
  | field _ _ _ _ rest => rest.length + 1

/-- the draft with no field filled -/
def blank {τ δ : Type} : Fields τ δ → δ
  | done => ()
  | field _ _ _ _ rest => (none, rest.blank)

/-- the values of a draft; a field that is neither filled nor has a fallback is missing -/
def finish {τ δ : Type} : Fields τ δ → δ → Except Misfit τ
  | done, _ => .ok ()
  | field name codec fallback _ rest, (filled, draft) =>
    match filled <|> fallback <|> codec.ifMissing with
    | none => .error (.missingField name)
    | some a => do
      let values ← rest.finish draft
      return (a, values)

/-- the fields that are written, as members -/
def members {τ δ : Type} : Fields τ δ → τ → List (String × Json)
  | done, _ => []
  | field name codec _ isOmitted rest, (a, values) =>
    if isOmitted a then rest.members values else (name, codec.toJson a) :: rest.members values

/-! ## From text -/

/-- reads the value of the member `key`, the cursor past the key, into the draft -/
def readMember {τ δ : Type} (key : String) (depth : Nat) (c : Cursor) : Fields τ δ → δ → Except Halt (δ × Cursor)
  | done, draft => do
    let c ← placing c.readColon
    let c ← placing c.skipValue
    return (draft, c)
  | field name codec _ _ rest, (filled, draft) =>
    if key = name then
      if filled.isSome then .error (.unplaced (.repeatedField name) c)
      else do
        let c ← placing c.readColon
        let (a, c) ← codec.fromText depth c
        return ((some a, draft), c)
    else do
      let (draft, c) ← readMember key depth c rest draft
      return ((filled, draft), c)

/-- reads members up to the closing brace -/
def readMembers {τ δ : Type} (fields : Fields τ δ) (depth : Nat) :
    Nat → Bool → δ → Cursor → Except Halt (δ × Cursor)
  | 0, _, _, c => .error (.placed (c.errorHere .endInObject))
  | fuel + 1, isFirst, draft, c => do
    let (more, c) ← placing (c.nextKey isFirst)
    if more then
      let (key, c) ← placing c.step.readString
      let (draft, c) ← readMember key depth c fields draft
      readMembers fields depth fuel false draft c
    else return (draft, c)

/-- reads a record given by its members, after the opening brace -/
def readObject {τ δ : Type} (fields : Fields τ δ) (depth : Nat) (c : Cursor) : Except Halt (τ × Cursor) := do
  let (draft, c) ← readMembers fields depth (c.rest.length + 1) true fields.blank c
  match fields.finish draft with
  | .ok values => return (values, c)
  | .error cause => throw (.unplaced cause c)

/-- reads a record given by its fields in order, after the opening bracket; the first of `fields` is the field number
`index`, and `isFirst` says that no item has been read -/
def readList {τ δ : Type} (expected : String) (depth index : Nat) (isFirst : Bool) (c : Cursor) :
    Fields τ δ → Except Halt (τ × Cursor)
  | done => .ok ((), c)
  | field _ codec fallback _ rest => do
    let (more, c) ← placing (c.nextItem isFirst)
    if more then
      let (a, c) ← codec.fromText depth c
      let (values, c) ← readList expected depth (index + 1) false c rest
      return ((a, values), c)
    else
      match fallback with
      | none => throw (.unplaced (.wrongLength index expected) c)
      | some a =>
        let (values, c) ← readList expected depth (index + 1) isFirst c rest
        return ((a, values), c)

/-! ## From values -/

/-- takes the value of the member `key` into the draft -/
def takeMember {τ δ : Type} (key : String) (j : Json) : Fields τ δ → δ → Except Refusal δ
  | done, draft => .ok draft
  | field name codec _ _ rest, (filled, draft) =>
    if key = name then
      if filled.isSome then .error ⟨[], .repeatedField name⟩
      else do
        let a ← (codec.fromJson j).mapError (Refusal.within name)
        return (some a, draft)
    else do
      let draft ← takeMember key j rest draft
      return (filled, draft)

/-- takes members one after another into the draft -/
def takeMembers {τ δ : Type} (fields : Fields τ δ) : List (String × Json) → δ → Except Refusal δ
  | [], draft => .ok draft
  | (key, j) :: rest, draft => do
    let draft ← takeMember key j fields draft
    takeMembers fields rest draft

/-- takes the fields in order from a list; the first of `fields` is the field number `index` -/
def takeList {τ δ : Type} (expected : String) (index : Nat) : Fields τ δ → List Json → Except Refusal (τ × List Json)
  | done, items => .ok ((), items)
  | field _ codec _ _ rest, j :: items => do
    let a ← (codec.fromJson j).mapError (Refusal.within (toString index))
    let (values, items) ← takeList expected (index + 1) rest items
    return ((a, values), items)
  | field _ _ fallback _ rest, [] =>
    match fallback with
    | none => .error ⟨[], .wrongLength index expected⟩
    | some a => do
      let (values, items) ← takeList expected (index + 1) rest []
      return ((a, values), items)

end Fields

/-- records with a name for messages, their fields, and the two directions between the record and the tuple of its
fields -/
def Codec.record {σ τ δ : Type} (name : String) (fields : Fields τ δ) (build : τ → σ) (parts : σ → τ) : Codec σ :=
  let expected := "struct " ++ name
  let expectedLength := expected ++ " with " ++ toString fields.length ++
    (if fields.length = 1 then " element" else " elements")
  { fromText := fun depth c => do
      let (found, c) ← placing c.readFound
      match found, depth with
      | .list, 0 => throw (.placed (c.errorAhead .tooDeep))
      | .map, 0 => throw (.placed (c.errorAhead .tooDeep))
      | .list, depth + 1 =>
        let (values, c) ← Cursor.inList (fields.readList expectedLength depth 0 true c.step)
        return (build values, c)
      | .map, depth + 1 =>
        let (values, c) ← Cursor.inObject (fields.readObject depth c.step)
        return (build values, c)
      | _, _ => throw (.placed (c.errorHere (.misfit (.wrongType found expected))))
    fromJson := fun j =>
      match j with
      | .array items => do
        let (values, left) ← fields.takeList expectedLength 0 items
        if left.isEmpty then return build values
        else throw ⟨[], .wrongLength items.length "fewer elements in array"⟩
      | .object members => do
        let draft ← fields.takeMembers members fields.blank
        let values ← (fields.finish draft).mapError (⟨[], ·⟩)
        return build values
      | _ => .error ⟨[], .wrongType j.found expected⟩
    toJson := fun s => .object (fields.members (parts s))
    ifMissing := none }

end ToolGateway
