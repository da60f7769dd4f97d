import ToolGateway.Pattern.Reader
import ToolGateway.Schema.Check
import ToolGateway.Schema.Library

/-!
Compiling JSON schemas.

Keywords are taken in the order of their names. Compiling fails on a schema that the schema of its draft does not allow,
on a pattern that cannot be read, and on a reference without a target. References are collected on the way and compiled
after the schema itself, each target once.
-/

namespace ToolGateway

/-! ## Schemas -/

namespace Schema

/-- the name of the target of a reference in the table of targets, with the place of the target -/
structure Pending where
  target : String
  place : Place

/-- compiling, with the targets of the references met so far -/
abbrev Compile (α : Type) := StateT (List Pending) Option α

/-- the highest count; a higher one counts as this one -/
def countLimit : Nat := 18446744073709551615

/-- a natural number given by any numeral -/
def count? : Json → Option Nat
  | .number n => n.whole?.bind fun i => if 0 ≤ i then some (min i.toNat countLimit) else none
  | _ => none

def texts? : Json → Option (List String)
  | .array items => items.mapM Json.text?
  | _ => none

def members? : Json → Option (List (String × Json))
  | .object members => some members
  | _ => none

/-! ## References -/

section

variable (lib : Library) (place : Place)

/-- remembers a target to be compiled later -/
def remember (target : String) (place : Place) : Compile Unit :=
  modify (⟨target, place⟩ :: ·)

def targetName (t : Library.Target) : String :=
  t.address ++ "#" ++ t.fragment

/-- the targets that the outermost resource on the way decides between, by their addresses -/
def outermostChoices (t : Library.Target) (name : String) : Compile (List (String × String)) :=
  (lib.outermostAnchors name).filterMapM fun a => do
    match Library.anchored? a t.address with
    | some place =>
      let target := place.address ++ " " ++ a.address ++ "#" ++ name
      remember target place
      return some (a.address, target)
    | none => return none

def reference (j : Json) : Compile (Option Keyword) := do
  let t ← lib.target? place.address (← j.text?)
  remember (targetName t) t.place
  let route ← match t.outermost with
    | none => pure (Route.fixed (targetName t))
    | some name => pure (Route.outermost (targetName t) (← outermostChoices lib t name))
  return some (.reference ⟨place.address, t.address, route⟩)

/-- what a reference to any schema leads to -/
def recursiveReference : Compile (Option Keyword) := do
  let t ← lib.target? place.address "#"
  remember (targetName t) t.place
  let r ← lib.resources.lookup place.address
  let route ←
    if !Library.isRecursive r then pure (Route.fixed (targetName t))
    else do
      let choices := (lib.resources.filter fun (_, r) => Library.isRecursive r).map fun (address, r) =>
        (address, (⟨address, r.draft, r.contents⟩ : Place))
      let choices ← choices.mapM fun (address, place) => do
        remember (address ++ "#") place
        return (address, address ++ "#")
      pure (Route.back (targetName t) choices)
  return some (.reference ⟨place.address, t.address, route⟩)

end

/-! ## Keywords -/

section

variable (lib : Library) (place : Place) (compile : Json → Compile Schema) (beside : List (String × Json))

def namedSchemas (j : Json) : Compile (List (String × Schema)) := do
  (← members? j).mapM fun (name, j) => do return (name, ← compile j)

/-- an object of schemas whose names are patterns -/
def patternedSchemas (j : Json) : Compile (List (Pattern × Schema)) := do
  (← members? j).mapM fun (name, j) => do return (← (Pattern.settle? name).bind Pattern.read?, ← compile j)

def listedSchemas (j : Json) : Compile (List Schema) := do
  (← j.items?).mapM compile

/-- what a schema asks for when a certain member is there: further members, or a schema -/
def dependency (j : Json) : Compile Schema :=
  match texts? j with
  | some names => return .rules [.required names]
  | none => compile j

/-- the value of a keyword beside this one -/
def sibling? (name : String) : Option Json :=
  Table.find? name beside

/-- whether `additionalProperties` does the work of `properties` and `patternProperties` as well -/
def additionalTakesAll : Bool :=
  match sibling? beside "additionalProperties" with
  | some (.bool false) => true
  | some (.object _) => true
  | _ => false

def additionalMembers (j : Json) : Compile Keyword := do
  if (match j with | .bool true => true | _ => false) then return .anyMembers
  let named ← match sibling? beside "properties" with
    | some j => namedSchemas compile j
    | none => pure []
  let patterned ← match sibling? beside "patternProperties" with
    | some j => patternedSchemas compile j
    | none => pure []
  match j with
  | .bool false =>
    if (sibling? beside "properties").isNone && (sibling? beside "patternProperties").isNone then return .noMembers
    else return .onlyMembers named patterned
  | _ => return .otherMembers named patterned (← compile j)

/-- what a limit asks for; in draft-04 another keyword says whether the limit itself is allowed -/
def limit (make : Number → Bool → Keyword) (exclusiveName : String) (j : Json) : Compile (Option Keyword) :=
  match j with
  | .number n =>
    let isMarked := match sibling? beside exclusiveName with
      | some (.bool b) => b
      | _ => false
    let isExclusive := place.draft = .draft04 && isMarked
    return some (make n isExclusive)
  | _ => failure

/-- what a limit that is not allowed itself asks for; in draft-04 it is no number but a flag -/
def exclusiveLimit (make : Number → Bool → Keyword) (j : Json) : Compile (Option Keyword) :=
  if place.draft = .draft04 then return none
  else
    match j with
    | .number n => return some (make n true)
    | _ => failure

/-- what `additionalItems` asks for: something of the items behind those with schemas of their own. Beside `items` that
is `false` nothing at all is allowed. -/
def additionalItems (j : Json) : Compile (Option Keyword) :=
  match sibling? beside "items", j with
  | some (.array _), .bool true => return none
  | some (.array items), .bool false => return some (.noItems items.length)
  | some (.array items), j => do return some (.items items.length (← compile j))
  | some (.bool false), _ => return some (.allOf [.nothing])
  | _, _ => return none

def isText (text : String) (j : Option Json) : Bool :=
  match j with
  | some (.string s) => s = text
  | _ => false

/-- what the keywords for the content of a text ask for, together; only JSON and base 64 are known -/
def content : Option Keyword :=
  match (sibling? beside "contentEncoding").isSome, (sibling? beside "contentMediaType").isSome with
  | true, true =>
    if isText "base64" (sibling? beside "contentEncoding") &&
        isText "application/json" (sibling? beside "contentMediaType") then
      some (.content true true)
    else none
  | true, false => if isText "base64" (sibling? beside "contentEncoding") then some (.content true false) else none
  | false, true =>
    if isText "application/json" (sibling? beside "contentMediaType") then some (.content false true) else none
  | false, false => none

/-- What a condition asks for. Without a consequence it asks for nothing, but what its test allows counts as allowed; it
is left out then if it cannot be compiled. -/
def condition (j : Json) : Compile (Option Keyword) := do
  let yes ← (sibling? beside "then").mapM compile
  let no ← (sibling? beside "else").mapM compile
  if yes.isNone && no.isNone then
    (do return some (.conditional (← compile j) none none)) <|> return none
  else return some (.conditional (← compile j) yes no)

/-- a keyword of a draft; `none` for one that asks for nothing -/
def keyword? (name : String) (j : Json) : Compile (Option Keyword) := do
  let d := place.draft
  let isLegacy := d.hasLoneReferences
  match name with
  | "$ref" => reference lib place j
  | "$dynamicRef" => if d = .draft2020 then reference lib place j else return none
  | "$recursiveRef" => if d = .draft2019 then recursiveReference lib place else return none
  | "additionalItems" => additionalItems compile beside j
  | "additionalProperties" => return some (← additionalMembers compile beside j)
  | "allOf" => return some (.allOf (← listedSchemas compile j))
  | "anyOf" => return some (.anyOf (← listedSchemas compile j))
  | "const" => return if d = .draft04 then none else some (.constant j)
  | "contains" =>
    if d = .draft04 then return none
    let item ← compile j
    if isLegacy then return some (.contains item 1 none false)
    let least := ((sibling? beside "minContains").bind count?).getD 1
    return some (.contains item least ((sibling? beside "maxContains").bind count?) (d = .draft2020))
  | "contentEncoding" =>
    let isFirst := (sibling? beside "contentMediaType").isNone
    return if (d = .draft06 ∨ d = .draft07) ∧ isFirst then content beside else none
  | "contentMediaType" => return if d = .draft06 ∨ d = .draft07 then content beside else none
  | "dependencies" =>
    let entries ← (← members? j).mapM fun (name, j) => do return (name, ← dependency compile j)
    return some (.dependents entries false)
  | "dependentRequired" =>
    if isLegacy then return none
    let entries ← (← members? j).mapM fun (name, j) => do return (name, ← dependency compile j)
    return some (.dependents entries false)
  | "dependentSchemas" =>
    if isLegacy then return none
    return some (.dependents (← namedSchemas compile j) true)
  | "enum" => return some (.options (← j.items?))
  | "exclusiveMaximum" => exclusiveLimit place .greatest j
  | "exclusiveMinimum" => exclusiveLimit place .least j
  | "format" => return (Format.named? d (← j.text?)).map .format
  | "if" =>
    if d = .draft04 ∨ d = .draft06 then return none
    condition compile beside j
  | "items" =>
    match j with
    | .array _ => return some (.places (← listedSchemas compile j))
    | _ =>
      let places := ((sibling? beside "prefixItems").bind Json.items?).getD []
      return some (.items places.length (← compile j))
  | "maxItems" => return some (.maxItems (← count? j))
  | "maxLength" => return some (.maxLength (← count? j))
  | "maxProperties" => return some (.maxMembers (← count? j))
  | "maximum" => limit place beside .greatest "exclusiveMaximum" j
  | "minItems" => return some (.minItems (← count? j))
  | "minLength" => return some (.minLength (← count? j))
  | "minProperties" => return some (.minMembers (← count? j))
  | "minimum" => limit place beside .least "exclusiveMinimum" j
  | "multipleOf" =>
    match j with
    | .number n => return some (.multiple n.toBinary64)
    | _ => failure
  | "not" => return some (.negation j (← compile j))
  | "oneOf" => return some (.oneOf (← listedSchemas compile j))
  | "pattern" =>
    let text ← Pattern.settle? (← j.text?)
    return some (.pattern text (← Pattern.read? text))
  | "patternProperties" =>
    if additionalTakesAll beside then return none
    return some (.patternMembers (← patternedSchemas compile j))
  | "prefixItems" => if d = .draft2020 then return some (.places (← listedSchemas compile j)) else return none
  | "properties" =>
    if additionalTakesAll beside then return none
    return some (.members (← namedSchemas compile j))
  | "propertyNames" => if d = .draft04 then return none else return some (.memberNames (← compile j))
  | "required" => return some (.required (← texts? j))
  | "type" =>
    let names ← match j with
      | .string name => pure [name]
      | j => texts? j
    if names.all Metaschema.kindNames.contains then return some (.kinds names (d ≠ .draft04 ∧ names.length = 1))
    else failure
  | "uniqueItems" =>
    match j with
    | .bool true => return some .distinctItems
    | _ => return none
  | _ => return none

def keywords (members : List (String × Json)) : Compile (List Keyword) := do
  return (← members.mapM fun (name, j) => keyword? lib place compile beside name j).filterMap id

/-- whether a keyword is the one whose name comes last -/
def isDistinctItems : Keyword → Bool
  | .distinctItems => true
  | _ => false

/-- the keyword of one name for what other keywords leave over, beside them -/
def unevaluated (name : String) (make : List Keyword → Schema → Keyword) (siblings : List Keyword) :
    Compile (List Keyword) :=
  match sibling? beside name with
  | some j => if place.draft.hasLoneReferences then return [] else return [make siblings (← compile j)]
  | none => return []

end

/-- the place of a schema, with the draft and the address that it gives itself; a draft that is not known changes
nothing -/
def entered? (place : Place) : Option Place :=
  Library.enter? { place with draft := (Draft.ofSchema? place.draft place.contents).getD place.draft }

/-- compiles a schema; `fuel` bounds how deep schemas are nested -/
def compile (lib : Library) : Nat → Place → Compile Schema
  | 0, _ => failure
  | fuel + 1, place =>
    match place.contents with
    | .bool true => return .anything
    | .bool false => return .nothing
    | .object members => do
      let place ← entered? place
      let inner (j : Json) : Compile Schema := compile lib fuel { place with contents := j }
      match Table.find? "$ref" members, place.draft.hasLoneReferences with
      | some target, true => return .rules (← reference lib place target).toList
      | _, _ =>
        let own ← keywords lib place inner members members
        let items ← unevaluated place inner members "unevaluatedItems" .unevaluatedItems own
        let names ← unevaluated place inner members "unevaluatedProperties" .unevaluatedMembers own
        let (last, first) := own.partition isDistinctItems
        return .rules (first ++ items ++ names ++ last)
    | _ => failure

/-- Compiles the targets of references, and those of the references met there, and counts the values that they are
compiled from. -/
def compileTargets (lib : Library) :
    Nat → List Pending → Table String Schema × Nat → Option (Table String Schema × Nat)
  | _, [], done => some done
  | 0, _ :: _, _ => none
  | fuel + 1, next :: rest, (table, size) =>
    if table.contains next.target then compileTargets lib fuel rest (table, size)
    else do
      let (schema, found) ← (compile lib (next.place.contents.depth + 1) next.place).run []
      compileTargets lib fuel (found ++ rest) (table.insert next.target schema, size + next.place.contents.size)

end Schema

namespace Validator

/-- how many references are followed in one schema -/
def referenceLimit : Nat := 1000000

/-- compiles the schema at a place in a library, with all that it refers to -/
def ofPlace? (lib : Library) (place : Place) : Option Validator := do
  let (schema, found) ← (Schema.compile lib (place.contents.depth + 1) place).run []
  let (targets, size) ← Schema.compileTargets lib referenceLimit found ([], place.contents.size)
  return ⟨schema, targets, size⟩

/-- the schema of a draft, compiled -/
def ofDraft? (d : Draft) : Option Validator := do
  let r ← Library.standard.resources.lookup d.address
  ofPlace? Library.standard ⟨d.address, r.draft, r.contents⟩

def ofDrafts : List (Draft × Validator) :=
  [Draft.draft04, .draft06, .draft07, .draft2019, .draft2020].filterMap fun d => (ofDraft? d).map (d, ·)

def isWellFormed (d : Draft) (schema : Json) : Bool :=
  match ofDrafts.lookup d with
  | some v => (v.violations schema).isEmpty
  | none => false

def compile? (schema : Json) : Option Validator := do
  let d ← Draft.ofSchema? .draft2020 schema
  let (lib, place) ← Library.standard.withDocument? d Library.defaultAddress schema
  if isWellFormed d schema then ofPlace? lib place else failure

end Validator

end ToolGateway
