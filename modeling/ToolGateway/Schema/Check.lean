import ToolGateway.Schema
import ToolGateway.Bytes.Base64
import ToolGateway.Json.Printer
import ToolGateway.Json.Reader

/-!
Checking a document against a compiled schema.

`Validator.violations` lists what the schema does not allow, keyword by keyword in the order of the schema. Where a
subschema speaks for the same place, as in `allOf`, its own violations are listed; where only its verdict counts, as in
`anyOf`, there is one violation.

A chain of schemas from the root of a document to a place in it applies each schema at most once to each place on the
way, unless a schema refers to itself without going deeper. That bounds the fuel, which `violations` supplies.
-/

namespace ToolGateway

namespace Violation

/-- texts with commas between them -/
def listed (texts : List String) : String :=
  String.intercalate ", " texts

def beVerb (count : Nat) : String :=
  if count = 1 then "was" else "were"

/-- the names in single quotes, and that they were not expected -/
def unexpectedNames (names : List String) : String :=
  "(" ++ listed (names.map fun name => "'" ++ name ++ "'") ++ " " ++ beVerb names.length ++ " unexpected)"

def counted (n : Nat) (singular plural : String) : String :=
  toString n ++ " " ++ (if n = 1 then singular else plural)

/-- some values as a choice; of more than three only the first two are shown -/
def choice (values : List Json) : String :=
  let texts := values.map Json.compact
  if 3 < texts.length then
    listed (texts.take 2) ++ " or " ++ toString (texts.length - 2) ++ " other candidates"
  else
    match texts.reverse with
    | [] => ""
    | [text] => text
    | last :: others => listed others.reverse ++ " or " ++ last

/-- Steps are written positionally, an integral one without a point. -/
def stepLayout : Layout := ⟨-400, 400, false⟩

/-- that a schema which allows nothing does not allow a value -/
def falseSchema (j : Json) : String :=
  "False schema does not allow " ++ j.compact

def wrongKind (names : List String) (j : Json) : String :=
  match names with
  | [name] => j.compact ++ " is not of type " ++ (Json.string name).compact
  | _ =>
    let sorted := names.mergeSort (· ≤ ·)
    j.compact ++ " is not of types " ++ listed (sorted.map fun name => (Json.string name).compact)

def missing (name : String) : String :=
  (Json.string name).compact ++ " is a required property"

/-- that a text is not what a keyword for its content asks for -/
def notCompliant (text name what : String) : String :=
  (Json.string text).compact ++ " is not compliant with \"" ++ name ++ "\" " ++ what

/-- what is wrong with a text that is to hold a JSON text, octets in base 64, or a JSON text in base 64 -/
def contentFault? (isEncoded isJson : Bool) (text : String) : Option String :=
  let badMedia := notCompliant text "application/json" "media type"
  if isEncoded then
    match Base64.decode text with
    | .error _ => some (notCompliant text "base64" "content encoding")
    | .ok octets =>
      if !isJson then none
      else match Utf8.firstFault? octets with
        | some fault => some fault
        | none => if (Json.read octets).isOk then none else some badMedia
  else if (Json.readText text).isOk then none
  else some badMedia

end Violation

/-- what leads to a place in a schema: the resources that references have come through, the last first, and the
references that are being followed for the same value -/
structure Trail where
  scopes : List String := []
  active : List String := []
  deriving Repr

namespace Trail

/-- the trail at a value inside the one before -/
def inside (t : Trail) : Trail :=
  { t with active := [] }

/-- the target of a reference, and the trail there -/
def through (t : Trail) (r : Reference) : String × Trail :=
  let enter (address : String) : List String :=
    if t.scopes.isEmpty || address != r.origin then r.origin :: t.scopes else t.scopes
  let (target, scopes) :=
    match r.route with
    | .fixed target => (target, enter r.address)
    | .outermost target choices =>
      let scopes := enter r.address
      ((scopes.reverse.findSome? fun address => choices.lookup address).getD target, scopes)
    | .back target choices =>
      match (t.scopes.takeWhile fun address => (choices.lookup address).isSome).getLast? with
      | some address => ((choices.lookup address).getD target, enter address)
      | none => (target, enter r.address)
  (target, { scopes, active := target :: t.active })

/-- whether a reference is being followed for the same value -/
def isActive (t : Trail) (target : String) : Bool :=
  t.active.contains target

end Trail

namespace Keyword

/-- whether a value is of a kind; an integer is also a number -/
def isOfKind (wholesCount : Bool) (j : Json) (name : String) : Bool :=
  match j with
  | .null => name = "null"
  | .bool _ => name = "boolean"
  | .string _ => name = "string"
  | .array _ => name = "array"
  | .object _ => name = "object"
  | .number (.int _) => name = "number" || name = "integer"
  | .number (.real x) => name = "number" || (name = "integer" && wholesCount && x.isIntegral)

section

variable (targets : Table String Schema) (check : Trail → Schema → List String → Json → List Violation)

/-- the target of a reference, unless it is being followed for the same value -/
def referred (trail : Trail) (r : Reference) : Trail × Schema :=
  let (target, next) := trail.through r
  if trail.isActive target then (next, .anything) else (next, (targets.find? target).getD .anything)

def isValid (trail : Trail) (s : Schema) (j : Json) : Bool :=
  (check trail s [] j).isEmpty

/-- one violation, unless something holds -/
def demand (holds : Bool) (path : List String) (message : String) : List Violation :=
  if holds then [] else [⟨path, message⟩]

/-- items checked by one schema, the first of them at the position `index` -/
def checkItems (trail : Trail) (s : Schema) (path : List String) (index : Nat) : List Json → List Violation
  | [] => []
  | j :: rest =>
    check trail.inside s (path ++ [toString index]) j ++ checkItems trail s path (index + 1) rest

/-- items checked by a schema each, the first of them at the position `index` -/
def checkPlaces (trail : Trail) (path : List String) (index : Nat) : List Schema → List Json → List Violation
  | s :: schemas, j :: rest =>
    check trail.inside s (path ++ [toString index]) j ++ checkPlaces trail path (index + 1) schemas rest
  | _, _ => []

/-- named members in the order of the schema -/
def checkNamed (trail : Trail) (path : List String) (members : List (String × Json))
    (named : List (String × Schema)) : List Violation :=
  named.flatMap fun (name, s) =>
    match Table.find? name members with
    | some j => check trail.inside s (path ++ [name]) j
    | none => []

/-- whether the name of a member matches one of some patterns -/
def isPatterned (patterned : List (Pattern × Schema)) (name : String) : Bool :=
  patterned.any fun (p, _) => p.isFound name

/-- the schemas of a member: the one of its name and those of the patterns that its name matches -/
def schemasOf (named : List (String × Schema)) (patterned : List (Pattern × Schema)) (name : String) : List Schema :=
  (named.lookup name).toList ++ (patterned.filter fun (p, _) => p.isFound name).map (·.2)

/-- members in their own order, each checked by all of its schemas; `rest` checks a member that has none -/
def checkMembers (trail : Trail) (path : List String) (named : List (String × Schema))
    (patterned : List (Pattern × Schema)) (rest : List String → Json → List Violation)
    (members : List (String × Json)) : List Violation :=
  members.flatMap fun (name, j) =>
    match schemasOf named patterned name with
    | [] => rest (path ++ [name]) j
    | schemas => schemas.flatMap fun s => check trail.inside s (path ++ [name]) j

/-! ## What other keywords have allowed -/

def ofSchema : Schema → List Keyword
  | .rules keywords => keywords
  | _ => []

def hasRules : Schema → Bool
  | .rules _ => true
  | _ => false

/-- The keywords, and the trails there, of the schemas that a keyword applies to the same value, as far as what these
allow counts: all schemas of `allOf` if each allows the value, those of `anyOf` that do, the one of `oneOf` if it alone
does, the test of a condition with what follows from it, and the target of a reference. A schema that allows anything or
nothing has no part in this. -/
def inPlace (trail : Trail) (j : Json) : Keyword → List (Trail × List Keyword)
  | .reference r =>
    let (next, s) := referred targets trail r
    [(next, ofSchema s)]
  | .allOf schemas =>
    let schemas := schemas.filter hasRules
    if schemas.all (isValid check trail · j) then schemas.map fun s => (trail, ofSchema s) else []
  | .anyOf schemas => (schemas.filter (isValid check trail · j)).map fun s => (trail, ofSchema s)
  | .oneOf schemas =>
    match (schemas.filter hasRules).filter (isValid check trail · j) with
    | [s] => [(trail, ofSchema s)]
    | _ => []
  | .conditional test yes no =>
    if hasRules test then
      if isValid check trail test j then (test :: yes.toList).map fun s => (trail, ofSchema s)
      else no.toList.map fun s => (trail, ofSchema s)
    else []
  | .dependents entries true =>
    (entries.filter fun (name, _) => (j.member? name).isSome).map fun (_, s) => (trail, ofSchema s)
  | _ => []

/-- whether a keyword allows a member by itself -/
def allowsMember (trail : Trail) (name : String) (j : Json) : Keyword → Bool
  | .members named => (named.lookup name).any (isValid check trail.inside · j)
  | .patternMembers patterned => isPatterned patterned name
  | .otherMembers named patterned rest =>
    (named.lookup name).any (isValid check trail.inside · j) || isPatterned patterned name ||
      isValid check trail.inside rest j
  | .onlyMembers named patterned =>
    (named.lookup name).any (isValid check trail.inside · j) || isPatterned patterned name
  | .anyMembers => true
  | .unevaluatedMembers _ rest => isValid check trail.inside rest j
  | _ => false

/-- whether a keyword allows the item at a position by itself -/
def allowsItem (trail : Trail) (position : Nat) (j : Json) : Keyword → Bool
  | .items _ _ => true
  | .noItems _ => true
  | .places schemas => position < schemas.length
  | .contains item _ _ isMark => isMark && isValid check trail.inside item j
  | .unevaluatedItems _ rest => isValid check trail.inside rest j
  | _ => false

/-- some keywords and those of the schemas that they apply in place, as far as these count, each with its trail; `fuel`
bounds how many schemas apply in place one inside the other -/
def counting (whole : Json) : Nat → Trail → List Keyword → List (Trail × Keyword)
  | 0, _, _ => []
  | fuel + 1, trail, keywords =>
    keywords.flatMap fun k =>
      (trail, k) :: (inPlace targets check trail whole k).flatMap fun (next, inner) => counting whole fuel next inner

/-! ## Keywords -/

/-- what a keyword that looks at numbers and texts does not allow -/
def scalarViolations (path : List String) (j : Json) : Keyword → List Violation
  | .kinds names wholesCount => demand (names.any (isOfKind wholesCount j)) path (Violation.wrongKind names j)
  | .options values =>
    demand (values.any (Json.same j)) path (j.compact ++ " is not one of " ++ Violation.choice values)
  | .constant value => demand (Json.isConstant j value) path (value.compact ++ " was expected")
  | .least limit isExclusive =>
    match j with
    | .number n =>
      if isExclusive then
        demand (limit.units < n.units) path
          (j.compact ++ " is less than or equal to the minimum of " ++ (Json.number limit).compact)
      else
        demand (limit.units ≤ n.units) path
          (j.compact ++ " is less than the minimum of " ++ (Json.number limit).compact)
    | _ => []
  | .greatest limit isExclusive =>
    match j with
    | .number n =>
      if isExclusive then
        demand (n.units < limit.units) path
          (j.compact ++ " is greater than or equal to the maximum of " ++ (Json.number limit).compact)
      else
        demand (n.units ≤ limit.units) path
          (j.compact ++ " is greater than the maximum of " ++ (Json.number limit).compact)
    | _ => []
  | .multiple step =>
    match j with
    | .number n =>
      demand (n.isMultipleOf step) path
        (j.compact ++ " is not a multiple of " ++ String.ofList (Violation.stepLayout.text step))
    | _ => []
  | .minLength n =>
    match j with
    | .string s =>
      demand (n ≤ s.length) path (j.compact ++ " is shorter than " ++ Violation.counted n "character" "characters")
    | _ => []
  | .maxLength n =>
    match j with
    | .string s =>
      demand (s.length ≤ n) path (j.compact ++ " is longer than " ++ Violation.counted n "character" "characters")
    | _ => []
  | .pattern text p =>
    match j with
    | .string s => demand (p.isFound s) path (j.compact ++ " does not match \"" ++ text ++ "\"")
    | _ => []
  | .format f =>
    match j with
    | .string s => demand (f.holds s) path (j.compact ++ " is not a \"" ++ f.name ++ "\"")
    | _ => []
  | .content isEncoded isJson =>
    match j with
    | .string s => ((Violation.contentFault? isEncoded isJson s).map fun fault => ⟨path, fault⟩).toList
    | _ => []
  | _ => []

/-- what a keyword that looks at lists does not allow -/
def itemViolations (fuel : Nat) (trail : Trail) (path : List String) (items : List Json) : Keyword → List Violation
  | .minItems n =>
    demand (n ≤ items.length) path
      ((Json.array items).compact ++ " has less than " ++ Violation.counted n "item" "items")
  | .maxItems n =>
    demand (items.length ≤ n) path
      ((Json.array items).compact ++ " has more than " ++ Violation.counted n "item" "items")
  | .distinctItems =>
    demand (Json.allDifferent items) path ((Json.array items).compact ++ " has non-unique elements")
  | .items start each => checkItems check trail each path start (items.drop start)
  | .places schemas => checkPlaces check trail path 0 schemas items
  | .noItems start =>
    let extra := items.drop start
    demand extra.isEmpty path
      ("Additional items are not allowed (" ++ Violation.listed (extra.map Json.compact) ++ " " ++
        Violation.beVerb extra.length ++ " unexpected)")
  | .contains item low most _ =>
    let count := (items.filter (isValid check trail.inside item)).length
    demand (low ≤ count && (most.map fun n => decide (count ≤ n)).getD true) path
      ("None of " ++ (Json.array items).compact ++ " are valid under the given schema")
  | .unevaluatedItems siblings rest =>
    let others := counting targets check (.array items) fuel trail siblings
    let isExtra (position : Nat) (j : Json) : Bool :=
      !others.any (fun (t, k) => allowsItem check t position j k) && !isValid check trail.inside rest j
    let extra := (items.zipIdx.filter fun (j, position) => isExtra position j).map (·.1)
    demand extra.isEmpty path
      ("Unevaluated items are not allowed " ++ Violation.unexpectedNames (extra.map Json.compact))
  | _ => []

/-- what a keyword that looks at members does not allow -/
def memberViolations (fuel : Nat) (trail : Trail) (path : List String) (members : List (String × Json)) :
    Keyword → List Violation
  | .minMembers n =>
    demand (n ≤ members.length) path
      ((Json.object members).compact ++ " has less than " ++ Violation.counted n "property" "properties")
  | .maxMembers n =>
    demand (members.length ≤ n) path
      ((Json.object members).compact ++ " has more than " ++ Violation.counted n "property" "properties")
  | .required names =>
    (names.filter fun name => (Table.find? name members).isNone).map fun name => ⟨path, Violation.missing name⟩
  | .members named => checkNamed check trail path members named
  | .patternMembers patterned =>
    patterned.flatMap fun (p, s) =>
      (members.filter fun (name, _) => p.isFound name).flatMap fun (name, j) =>
        check trail.inside s (path ++ [name]) j
  | .otherMembers named patterned rest =>
    checkMembers check trail path named patterned (check trail.inside rest) members
  | .onlyMembers named patterned =>
    let extra := (members.filter fun (name, _) => (schemasOf named patterned name).isEmpty).map (·.1)
    checkMembers check trail path named patterned (fun _ _ => []) members ++
      demand extra.isEmpty path ("Additional properties are not allowed " ++ Violation.unexpectedNames extra)
  | .noMembers =>
    match members with
    | [] => []
    | (_, j) :: _ => [⟨path, Violation.falseSchema j⟩]
  | .memberNames .nothing => demand members.isEmpty path (Violation.falseSchema (.object members))
  | .memberNames s => members.flatMap fun (name, _) => check trail.inside s path (.string name)
  | .dependents entries _ =>
    (entries.filter fun (name, _) => (Table.find? name members).isSome).flatMap fun (_, s) =>
      check trail s path (.object members)
  | .unevaluatedMembers siblings rest =>
    let others := counting targets check (.object members) fuel trail siblings
    let extra := members.filter fun (name, j) =>
      !others.any (fun (t, k) => allowsMember check t name j k) && !isValid check trail.inside rest j
    demand extra.isEmpty path
      ("Unevaluated properties are not allowed " ++ Violation.unexpectedNames (extra.map (·.1)))
  | _ => []

/-- what a keyword that applies schemas to the value itself does not allow -/
def placeViolations (trail : Trail) (path : List String) (j : Json) : Keyword → List Violation
  | .reference r =>
    let (next, s) := referred targets trail r
    check next s path j
  | .allOf schemas => schemas.flatMap fun s => check trail s path j
  | .anyOf schemas =>
    demand (schemas.any (isValid check trail · j)) path
      (j.compact ++ " is not valid under any of the schemas listed in the 'anyOf' keyword")
  | .oneOf schemas =>
    match schemas.filter (isValid check trail · j) with
    | [] => [⟨path, j.compact ++ " is not valid under any of the schemas listed in the 'oneOf' keyword"⟩]
    | [_] => []
    | _ => [⟨path, j.compact ++ " is valid under more than one of the schemas listed in the 'oneOf' keyword"⟩]
  | .negation source s =>
    demand (!isValid check trail s j) path (source.compact ++ " is not allowed for " ++ j.compact)
  | .conditional test yes no =>
    match (if isValid check trail test j then yes else no) with
    | some s => check trail s path j
    | none => []
  | _ => []

def violations (fuel : Nat) (trail : Trail) (path : List String) (j : Json) (k : Keyword) : List Violation :=
  scalarViolations path j k ++ placeViolations targets check trail path j k ++
    match j with
    | .array values => itemViolations targets check fuel trail path values k
    | .object fields => memberViolations targets check fuel trail path fields k
    | _ => []

end

end Keyword

/-- what a schema does not allow of a value that stands at a path -/
def Schema.violations (targets : Table String Schema) :
    Nat → Trail → Schema → List String → Json → List Violation
  | _, _, .anything, _, _ => []
  | _, _, .nothing, path, j => [⟨path, Violation.falseSchema j⟩]
  | 0, _, .rules _, _, _ => []
  | fuel + 1, trail, .rules keywords, path, j =>
    keywords.flatMap (Keyword.violations targets (Schema.violations targets fuel) fuel trail path j)

def Validator.violations (v : Validator) (document : Json) : List Violation :=
  v.schema.violations v.targets ((v.size + 1) * (document.depth + 2)) {} [] document

end ToolGateway
