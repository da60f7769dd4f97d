import ToolGateway.Json

/-!
The drafts of JSON Schema, and where a schema of each holds other schemas, its address and its anchors.

A schema says by `$schema` which draft it follows; without that it follows 2020-12.
-/

namespace ToolGateway

inductive Draft where
  | draft04
  | draft06
  | draft07
  | draft2019
  | draft2020
  deriving DecidableEq, Repr

namespace Draft

/-- the drafts by the scheme and the path of the address that names them -/
def addresses : List ((String × String) × Draft) :=
  [(("http", "draft-04/schema"), draft04), (("http", "draft-06/schema"), draft06),
    (("http", "draft-07/schema"), draft07), (("https", "draft/2019-09/schema"), draft2019),
    (("https", "draft/2020-12/schema"), draft2020)]

def documentAddress (scheme path : String) : String :=
  scheme ++ "://json-schema.org/" ++ path

def address (d : Draft) : String :=
  ((addresses.find? fun entry => entry.2 == d).map fun ((scheme, path), _) => documentAddress scheme path).getD ""

/-- a text without number signs at its end -/
def withoutHash (text : String) : String :=
  String.ofList (text.toList.reverse.dropWhile (· == '#')).reverse

def named? (given : String) : Option Draft :=
  (addresses.find? fun ((scheme, path), _) => documentAddress scheme path == withoutHash given).map (·.2)

/-- the draft that a schema inside a schema of a draft says it follows; an unknown one is refused -/
def ofSchema? (outer : Draft) (schema : Json) : Option Draft :=
  match schema.member? "$schema" with
  | some (.string given) => named? given
  | _ => some outer

/-- whether a reference overrides all that stands beside it -/
def hasLoneReferences (d : Draft) : Bool :=
  d = draft04 || d = draft06 || d = draft07

/-! ## Addresses and anchors -/

def addressKeyword : Draft → String
  | draft04 => "id"
  | _ => "$id"

/-- the address that a schema gives itself, without number signs at its end -/
def ownAddress? (d : Draft) (schema : Json) : Option String := do
  let given ← (← schema.member? d.addressKeyword).text?
  if d.hasLoneReferences && ((schema.member? "$ref").isSome || given.startsWith "#") then failure
  return withoutHash given

/-- the anchors of a schema, each with whether the outermost one of its name counts -/
def anchors (d : Draft) (schema : Json) : List (String × Bool) :=
  let given (keyword : String) : List String := ((schema.member? keyword).bind Json.text?).toList
  if d.hasLoneReferences then
    ((given d.addressKeyword).filter (·.startsWith "#")).map fun name => ((name.drop 1).toString, false)
  else
    (given "$anchor").map (·, false) ++ (if d = draft2020 then (given "$dynamicAnchor").map (·, true) else [])

/-! ## Schemas inside -/

/-- the keywords that hold a schema -/
def valueKeywords : Draft → List String
  | draft04 => ["additionalItems", "additionalProperties", "not"]
  | draft06 => ["additionalItems", "additionalProperties", "contains", "not", "propertyNames"]
  | draft07 =>
    ["additionalItems", "additionalProperties", "contains", "else", "if", "not", "propertyNames", "then"]
  | draft2019 =>
    ["additionalItems", "additionalProperties", "contains", "contentSchema", "else", "if", "not", "propertyNames",
      "then", "unevaluatedItems", "unevaluatedProperties"]
  | draft2020 =>
    ["additionalProperties", "contains", "contentSchema", "else", "if", "items", "not", "propertyNames", "then",
      "unevaluatedItems", "unevaluatedProperties"]

/-- the keywords that hold a list of schemas -/
def listKeywords : Draft → List String
  | draft2020 => ["allOf", "anyOf", "oneOf", "prefixItems"]
  | _ => ["allOf", "anyOf", "oneOf"]

/-- the keywords that hold schemas by name -/
def tableKeywords : Draft → List String
  | draft2019 | draft2020 => ["$defs", "definitions", "dependentSchemas", "patternProperties", "properties"]
  | _ => ["definitions", "patternProperties", "properties"]

/-- whether a keyword may hold a schema or something else with schemas in it -/
def isMixed (d : Draft) (keyword : String) : Bool :=
  (keyword = "items" && d ≠ draft2020) || (keyword = "dependencies" && d.hasLoneReferences)

def valuesOf : Json → List Json
  | .object members => members.map (·.2)
  | .array items => items
  | _ => []

def isObject : Json → Bool
  | .object _ => true
  | _ => false

/-- the schemas that stand directly in a schema -/
def inner (d : Draft) (schema : Json) : List Json :=
  match schema with
  | .object members => members.flatMap fun (keyword, j) =>
    if d.valueKeywords.contains keyword then [j]
    else if d.listKeywords.contains keyword || d.tableKeywords.contains keyword then valuesOf j
    else if d.isMixed keyword then
      if keyword = "dependencies" then (valuesOf j).filter isObject
      else if isObject j then [j]
      else valuesOf j
    else []
  | _ => []

end Draft

end ToolGateway
