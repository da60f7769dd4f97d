import ToolGateway.Schema.Draft

/-!
The schemas that the drafts of JSON Schema give for schemas.

The later drafts spread theirs over several documents, one for each part of the vocabulary. Only what a schema is
checked by is kept: titles, remarks and values for want of others are left out.
-/

namespace ToolGateway.Metaschema

/-! ## Parts of schemas -/

def object (members : List (String × Json)) : Json :=
  Json.ofMembers members

def texts (items : List String) : Json :=
  .array (items.map .string)

/-- values of one kind -/
def kind (name : String) : Json :=
  object [("type", .string name)]

def formatted (format : String) : Json :=
  object [("type", .string "string"), ("format", .string format)]

def matching (pattern : String) : Json :=
  object [("type", .string "string"), ("pattern", .string pattern)]

/-- what a reference leads to -/
def link (address : String) : Json :=
  object [("$ref", .string address)]

def any (schemas : List Json) : Json :=
  object [("anyOf", .array schemas)]

/-- lists of at least so many values of a schema -/
def list (least : Nat) (item : Json) : Json :=
  object [("type", .string "array"), ("items", item), ("minItems", .nat least)]

/-- lists of at least so many different values of a schema -/
def distinctList (least : Nat) (item : Json) : Json :=
  object [("type", .string "array"), ("items", item), ("minItems", .nat least), ("uniqueItems", .bool true)]

/-- objects whose members are of a schema -/
def table (member : Json) : Json :=
  object [("type", .string "object"), ("additionalProperties", member)]

/-- objects whose members are of a schema and have patterns for names -/
def patternTable (member : Json) : Json :=
  object [("type", .string "object"), ("additionalProperties", member),
    ("propertyNames", object [("format", .string "regex")])]

/-- the same schema for several keywords -/
def each (schema : Json) (keywords : List String) : List (String × Json) :=
  keywords.map (·, schema)

def kindNames : List String :=
  ["array", "boolean", "integer", "null", "number", "object", "string"]

/-- the definitions that keywords refer to; `root` stands for any schema, and `sameCount` for the count again, for those
keywords that count from zero on when they are left out -/
def definitions (root : Json) (countName : String) (sameCount : Json) (leastTexts : Nat) : List (String × Json) :=
  [("schemaArray", list 1 root), (countName, object [("type", .string "integer"), ("minimum", .nat 0)]),
    (countName ++ "Default0", sameCount), ("simpleTypes", object [("enum", texts kindNames)]),
    ("stringArray", distinctList leastTexts (kind "string"))]

/-- the keywords for counts, as a definition and the one with the same counts stand for them -/
def counts (defined : String → Json) (countName : String) : List (String × Json) :=
  each (defined countName) ["maxItems", "maxLength", "maxProperties"] ++
    each (defined (countName ++ "Default0")) ["minItems", "minLength", "minProperties"]

/-! ## Draft 4 to draft 7 -/

/-- any schema of the same document -/
def own : Json :=
  link "#"

/-- what a definition of the same document stands for -/
def defined (name : String) : Json :=
  link ("#/definitions/" ++ name)

/-- the keywords of texts, lists and members that the first drafts share -/
def early (countName : String) : List (String × Json) :=
  each (kind "string") ["description", "format", "title"] ++ each (kind "number") ["maximum", "minimum"] ++
    each (kind "boolean") ["uniqueItems"] ++ each (defined "schemaArray") ["allOf", "anyOf", "oneOf"] ++
    counts defined countName ++ each (table own) ["definitions", "properties"] ++
    [("$schema", formatted "uri"), ("dependencies", table (any [own, defined "stringArray"])),
      ("enum", kind "array"), ("items", any [own, defined "schemaArray"]), ("not", own),
      ("pattern", formatted "regex"), ("required", defined "stringArray"),
      ("type", any [defined "simpleTypes", distinctList 1 (defined "simpleTypes")])]

def earlyDefinitions (countName : String) (leastTexts : Nat) : Json :=
  object (definitions own countName (object [("allOf", .array [defined countName, object []])]) leastTexts)

def draft04 : Json :=
  object [("$schema", .string (Draft.address .draft04 ++ "#")), ("id", .string (Draft.address .draft04 ++ "#")),
    ("definitions", earlyDefinitions "positiveInteger" 1),
    ("dependencies",
      object [("exclusiveMaximum", texts ["maximum"]), ("exclusiveMinimum", texts ["minimum"])]),
    ("properties", object (early "positiveInteger" ++
      each (any [kind "boolean", own]) ["additionalItems", "additionalProperties"] ++
      each (kind "boolean") ["exclusiveMaximum", "exclusiveMinimum"] ++
      [("default", object []), ("id", kind "string"), ("patternProperties", table own),
        ("multipleOf", object [("type", .string "number"), ("minimum", .nat 0), ("exclusiveMinimum", .bool true)])])),
    ("type", .string "object")]

/-- the schema of a draft after draft 4, with some keywords of its own -/
def afterDraft04 (d : Draft) (more : List (String × Json)) : Json :=
  object [("$schema", .string (d.address ++ "#")), ("$id", .string (d.address ++ "#")),
    ("definitions", earlyDefinitions "nonNegativeInteger" 0),
    ("properties", object (early "nonNegativeInteger" ++
      each own ["additionalItems", "additionalProperties", "contains", "propertyNames"] ++
      each (kind "number") ["exclusiveMaximum", "exclusiveMinimum"] ++
      each (formatted "uri-reference") ["$id", "$ref"] ++
      [("examples", kind "array"), ("patternProperties", patternTable own),
        ("multipleOf", object [("type", .string "number"), ("exclusiveMinimum", .nat 0)])] ++ more)),
    ("type", texts ["object", "boolean"])]

def draft06 : Json :=
  afterDraft04 .draft06 []

def draft07 : Json :=
  afterDraft04 .draft07
    (each own ["else", "if", "then"] ++ each (kind "boolean") ["readOnly", "writeOnly"] ++
      each (kind "string") ["$comment", "contentEncoding", "contentMediaType"])

/-! ## Draft 2019-09 and draft 2020-12 -/

/-- any schema of a draft -/
def whole : Draft → Json
  | .draft2019 => object [("$recursiveRef", .string "#")]
  | _ => object [("$dynamicRef", .string "#meta")]

/-- the mark by which references to any schema find the outermost document -/
def mark : Draft → String × Json
  | .draft2019 => ("$recursiveAnchor", .bool true)
  | _ => ("$dynamicAnchor", .string "meta")

def document (d : Draft) (address : String) (keywords others : List (String × Json)) : Json :=
  object ([("$schema", .string d.address), ("$id", .string address), mark d,
    ("type", texts ["object", "boolean"]), ("properties", object keywords)] ++ others)

/-- what a definition of a document stands for -/
def localPart (name : String) : Json :=
  link ("#/$defs/" ++ name)

/-- the keywords that belong to no vocabulary of their own -/
def coreKeywords (d : Draft) : List (String × Json) :=
  let anchor (first others : String) : Json := matching ("^[" ++ first ++ "][" ++ others ++ "]*$")
  [("$id", object [("type", .string "string"), ("format", .string "uri-reference"),
      ("pattern", .string "^[^#]*#?$")]),
    ("$schema", formatted "uri"), ("$ref", formatted "uri-reference"), ("$comment", kind "string"),
    ("$defs", table (whole d)),
    ("$vocabulary", object [("type", .string "object"), ("propertyNames", formatted "uri"),
      ("additionalProperties", kind "boolean")])] ++
    if d = .draft2019 then
      [("$anchor", anchor "A-Za-z" "-A-Za-z0-9.:_"), ("$recursiveRef", formatted "uri-reference"),
        ("$recursiveAnchor", kind "boolean")]
    else
      each (link "#/$defs/anchorString") ["$anchor", "$dynamicAnchor"] ++
        [("$dynamicRef", formatted "uri-reference")]

def coreDefinitions : Draft → List (String × Json)
  | .draft2019 => []
  | _ => [("anchorString", matching "^[A-Za-z_][-A-Za-z0-9._]*$"), ("uriString", formatted "uri"),
      ("uriReferenceString", formatted "uri-reference")]

/-- the keywords that apply schemas -/
def applicators (d : Draft) : List (String × Json) :=
  each (whole d)
      ["additionalProperties", "contains", "else", "if", "not", "propertyNames", "then"] ++
    each (localPart "schemaArray") ["allOf", "anyOf", "oneOf"] ++
    each (table (whole d)) ["dependentSchemas", "properties"] ++ [("patternProperties", patternTable (whole d))] ++
    if d = .draft2019 then
      each (whole d) ["additionalItems", "unevaluatedItems", "unevaluatedProperties"] ++
        [("items", any [whole d, localPart "schemaArray"])]
    else [("items", whole d), ("prefixItems", localPart "schemaArray")]

/-- the keywords that compare values -/
def comparisons : List (String × Json) :=
  each (kind "number") ["exclusiveMaximum", "exclusiveMinimum", "maximum", "minimum"] ++
    counts localPart "nonNegativeInteger" ++ each (localPart "nonNegativeInteger") ["maxContains", "minContains"] ++
    [("dependentRequired", table (localPart "stringArray")), ("enum", kind "array"),
      ("multipleOf", object [("type", .string "number"), ("exclusiveMinimum", .nat 0)]),
      ("pattern", formatted "regex"), ("required", localPart "stringArray"), ("uniqueItems", kind "boolean"),
      ("type", any [localPart "simpleTypes", distinctList 1 (localPart "simpleTypes")])]

/-- the parts of the vocabulary of a draft: the names of their documents, their keywords and their definitions -/
def vocabulary (d : Draft) : List (String × List (String × Json) × List (String × Json)) :=
  let all := definitions (whole d) "nonNegativeInteger" (localPart "nonNegativeInteger") 0
  [("core", coreKeywords d, coreDefinitions d),
    ("applicator", applicators d, all.filter fun entry => entry.1 = "schemaArray"),
    ("validation", comparisons, all.filter fun entry => entry.1 ≠ "schemaArray"),
    ("meta-data", each (kind "string") ["description", "title"] ++
      each (kind "boolean") ["deprecated", "readOnly", "writeOnly"] ++ [("examples", kind "array")], []),
    ("content", each (kind "string") ["contentEncoding", "contentMediaType"] ++ [("contentSchema", whole d)], []),
    (if d = .draft2019 then "format" else "format-annotation", [("format", kind "string")], [])] ++
    if d = .draft2019 then []
    else [("unevaluated", each (whole d) ["unevaluatedItems", "unevaluatedProperties"], [])]

/-- the address of the folder of the documents of a draft -/
def folder : Draft → String
  | .draft2019 => Draft.documentAddress "https" "draft/2019-09/"
  | _ => Draft.documentAddress "https" "draft/2020-12/"

/-- the order in which the schema of a draft refers to the parts of its vocabulary -/
def partNames (d : Draft) : List String :=
  if d = .draft2019 then ["core", "applicator", "validation", "meta-data", "format", "content"]
  else ["core", "applicator", "unevaluated", "validation", "meta-data", "format-annotation", "content"]

/-- the schema of a draft, which refers to the parts of its vocabulary -/
def root (d : Draft) : Json :=
  document d d.address
    ([("definitions", table (whole d)),
      ("dependencies", table (any [whole d, link "meta/validation#/$defs/stringArray"]))] ++
      if d = .draft2019 then []
      else [("$recursiveAnchor", link "meta/core#/$defs/anchorString"),
        ("$recursiveRef", link "meta/core#/$defs/uriReferenceString")])
    [("allOf", .array ((partNames d).map fun name => link ("meta/" ++ name)))]

/-- the documents of a draft by their addresses -/
def parts (d : Draft) : List (String × Json) :=
  (d.address, root d) :: (vocabulary d).map fun (name, keywords, definitions) =>
    let address := folder d ++ "meta/" ++ name
    (address, document d address keywords (if definitions.isEmpty then [] else [("$defs", object definitions)]))

/-- all documents, with their drafts and their addresses -/
def documents : List (Draft × String × Json) :=
  [(.draft04, Draft.address .draft04, draft04), (.draft06, Draft.address .draft06, draft06),
    (.draft07, Draft.address .draft07, draft07)] ++
    (parts .draft2019).map (.draft2019, ·) ++ (parts .draft2020).map (.draft2020, ·)

end ToolGateway.Metaschema
