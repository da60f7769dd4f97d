import ToolGateway.Json.Same
import ToolGateway.Pattern
import ToolGateway.Schema.Format

/-!
Compiled JSON schemas.

A schema allows anything, nothing, or what all of its keywords allow. A keyword holds what it needs to judge a value,
with its own subschemas compiled; a reference holds the name of its target, which `Validator` keeps in a table so that a
schema may refer to itself.

Where a reference leads may depend on the resources that the references before it have come through: a resource is a
schema with an address.
-/

namespace ToolGateway

/-- where a reference leads -/
inductive Route where
  | fixed (target : String)
  /-- to the outermost of some resources on the way, or else to a target of its own -/
  | outermost (target : String) (choices : List (String × String))
  /-- to the last of some resources that follow each other on the way back, or else to a target of its own -/
  | back (target : String) (choices : List (String × String))
  deriving DecidableEq, Repr

/-- a reference in one resource to another one -/
structure Reference where
  origin : String
  address : String
  route : Route
  deriving DecidableEq, Repr

mutual

inductive Schema where
  | anything
  | nothing
  | rules (keywords : List Keyword)

/-- one thing that a schema asks for -/
inductive Keyword where
  | reference (link : Reference)
  /-- the kinds a value may have; `wholesCount` says whether `1.0` is an integer -/
  | kinds (names : List String) (wholesCount : Bool)
  | options (values : List Json)
  | constant (value : Json)
  | least (limit : Number) (isExclusive : Bool)
  | greatest (limit : Number) (isExclusive : Bool)
  | multiple (step : Binary64)
  | minLength (n : Nat)
  | maxLength (n : Nat)
  | pattern (text : String) (pattern : Pattern)
  | format (format : Format)
  /-- octets written in base 64, or a JSON text, or such a text written so -/
  | content (isEncoded isJson : Bool)
  | minItems (n : Nat)
  | maxItems (n : Nat)
  | distinctItems
  /-- every item from a position on -/
  | items (start : Nat) (each : Schema)
  /-- the first items, one schema for each -/
  | places (schemas : List Schema)
  /-- no item from a position on -/
  | noItems (start : Nat)
  /-- how many items a schema has to allow; `isMark` says whether those count as allowed by this keyword -/
  | contains (item : Schema) (least : Nat) (most : Option Nat) (isMark : Bool)
  | minMembers (n : Nat)
  | maxMembers (n : Nat)
  | required (names : List String)
  | members (named : List (String × Schema))
  | patternMembers (patterned : List (Pattern × Schema))
  /-- the named members, those whose names match, and all others -/
  | otherMembers (named : List (String × Schema)) (patterned : List (Pattern × Schema)) (rest : Schema)
  /-- the named members and those whose names match, and no others -/
  | onlyMembers (named : List (String × Schema)) (patterned : List (Pattern × Schema))
  | noMembers
  | anyMembers
  | memberNames (name : Schema)
  /-- a schema for the whole value, where it has a certain member; `isMark` says whether what the schema allows counts
  as allowed by this keyword -/
  | dependents (entries : List (String × Schema)) (isMark : Bool)
  | allOf (schemas : List Schema)
  | anyOf (schemas : List Schema)
  | oneOf (schemas : List Schema)
  | negation (source : Json) (schema : Schema)
  | conditional (test : Schema) (yes no : Option Schema)
  /-- members that no other keyword, here or in place, has allowed -/
  | unevaluatedMembers (siblings : List Keyword) (rest : Schema)
  /-- items that no other keyword, here or in place, has allowed -/
  | unevaluatedItems (siblings : List Keyword) (rest : Schema)

end

instance : Inhabited Schema := ⟨.anything⟩

/-- a compiled schema with the targets of all references in it -/
structure Validator where
  schema : Schema
  targets : Table String Schema
  /-- how many values the schema and the targets were compiled from, a bound on how many schemas apply to one place of a
  document -/
  size : Nat

/-- something in a document that a schema does not allow -/
structure Violation where
  /-- the names and positions that lead to it, from the outside in -/
  path : List String
  message : String
  deriving DecidableEq, Repr

end ToolGateway
