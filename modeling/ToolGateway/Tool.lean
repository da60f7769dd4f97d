import ToolGateway.Json

/-!
Tool definitions.

A tool has a name, a description that a model reads, schemas for what goes in and what comes out, hints on how it
behaves, and a stamp: where it comes from, and the two hashes that its content is checked against.
-/

namespace ToolGateway

/-- how a tool says it behaves; nothing is checked against it -/
structure Hints where
  title : String := ""
  isReadOnly : Bool := false
  isDestructive : Bool := true
  isIdempotent : Bool := false
  isOpenWorld : Bool := true
  deriving DecidableEq, Repr

/-- where a tool comes from, and the hashes of its content -/
structure Stamp where
  source : String := ""
  /-- the fingerprint of the input schema -/
  signature : String := ""
  publicKeyId : String := ""
  version : String := ""
  /-- the checksum of name, description and input schema -/
  checksum : String := ""
  deriving DecidableEq, Repr

def Stamp.isEmpty (s : Stamp) : Bool :=
  s.source.isEmpty && s.signature.isEmpty && s.publicKeyId.isEmpty && s.version.isEmpty && s.checksum.isEmpty

/-- whether one of the two hashes is missing -/
def Stamp.isUnsigned (s : Stamp) : Bool :=
  s.checksum.isEmpty || s.signature.isEmpty

structure Tool where
  name : String := ""
  description : String := ""
  arguments : Option Json := none
  parameters : Table String Json := []
  inputSchema : Option Json := none
  outputSchema : Option Json := none
  hints : Hints := {}
  stamp : Stamp := {}

/-- the schema that a new tool gets: any object -/
def Tool.defaultSchema : Json :=
  .ofMembers [("type", .string "object"), ("properties", .object [])]

/-- a tool with this name and all else left open -/
def Tool.named (name : String) : Tool :=
  { name, inputSchema := some defaultSchema }

/-- what a listing of a registry shows -/
structure Listing where
  /-- ascending by name -/
  tools : List Tool
  isSecured : Bool
  fingerprintAlgorithm : String
  checksumAlgorithm : String

end ToolGateway
