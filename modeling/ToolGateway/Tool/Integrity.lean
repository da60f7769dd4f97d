import ToolGateway.Tool
import ToolGateway.Registry.Fault
import ToolGateway.Json.Canonical

/-!
The two hashes of a tool.

`checksum` is the digest of name, description and input schema together, `fingerprint` that of the input schema alone.
Both are taken of the canonical form, so the order of members and the spelling of integers do not count. `stamped`
writes them into a tool, and `verify` checks those that a tool carries.
-/

namespace ToolGateway.Tool

/-- what the checksum is taken of; a missing input schema counts as `null` -/
def projection (t : Tool) : Json :=
  .object [("description", .string t.description), ("inputSchema", t.inputSchema.getD .null), ("name", .string t.name)]

/-- the digest of name, description and input schema -/
def checksum (t : Tool) : String :=
  t.projection.hexDigest

/-- the digest of the input schema -/
def fingerprint (t : Tool) : Except RegistryFault String :=
  match t.inputSchema with
  | some schema => .ok schema.hexDigest
  | none => .error (.missingSchema t.name)

def withChecksum (t : Tool) (checksum : String) : Tool :=
  { t with stamp := { t.stamp with checksum } }

def withSignature (t : Tool) (signature : String) : Tool :=
  { t with stamp := { t.stamp with signature } }

/-- the tool with both hashes written anew -/
def stamped (t : Tool) : Except RegistryFault Tool := do
  let signature ← t.fingerprint
  return (t.withChecksum t.checksum).withSignature signature

/-- refuses a checksum that is not the one of the content; `name` is the name to report -/
def checkChecksum (t : Tool) (name : String) : Except RegistryFault Unit :=
  if t.checksum = t.stamp.checksum then .ok ()
  else .error (.checksumMismatch name t.stamp.checksum t.checksum)

/-- refuses a fingerprint that is not the one of the input schema; `name` is the name to report -/
def checkSignature (t : Tool) (name : String) : Except RegistryFault Unit := do
  let computed ← t.fingerprint
  if computed = t.stamp.signature then .ok ()
  else .error (.fingerprintMismatch name t.stamp.signature computed)

/-- checks the hashes that the tool carries, the checksum first; a missing one is not checked -/
def verify (t : Tool) : Except RegistryFault Unit := do
  if !t.stamp.checksum.isEmpty then t.checkChecksum t.name
  if !t.stamp.signature.isEmpty then t.checkSignature t.name

end ToolGateway.Tool
