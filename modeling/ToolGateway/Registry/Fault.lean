import ToolGateway.FaultClass

/-!
Why a registry, its store or its catalog refuses.
-/

namespace ToolGateway

inductive RegistryFault where
  /-- the stored checksum is not the one of the content -/
  | checksumMismatch (name stored computed : String)
  /-- the stored fingerprint is not the one of the input schema -/
  | fingerprintMismatch (name stored computed : String)
  | unsigned (name : String)
  | notFound (name : String)
  /-- there is no input schema to take a fingerprint of -/
  | missingSchema (name : String)
  | invalidDefinition (detail : String)
  /-- a text that should hold a document does not -/
  | unreadable (error : ReadError)
  | database (detail : String)
  /-- a request got no answer -/
  | transport (detail : String)
  | catalogStatus (status : Nat)
  | catalogContent (detail : String)
  | missingCredentials
  deriving DecidableEq, Repr

namespace RegistryFault

def message : RegistryFault → String
  | checksumMismatch name _ _ => "tool checksum validation failed for '" ++ name ++ "'"
  | fingerprintMismatch name _ _ => "schema fingerprint validation failed for '" ++ name ++ "'"
  | unsigned name => "unsigned tool rejected: '" ++ name ++ "'"
  | notFound name => "tool not found: '" ++ name ++ "'"
  | missingSchema name => "tool '" ++ name ++ "' has no input schema to fingerprint"
  | invalidDefinition detail => "invalid tool definition: " ++ detail
  | unreadable error => "canonicalization error: " ++ error.message
  | database detail => "database error: " ++ detail
  | transport detail => "catalog request failed: " ++ detail
  | catalogStatus status => "received non-200 status: " ++ toString status
  | catalogContent detail => "catalog response could not be decoded: " ++ detail
  | missingCredentials => "missing tool repo credentials"

def causes : RegistryFault → List String
  | unreadable error => [error.message]
  | database detail | transport detail => [detail]
  | _ => []

/-- the number that stands for a refusal, where there is one -/
def code : RegistryFault → Option Nat
  | checksumMismatch .. => some 4001
  | fingerprintMismatch .. => some 4002
  | unsigned _ => some 4003
  | notFound _ => some 4004
  | missingSchema _ | invalidDefinition _ | unreadable _ => some 4005
  | _ => none

def faultClass : RegistryFault → FaultClass
  | checksumMismatch .. | fingerprintMismatch .. => .integrity
  | unsigned _ | notFound _ | missingSchema _ => .policy
  | invalidDefinition _ | unreadable _ | catalogStatus _ | catalogContent _ | missingCredentials => .structural
  | database _ | transport _ => .internal

def isTampering (e : RegistryFault) : Bool :=
  e.faultClass = .integrity

def emptyName : RegistryFault :=
  invalidDefinition "tool name must not be empty"

end RegistryFault

end ToolGateway
