import ToolGateway.Document.Codec

/-!
The class of a failure: one of five, so that a caller can act on it without knowing every cause.
-/

namespace ToolGateway

/-- the coarse kind of a failure -/
inductive FaultClass where
  /-- malformed input, wrong sizes, incomplete payloads -/
  | structural
  /-- evidence of tampering -/
  | integrity
  /-- refused by the configured policy -/
  | policy
  /-- well formed, but against its declared contract -/
  | content
  /-- the check itself could not run -/
  | internal
  deriving DecidableEq, Repr

def FaultClass.name : FaultClass → String
  | .structural => "structural"
  | .integrity => "integrity"
  | .policy => "policy"
  | .content => "content"
  | .internal => "internal"

def FaultClass.all : List FaultClass :=
  [.structural, .integrity, .policy, .content, .internal]

def FaultClass.codec : Codec FaultClass :=
  Codec.choice (FaultClass.all.map fun c => (c.name, c)) FaultClass.name

end ToolGateway
