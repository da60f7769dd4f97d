import Mathlib.Tactic
import ToolGateway.Crypto.Hmac

/-!
What is known of digests and authentication codes without looking into the compression: their length, and what it means
that two messages have the same.
-/

namespace ToolGateway

/-- a digest has thirty-two octets -/
theorem Sha256.length_digest (message : Bytes) : (digest message).length = 32 := by
  simp [digest, wordOctets]

namespace Hmac

/-- an authentication code has thirty-two octets, whatever the lengths of key and message -/
theorem length_sign (key message : Bytes) : (sign key message).length = 32 :=
  Sha256.length_digest _

/-- two messages that a key does not tell apart -/
def Collide (key a b : Bytes) : Prop :=
  a ≠ b ∧ sign key a = sign key b

end Hmac

end ToolGateway
