import ToolGateway.Crypto.Sha256

/-!
Keyed authentication codes over SHA-256.
-/

namespace ToolGateway.Hmac

def blockSize : Nat := 64

/-- the key filled up to a block with zeros; a longer key is hashed first -/
def blockKey (key : Bytes) : Bytes :=
  let key := if blockSize < key.length then Sha256.digest key else key
  key ++ List.replicate (blockSize - key.length) 0

/-- the thirty-two octets that authenticate a message under a key -/
def sign (key message : Bytes) : Bytes :=
  let key := blockKey key
  Sha256.digest (key.map (· ^^^ 0x5C) ++ Sha256.digest (key.map (· ^^^ 0x36) ++ message))

end ToolGateway.Hmac
