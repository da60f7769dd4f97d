import ToolGateway.Bytes.Base64
import ToolGateway.Crypto.Gcm
import ToolGateway.Crypto.Hmac
import ToolGateway.Document.Record
import ToolGateway.FaultClass

/-!
Sealed documents.

A sealed document is a payload of three octet strings: a nonce, the ciphertext of the compact text of the document, and
a signature over both. To open one, keys and structure are checked first, then the signature, and only then is anything
deciphered: without the right signature the encryption key makes no difference.
-/

namespace ToolGateway

namespace Envelope

/-- why something cannot be sealed or opened -/
inductive Fault where
  | invalidKey (detail : String)
  | invalidInput (detail : String)
  | authenticationFailed
  | decryptionFailed
  | encryptionFailed (detail : String)
  | serialization (detail : String)
  deriving DecidableEq, Repr

namespace Fault

def message : Fault → String
  | invalidKey detail => "invalid key size: " ++ detail
  | invalidInput detail => "invalid input data for validation: " ++ detail
  | authenticationFailed => "message authentication failed"
  | decryptionFailed => "message decryption failed"
  | encryptionFailed detail => "encryption failed: " ++ detail
  | serialization detail => "payload serialization failed: " ++ detail

def faultClass : Fault → FaultClass
  | invalidKey _ | invalidInput _ => .structural
  | authenticationFailed | decryptionFailed => .integrity
  | encryptionFailed _ | serialization _ => .internal

end Fault

def keySize : Nat := 32

def nonceSize : Nat := 12

structure Payload where
  nonce : Option Bytes
  ciphertext : Option Bytes
  signature : Option Bytes
  deriving DecidableEq, Repr

/-- octets as a text in base 64, or `null` -/
def octets : Codec (Option Bytes) :=
  Codec.through (.optional .text)
    (fun
      | none => .ok none
      | some text =>
        match Base64.decode text with
        | .ok bytes => .ok (some bytes)
        | .error e => .error (.other e.message))
    (fun bytes => bytes.map Base64.encode)

def Payload.codec : Codec Payload :=
  Codec.record "SecuredPayload"
    (.field "n" octets (some none) (fun _ => false) <|
      .field "c" octets (some none) (fun _ => false) <|
      .field "s" octets (some none) (fun _ => false) .done)
    (fun (nonce, ciphertext, signature, ()) => ⟨nonce, ciphertext, signature⟩)
    (fun p => (p.nonce, p.ciphertext, p.signature, ()))

/-- the parts of a payload, all there -/
structure Parts where
  nonce : Bytes
  ciphertext : Bytes
  signature : Bytes
  deriving DecidableEq, Repr

def incomplete (detail : String) : Fault :=
  .invalidInput ("incomplete secured payload structure: " ++ detail)

/-- octets that are there and not empty -/
def present (field : Option Bytes) (detail : String) : Except Fault Bytes :=
  match field with
  | some (b :: rest) => .ok (b :: rest)
  | _ => .error (incomplete detail)

/-- the parts of a payload; each must be there, and the nonce of its size -/
def Payload.parts (p : Payload) : Except Fault Parts := do
  let nonce ← present p.nonce "nonce missing"
  if nonce.length ≠ nonceSize then throw (incomplete "nonce must be 12 bytes")
  let ciphertext ← present p.ciphertext "ciphertext missing"
  let signature ← present p.signature "signature missing"
  return ⟨nonce, ciphertext, signature⟩

/-- refuses keys of the wrong size, the encryption key first -/
def checkKeys (encryptionKey signingKey : Bytes) : Except Fault Unit :=
  if encryptionKey.length ≠ keySize then .error (.invalidKey "expected 32 bytes for AES key")
  else if signingKey = [] then .error (.invalidKey "HMAC key cannot be empty")
  else .ok ()

/-- the signature over nonce and ciphertext -/
def signature (signingKey nonce ciphertext : Bytes) : Bytes :=
  Hmac.sign signingKey (nonce ++ ciphertext)

/-- reads the payload of a text and takes it apart -/
def readParts (bytes : Bytes) : Except Fault Parts :=
  if bytes = [] then .error (.invalidInput "secured data cannot be empty")
  else
    match Payload.codec.read bytes with
    | .error e => .error (.invalidInput ("failed to decode secured payload: " ++ e.message))
    | .ok payload => payload.parts

variable {α : Type}

/-- seals a document under a nonce that has not been used before -/
def wrap (codec : Codec α) (nonce encryptionKey signingKey : Bytes) (a : α) : Except Fault Bytes := do
  checkKeys encryptionKey signingKey
  let ciphertext := Gcm.encrypt encryptionKey nonce (Utf8.encode (codec.write a))
  let payload : Payload := ⟨some nonce, some ciphertext, some (signature signingKey nonce ciphertext)⟩
  return Utf8.encode (Payload.codec.write payload)

/-- deciphers parts whose signature is right and reads the document -/
def decipher (codec : Codec α) (encryptionKey : Bytes) (p : Parts) : Except Fault α :=
  match Gcm.decrypt encryptionKey p.nonce p.ciphertext with
  | none => .error .decryptionFailed
  | some plaintext =>
    match codec.read plaintext with
    | .error e => .error (.serialization e.message)
    | .ok a => .ok a

def unwrap (codec : Codec α) (encryptionKey signingKey bytes : Bytes) : Except Fault α := do
  checkKeys encryptionKey signingKey
  let p ← readParts bytes
  if signature signingKey p.nonce p.ciphertext = p.signature then decipher codec encryptionKey p
  else throw .authenticationFailed

end Envelope

end ToolGateway
