import ToolGateway.Crypto.Aes256

/-!
Authenticated encryption: AES-256 in Galois counter mode with a nonce of twelve octets and no associated data.

The ciphertext is the plaintext masked octet by octet with the enciphered counters, followed by a tag of sixteen octets.
`decrypt` gives the plaintext back only if the tag is the one that `tag` computes.
-/

namespace ToolGateway.Gcm

def tagSize : Nat := 16

/-- the number with these octets, highest first -/
def toNumber (bytes : Bytes) : Nat :=
  bytes.foldl (fun n b => n * 256 + b.toNat) 0

/-- the `size` lowest octets of a number, highest first -/
def ofNumber (size n : Nat) : Bytes :=
  (List.range size).map fun i => (n >>> (8 * (size - 1 - i))).toUInt8

/-- the product of two elements of the field with 2^128 elements, whose bits are read from the highest on -/
def mul (x y : Nat) : Nat :=
  ((List.range 128).foldl (fun (acc : Nat × Nat) i =>
    let (z, v) := acc
    let z := if x.testBit (127 - i) then z ^^^ v else z
    let v := if v.testBit 0 then (v >>> 1) ^^^ (0xE1 <<< 120) else v >>> 1
    (z, v)) (0, y)).1

/-- an octet string cut into blocks of sixteen, the last filled up with zeros; `count` blocks at most -/
def blocks : Nat → Bytes → List Bytes
  | 0, _ => []
  | count + 1, bytes =>
    if bytes = [] then []
    else
      let block := bytes.take 16
      (block ++ List.replicate (16 - block.length) 0) :: blocks count (bytes.drop 16)

def hash (hashKey : Nat) (ciphertext : Bytes) : Nat :=
  let lengths := ofNumber 16 (8 * ciphertext.length)
  (blocks (ciphertext.length + 1) ciphertext ++ [lengths]).foldl (fun y block => mul (y ^^^ toNumber block) hashKey) 0

def counterBlock (nonce : Bytes) (counter : Nat) : Bytes :=
  nonce ++ ofNumber 4 counter

/-- the octets that mask the first `length` octets of a text -/
def mask (keys : List Bytes) (nonce : Bytes) (length : Nat) : Bytes :=
  ((List.range ((length + 15) / 16)).flatMap fun i => Aes256.encryptBlock keys (counterBlock nonce (i + 2))).take length

def tag (keys : List Bytes) (nonce ciphertext : Bytes) : Bytes :=
  let hashKey := toNumber (Aes256.encryptBlock keys (List.replicate 16 0))
  Aes256.xor (ofNumber 16 (hash hashKey ciphertext)) (Aes256.encryptBlock keys (counterBlock nonce 1))

def encrypt (key nonce plaintext : Bytes) : Bytes :=
  let keys := Aes256.expand key
  let ciphertext := Aes256.xor plaintext (mask keys nonce plaintext.length)
  ciphertext ++ tag keys nonce ciphertext

/-- the plaintext of a ciphertext with its tag, `none` when the tag is wrong or missing -/
def decrypt (key nonce sealedText : Bytes) : Option Bytes :=
  if sealedText.length < tagSize then none
  else
    let keys := Aes256.expand key
    let ciphertext := sealedText.take (sealedText.length - tagSize)
    if tag keys nonce ciphertext = sealedText.drop (sealedText.length - tagSize) then
      some (Aes256.xor ciphertext (mask keys nonce ciphertext.length))
    else none

end ToolGateway.Gcm
