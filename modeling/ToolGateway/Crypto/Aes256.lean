import ToolGateway.Bytes

/-!
The block cipher AES with a key of thirty-two octets, in the forward direction.

Octets are elements of the field with 256 elements; the substitution box is computed from inversion in that field. A
block is a list of sixteen octets, column by column.
-/

namespace ToolGateway.Aes256

/-- twice an element of the field -/
def double (b : UInt8) : UInt8 :=
  if b.toNat < 0x80 then b <<< 1 else (b <<< 1) ^^^ 0x1B

/-- the product of two elements of the field, from the bits of the second -/
def mul (a b : UInt8) : UInt8 :=
  ((List.range 8).foldl (fun (acc : UInt8 × UInt8) i =>
    (if b.toNat.testBit i then acc.1 ^^^ acc.2 else acc.1, double acc.2)) (0, a)).1

/-- the inverse of an element of the field, zero for zero: its power 254 -/
def inverse (a : UInt8) : UInt8 :=
  let a2 := mul a a
  let a4 := mul a2 a2
  let a8 := mul a4 a4
  let a16 := mul a8 a8
  let a32 := mul a16 a16
  let a64 := mul a32 a32
  let a128 := mul a64 a64
  mul a128 (mul a64 (mul a32 (mul a16 (mul a8 (mul a4 a2)))))

/-- the octet rotated to the left -/
def rotate (b : UInt8) (n : UInt8) : UInt8 :=
  (b <<< n) ||| (b >>> (8 - n))

def substitution (b : UInt8) : UInt8 :=
  let i := inverse b
  i ^^^ rotate i 1 ^^^ rotate i 2 ^^^ rotate i 3 ^^^ rotate i 4 ^^^ 0x63

def substitutionBox : Array UInt8 :=
  Array.ofFn fun (i : Fin 256) => substitution i.val.toUInt8

/-- the substitution of one octet, looked up -/
def substitute (b : UInt8) : UInt8 :=
  substitutionBox.getD b.toNat 0

def xor (a b : Bytes) : Bytes :=
  List.zipWith (· ^^^ ·) a b

/-! ## Key schedule -/

/-- the word that is mixed into every eighth word of the schedule -/
def mixFirst (constant : UInt8) : Bytes → Bytes
  | [p, q, r, s] => [substitute q ^^^ constant, substitute r, substitute s, substitute p]
  | w => w

/-- one word more for the schedule, which is kept last word first; `count` words are there -/
def extendKey (schedule : List Bytes) (count : Nat) : List Bytes :=
  let last := schedule.headD []
  let mixed :=
    if count % 8 = 0 then mixFirst ((List.range (count / 8 - 1)).foldl (fun c _ => double c) 1) last
    else if count % 8 = 4 then last.map substitute
    else last
  xor (schedule.getD 7 []) mixed :: schedule

/-- an octet string cut into words of four -/
def quads : Bytes → List Bytes
  | p :: q :: r :: s :: rest => [p, q, r, s] :: quads rest
  | _ => []

/-- words put together to blocks -/
def roundKeys : List Bytes → List Bytes
  | p :: q :: r :: s :: rest => (p ++ q ++ r ++ s) :: roundKeys rest
  | _ => []

def expand (key : Bytes) : List Bytes :=
  roundKeys (((List.range 52).foldl (fun schedule i => extendKey schedule (i + 8)) (quads key).reverse).reverse)

/-! ## Rounds -/

/-- the rows of the block shifted: row r by r places -/
def shiftRows (block : Bytes) : Bytes :=
  (List.range 16).map fun i => block.getD ((i + 4 * (i % 4)) % 16) 0

def mixColumns (block : Bytes) : Bytes :=
  (quads block).flatMap fun column =>
    match column with
    | [p, q, r, s] =>
      [double p ^^^ (double q ^^^ q) ^^^ r ^^^ s, p ^^^ double q ^^^ (double r ^^^ r) ^^^ s,
        p ^^^ q ^^^ double r ^^^ (double s ^^^ s), (double p ^^^ p) ^^^ q ^^^ r ^^^ double s]
    | _ => column

/-- the rounds after the first key, the last of which mixes no columns -/
def rounds (block : Bytes) : List Bytes → Bytes
  | [] => block
  | [key] => xor (shiftRows (block.map substitute)) key
  | key :: rest => rounds (xor (mixColumns (shiftRows (block.map substitute))) key) rest

/-- the block enciphered under round keys -/
def encryptBlock (keys : List Bytes) (block : Bytes) : Bytes :=
  match keys with
  | [] => block
  | first :: rest => rounds (xor block first) rest

end ToolGateway.Aes256
