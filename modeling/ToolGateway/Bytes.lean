/-!
Octet strings and the UTF-8 form of texts.

`Bytes` is a list of octets. `Utf8.encodeChar` gives the octets of one character by plain arithmetic on its code point,
`Utf8.next?` reads one well-formed character off the front of an octet string, and `Utf8.decode?` reads a whole text.
`next?_length` is the measure every reader of characters stops by.
-/

namespace ToolGateway

/-- an octet string -/
abbrev Bytes := List UInt8

namespace Utf8

/-- the octets of one character: one below U+0080, two below U+0800, three below U+10000, else four -/
def encodeChar (c : Char) : Bytes :=
  let n := c.toNat
  if n < 0x80 then [n.toUInt8]
  else if n < 0x800 then [(0xC0 + n / 64).toUInt8, (0x80 + n % 64).toUInt8]
  else if n < 0x10000 then
    [(0xE0 + n / 4096).toUInt8, (0x80 + n / 64 % 64).toUInt8, (0x80 + n % 64).toUInt8]
  else
    [(0xF0 + n / 262144).toUInt8, (0x80 + n / 4096 % 64).toUInt8, (0x80 + n / 64 % 64).toUInt8,
      (0x80 + n % 64).toUInt8]

def encode (s : String) : Bytes :=
  s.toList.flatMap encodeChar

/-- an octet that continues a character -/
def isTail (b : UInt8) : Bool :=
  0x80 ≤ b.toNat && b.toNat < 0xC0

/-- the character of a code point, refused when the point is a surrogate or lies outside the range `low … high` -/
def scalar? (low high n : Nat) : Option Char :=
  if low ≤ n ∧ n ≤ high then
    if h : n.isValidChar then some (Char.ofNatAux n h) else none
  else none

/-- the first character and what follows it, `none` when the front is not well formed -/
def next? : Bytes → Option (Char × Bytes)
  | [] => none
  | a :: rest =>
    if a.toNat < 0x80 then (scalar? 0 0x7F a.toNat).map (·, rest)
    else if a.toNat < 0xC2 then none
    else if a.toNat < 0xE0 then
      match rest with
      | b :: rest =>
        if isTail b then (scalar? 0x80 0x7FF ((a.toNat - 0xC0) * 64 + (b.toNat - 0x80))).map (·, rest) else none
      | _ => none
    else if a.toNat < 0xF0 then
      match rest with
      | b :: c :: rest =>
        if isTail b && isTail c then
          (scalar? 0x800 0xFFFF ((a.toNat - 0xE0) * 4096 + (b.toNat - 0x80) * 64 + (c.toNat - 0x80))).map (·, rest)
        else none
      | _ => none
    else if a.toNat < 0xF5 then
      match rest with
      | b :: c :: d :: rest =>
        if isTail b && isTail c && isTail d then
          (scalar? 0x10000 0x10FFFF ((a.toNat - 0xF0) * 262144 + (b.toNat - 0x80) * 4096 + (c.toNat - 0x80) * 64
            + (d.toNat - 0x80))).map (·, rest)
        else none
      | _ => none
    else none

/-- Reading a character shortens the octets left. -/
theorem next?_length {bytes rest : Bytes} {c : Char} (h : next? bytes = some (c, rest)) :
    rest.length < bytes.length := by
  unfold next? at h
  repeat' split at h
  all_goals simp only [Option.map_eq_some_iff, Prod.mk.injEq, reduceCtorEq] at h
  all_goals obtain ⟨_, _, _, rfl⟩ := h
  all_goals simp only [List.length_cons]; omega

/-- the characters of an octet string, `none` when some of it is not well formed -/
def decodeChars? : Bytes → Option (List Char)
  | [] => some []
  | a :: tail =>
    match _h : next? (a :: tail) with
    | none => none
    | some (c, rest) => (decodeChars? rest).map (c :: ·)
termination_by bytes => bytes.length
decreasing_by exact next?_length _h

def decode? (bytes : Bytes) : Option String :=
  (decodeChars? bytes).map String.ofList

/-- whether `b` may stand second in a character of three or four octets that starts with `a` -/
def mayFollow (a b : UInt8) : Bool :=
  let low : Nat := if a = 0xE0 then 0xA0 else if a = 0xF0 then 0x90 else 0x80
  let high : Nat := if a = 0xED then 0x9F else if a = 0xF4 then 0x8F else 0xBF
  0xE0 ≤ a.toNat && a.toNat ≤ 0xF4 && low ≤ b.toNat && b.toNat ≤ high

/-- how many octets after the first belong to a character that begins at the front but does not end -/
def brokenTail : Bytes → Nat
  | a :: b :: c :: _ => if mayFollow a b then (if 0xF0 ≤ a.toNat && isTail c then 2 else 1) else 0
  | [a, b] => if mayFollow a b then 1 else 0
  | _ => 0

/-- whether an octet may start a character of several octets -/
def isLeader (a : UInt8) : Bool :=
  0xC2 ≤ a.toNat && a.toNat ≤ 0xF4

/-- what is wrong with the first octets that are not well formed; `offset` is how many come before -/
def faultFrom? (offset : Nat) : Bytes → Option String
  | [] => none
  | a :: tail =>
    match _h : next? (a :: tail) with
    | some (_, rest) => faultFrom? (offset + ((a :: tail).length - rest.length)) rest
    | none =>
      let broken := brokenTail (a :: tail)
      let isOpen := isLeader a && broken = tail.length
      some (if isOpen then "incomplete utf-8 byte sequence from index " ++ toString offset
        else "invalid utf-8 sequence of " ++ toString (broken + 1) ++ " bytes from index " ++ toString offset)
termination_by bytes => bytes.length
decreasing_by exact next?_length _h

def firstFault? (bytes : Bytes) : Option String :=
  faultFrom? 0 bytes

/-- the characters of an octet string, with U+FFFD for each character that does not end and each octet that starts
none -/
def decodeCharsLossy : Bytes → List Char
  | [] => []
  | a :: tail =>
    match _h : next? (a :: tail) with
    | none => '\uFFFD' :: decodeCharsLossy (tail.drop (brokenTail (a :: tail)))
    | some (c, rest) => c :: decodeCharsLossy rest
termination_by bytes => bytes.length
decreasing_by
  · simp only [List.length_drop, List.length_cons]; omega
  · exact next?_length _h

def decodeLossy (bytes : Bytes) : String :=
  String.ofList (decodeCharsLossy bytes)

end Utf8

end ToolGateway
