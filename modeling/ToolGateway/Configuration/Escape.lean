import ToolGateway.Bytes.Hex

/-!
Escapes in quoted texts of settings: a backslash and a letter, or a code point of four or eight hexadecimal digits.
-/

namespace ToolGateway.Setting

def hexNumber? (digits : List Char) : Option Nat :=
  digits.foldlM (fun n c => if c.toNat < 0x80 then (Hex.value? c.toNat.toUInt8).map (n * 16 + ·) else none) 0

/-- the character whose code point the first `count` characters give -/
def codePoint? (count : Nat) (text : List Char) : Option (Char × List Char) :=
  if text.length < count then none
  else
    match hexNumber? (text.take count) with
    | some n => if n.isValidChar then some (Char.ofNat n, text.drop count) else none
    | none => none

/-- the character that an escape stands for, after the backslash -/
def readEscape? : List Char → Option (Char × List Char)
  | 'b' :: rest => some ('\x08', rest)
  | 't' :: rest => some ('\t', rest)
  | 'n' :: rest => some ('\n', rest)
  | 'f' :: rest => some ('\x0c', rest)
  | 'r' :: rest => some ('\r', rest)
  | '"' :: rest => some ('"', rest)
  | '\\' :: rest => some ('\\', rest)
  | 'u' :: rest => codePoint? 4 rest
  | 'U' :: rest => codePoint? 8 rest
  | _ => none

end ToolGateway.Setting
