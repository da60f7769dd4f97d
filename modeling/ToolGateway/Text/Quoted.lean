import ToolGateway.Text.Printable
import ToolGateway.Bytes.Hex

/-!
Texts in quotes for messages and descriptions: what cannot be shown is written as its code point.
-/

namespace ToolGateway.Text

/-- a code point in lower-case hexadecimal, without leading zeros, between braces -/
def codePoint (c : Char) : List Char :=
  '\\' :: 'u' :: '\x7b' :: (Nat.toDigits 16 c.toNat ++ ['\x7d'])

/-- the characters that stand for one character inside the given quote -/
def shownIn (quote c : Char) : List Char :=
  if c = '\x00' then ['\\', '0']
  else if c = '\t' then ['\\', 't']
  else if c = '\r' then ['\\', 'r']
  else if c = '\n' then ['\\', 'n']
  else if c = '\\' then ['\\', '\\']
  else if c = quote then ['\\', c]
  else if isPrintable c then [c]
  else codePoint c

/-- a text in double quotes -/
def quoted (s : String) : String :=
  String.ofList ('"' :: (s.toList.flatMap (shownIn '"') ++ ['"']))

def quotedChar (c : Char) : String :=
  String.ofList ('\x27' :: (shownIn '\x27' c ++ ['\x27']))

end ToolGateway.Text
