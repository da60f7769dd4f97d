import ToolGateway.Address.Ip
import ToolGateway.Bytes
import ToolGateway.Text.Blank
import ToolGateway.Text.Property

/-!
Addresses of mailboxes: the name of a mailbox, an at sign, and a machine; in angles behind the name of a person, too.
-/

namespace ToolGateway.Address

open Text

/-- the characters whose code points, as four octets, would be one character beyond ASCII -/
def isOctetLike (c : Char) : Bool :=
  let n := c.toNat
  let isTail (shift : Nat) : Bool := 0x80 ≤ (n >>> shift) % 0x100 && (n >>> shift) % 0x100 ≤ 0xBF
  if n < 0x10000 then 0xC2 ≤ n >>> 8 && n >>> 8 ≤ 0xDF && isTail 0
  else false

/-- whether a character may stand in the name of a mailbox as it is -/
def isAtomPart (c : Char) : Bool :=
  Property.isAlphanumeric c || "!#$%&'*+-/=?^_`\x7b|\x7d~".toList.contains c || isOctetLike c

/-- whether a text is made of characters that stand for themselves -/
def isAtom (text : List Char) : Bool :=
  text ≠ [] && text.all isAtomPart

/-- whether a text may stand in quotes; a backslash takes the next character as it is -/
def isQuotedText : List Char → Bool
  | '\\' :: c :: rest => '!' ≤ c && c ≤ '~' && isQuotedText rest
  | c :: rest =>
    (c = ' ' || c = '\t' || ('!' ≤ c && c ≤ '~' && c ≠ '"' && c ≠ '\\') || isOctetLike c) && isQuotedText rest
  | [] => true

def octetCount (text : List Char) : Nat :=
  (Utf8.encode (String.ofList text)).length

/-- whether a text names a mailbox on a machine -/
def isMailboxName (text : List Char) : Bool :=
  text ≠ [] && octetCount text ≤ 64 &&
    if text.head? = some '"' && text.getLast? = some '"' then
      3 ≤ text.length && isQuotedText (text.drop 1).dropLast
    else (parts '.' text).all isAtom

def bracketed? (text : List Char) : Option (List Char) :=
  if text.head? = some '[' && text.getLast? = some ']' then some (text.drop 1).dropLast else none

/-- whether a text is a machine: its name, or its address in brackets -/
def isMailMachine (isHostname : List Char → Bool) (text : List Char) : Bool :=
  text ≠ [] && octetCount text ≤ 254 &&
    match bracketed? text with
    | some address =>
      if address.take 5 == "IPv6:".toList then isIpv6 (address.drop 5) else isIpv4 address
    | none => (parts '.' text).all (fun label => isAtom label && octetCount label ≤ 63) && isHostname text

/-- a text before and behind the last blank with an angle behind it -/
def cutAngle? : List Char → Option (List Char × List Char)
  | ' ' :: '<' :: rest => (cutAngle? rest).map (fun (front, back) => (' ' :: '<' :: front, back)) <|> some ([], rest)
  | c :: rest => (cutAngle? rest).map fun (front, back) => (c :: front, back)
  | [] => none

/-- the address of a mailbox without the name of a person in front of it -/
def plainMailbox? (text : List Char) : Option (List Char) :=
  match cutAngle? text with
  | none => some text
  | some (_, back) =>
    let back := trim back
    if back.getLast? = some '>' then some back.dropLast else none

/-- whether a text is the address of a mailbox, given what names a machine -/
def isMailbox (isHostname : List Char → Bool) (text : List Char) : Bool :=
  match (plainMailbox? text).bind (cutLast? (· = '@')) with
  | some (mailbox, machine) => isMailboxName mailbox && isMailMachine isHostname machine
  | none => false

end ToolGateway.Address
