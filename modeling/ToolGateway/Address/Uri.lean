import ToolGateway.Address.Ip

/-!
Addresses of documents.

An address has a scheme, an authority, a path, a query and a fragment; a reference may lack the scheme and is then
relative to an address. `Uri.parse?` reads one, `Uri.resolve?` makes an address of a reference, and `Uri.normalized`
gives addresses that differ in unimportant ways one form.
-/

namespace ToolGateway

/-- an address of a document, or a reference to one -/
structure Uri where
  scheme : Option (List Char) := none
  authority : Option (List Char) := none
  path : List Char := []
  query : Option (List Char) := none
  fragment : Option (List Char) := none
  deriving DecidableEq, Repr

namespace Uri

open Text

/-! ## Characters -/

/-- the characters beyond ASCII that an address may hold as they are -/
def isWide (c : Char) : Bool :=
  let n := c.toNat
  (0xA0 ≤ n && n ≤ 0xD7FF) || (0xF900 ≤ n && n ≤ 0xFDCF) || (0xFDF0 ≤ n && n ≤ 0xFFEF) ||
    (0x10000 ≤ n && n ≤ 0xEFFFD && n % 0x10000 ≤ 0xFFFD && (n < 0xE0000 || 0xE1000 ≤ n))

/-- the characters that are set aside for private use -/
def isPrivate (c : Char) : Bool :=
  let n := c.toNat
  (0xE000 ≤ n && n ≤ 0xF8FF) || (0xF0000 ≤ n && n % 0x10000 ≤ 0xFFFD)

/-- the characters that mean the same whether they are written by themselves or by their octets -/
def isUnreserved (c : Char) : Bool :=
  c.isAlphanum || "-._~".toList.contains c

/-- whether a text has only characters of a kind and octets written as a per cent sign with two digits -/
def hasOnly (isPlain : Char → Bool) : List Char → Bool
  | '%' :: a :: b :: rest => isHexDigit a && isHexDigit b && hasOnly isPlain rest
  | c :: rest => c ≠ '%' && isPlain c && hasOnly isPlain rest
  | [] => true

section

-- whether an address may hold characters beyond ASCII
variable (mayBeWide : Bool)

/-- the characters that stand for themselves in a name -/
def isNamePart (c : Char) : Bool :=
  isUnreserved c || "!$&'()*+,;=".toList.contains c || (mayBeWide && isWide c)

def isPathPart (c : Char) : Bool :=
  isNamePart mayBeWide c || c = ':' || c = '@' || c = '/'

/-- the characters behind a question mark or a number sign -/
def isTailPart (c : Char) : Bool :=
  isPathPart mayBeWide c || c = '?'

/-! ## Reading -/

/-- a letter, then letters, digits, and three signs -/
def isScheme : List Char → Bool
  | [] => false
  | c :: rest => c.isAlpha && rest.all fun c => c.isAlphanum || c = '+' || c = '-' || c = '.'

/-- a version of an address of a machine that is not settled yet -/
def isFutureAddress : List Char → Bool
  | c :: rest =>
    match cut (· = '.') rest with
    | (version, some address) =>
      (c = 'v' || c = 'V') && version ≠ [] && version.all isHexDigit && address ≠ [] &&
        address.all fun c => isNamePart false c || c = ':'
    | (_, none) => false
  | [] => false

/-- whether a text names a machine, with a number behind a colon or without -/
def isMachine (text : List Char) : Bool :=
  match text with
  | '[' :: rest =>
    match cut (· = ']') rest with
    | (address, some []) => Address.isIpv6 address || isFutureAddress address
    | (address, some (':' :: number)) =>
      (Address.isIpv6 address || isFutureAddress address) && number.all Char.isDigit
    | _ => false
  | _ =>
    match cut (· = ':') text with
    | (name, none) => hasOnly (isNamePart mayBeWide) name
    | (name, some number) => hasOnly (isNamePart mayBeWide) name && number.all Char.isDigit

/-- whether a text names a machine, with a user in front of it or without -/
def isAuthority (text : List Char) : Bool :=
  match cutLast? (· = '@') text with
  | some (user, machine) => hasOnly (fun c => isNamePart mayBeWide c || c = ':') user && isMachine mayBeWide machine
  | none => isMachine mayBeWide text

/-- the authority and the path of what stands between the scheme and the query -/
def splitLocation : List Char → Option (List Char) × List Char
  | '/' :: '/' :: rest => (some (rest.takeWhile (· ≠ '/')), rest.dropWhile (· ≠ '/'))
  | path => (none, path)

/-- the parts of an address as they stand; a colon in front of the first slash always ends a scheme -/
def split (text : List Char) : Uri :=
  let (text, fragment) := cut (· = '#') text
  let (text, query) := cut (· = '?') text
  let (scheme, location) :=
    match cut (fun c => c = ':' || c = '/') text with
    | (scheme, some rest) =>
      if (text.drop scheme.length).head? = some ':' then (some scheme, rest) else (none, text)
    | (_, none) => (none, text)
  let (authority, path) := splitLocation location
  { scheme, authority, path, query, fragment }

/-- whether each part is as it has to be -/
def isWellFormed (u : Uri) : Bool :=
  u.scheme.all isScheme && u.authority.all (isAuthority mayBeWide) && hasOnly (isPathPart mayBeWide) u.path &&
    u.query.all (hasOnly fun c => isTailPart mayBeWide c || (mayBeWide && isPrivate c)) &&
    u.fragment.all (hasOnly (isTailPart mayBeWide))

/-- the address or reference that a text is -/
def parse? (text : List Char) : Option Uri :=
  let u := split text
  if isWellFormed mayBeWide u then some u else none

end

/-! ## Writing -/

/-- the address as a text; a path is kept apart from an authority that is not there -/
def text (u : Uri) : List Char :=
  let path := if u.authority.isNone && u.path.take 2 == ['/', '/'] then '/' :: '.' :: u.path else u.path
  (u.scheme.map (· ++ [':'])).getD [] ++ (u.authority.map fun a => '/' :: '/' :: a).getD [] ++ path ++
    (u.query.map ('?' :: ·)).getD [] ++ (u.fragment.map ('#' :: ·)).getD []

/-! ## Normal form -/

/-- octets that stand for unreserved characters written as these, all others with capital digits -/
def plain : List Char → List Char
  | '%' :: a :: b :: rest =>
    let c := Char.ofNat (16 * hexDigitValue a + hexDigitValue b)
    if isUnreserved c then c :: plain rest else '%' :: a.toUpper :: b.toUpper :: plain rest
  | c :: rest => c :: plain rest
  | [] => []

/-- the segments of a path without those that are one point, and without those that two points go back over; `done` are
the segments in front, the last first -/
def withoutDots (done : List (List Char)) : List (List Char) → List (List Char)
  | [] => done.reverse
  | [['.']] => ([] :: done).reverse
  | [['.', '.']] => ([] :: done.tail).reverse
  | ['.'] :: rest => withoutDots done rest
  | ['.', '.'] :: rest => withoutDots done.tail rest
  | segment :: rest => withoutDots (segment :: done) rest

def joinSegments (segments : List (List Char)) : List Char :=
  ['/'].intercalate segments

/-- a path without segments of points -/
def plainPath (path : List Char) : List Char :=
  match path with
  | '/' :: rest => '/' :: joinSegments (withoutDots [] (parts '/' rest))
  | _ => joinSegments (withoutDots [] (parts '/' path))

/-- an authority with its machine in lower case and without a colon that no number follows -/
def plainAuthority (authority : List Char) : List Char :=
  let (user, machine) := match cutLast? (· = '@') authority with
    | some (user, machine) => (plain user ++ ['@'], machine)
    | none => ([], authority)
  let machine := (plain (machine.map Char.toLower)).reverse
  user ++ ((if machine.head? = some ':' then machine.tail else machine).reverse)

/-- the form that addresses have which differ in unimportant ways -/
def normalized (u : Uri) : Uri where
  scheme := u.scheme.map (·.map Char.toLower)
  authority := u.authority.map plainAuthority
  path := if u.scheme.isSome then plainPath (plain u.path) else plain u.path
  query := u.query.map plain
  fragment := u.fragment.map plain

/-! ## References -/

/-- a relative path in place of the last segment of another one -/
def mergedPath (base : Uri) (path : List Char) : List Char :=
  if base.authority.isSome && base.path = [] then '/' :: path
  else (base.path.reverse.dropWhile (· ≠ '/')).reverse ++ path

/-- The address that a reference stands for beside an address. Beside one without a hierarchy, a reference has to be
whole, or to change the query or the fragment only. -/
def resolve? (base reference : Uri) : Option Uri :=
  if reference.scheme.isSome then some { reference with path := plainPath reference.path }
  else if base.authority.isNone && base.path.head? ≠ some '/' &&
      (reference.authority.isSome || reference.path ≠ []) then none
  else if reference.authority.isSome then
    some { reference with scheme := base.scheme, path := plainPath reference.path }
  else if reference.path = [] then
    some { base with query := reference.query.or base.query, fragment := reference.fragment }
  else
    let path := if reference.path.head? = some '/' then reference.path else mergedPath base reference.path
    some { reference with scheme := base.scheme, authority := base.authority, path := plainPath path }

/-- whether a text is an address of a document, with its scheme or, unless `isWhole`, relative to another one -/
def isAddress (mayBeWide isWhole : Bool) (text : List Char) : Bool :=
  match parse? mayBeWide text with
  | some u => !isWhole || u.scheme.isSome
  | none => false

end Uri

end ToolGateway
