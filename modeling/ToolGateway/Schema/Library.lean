import ToolGateway.Address.Uri
import ToolGateway.Bytes.Hex
import ToolGateway.Schema.Metaschema

/-!
Schemas by their addresses.

A schema document is a library: each schema in it that gives itself an address can be referred to by it, and each one
with an anchor by its name there. A schema without an address is part of the one around it. The documents of the drafts
belong to every library. References to what is not in a library are refused, because nothing is fetched.
-/

namespace ToolGateway

/-- a schema with an address -/
structure Resource where
  draft : Draft
  contents : Json

/-- a schema with a name in a resource -/
structure Anchor where
  address : String
  name : String
  /-- whether the outermost resource with an anchor of this name counts -/
  isDynamic : Bool
  draft : Draft
  contents : Json

/-- schemas by their addresses, and by their names -/
structure Library where
  resources : List (String × Resource) := []
  anchors : List Anchor := []

/-- a place in a library: a schema, its draft, and the address that references in it are relative to -/
structure Place where
  address : String
  draft : Draft
  contents : Json

namespace Library

/-! ## Addresses -/

/-- the address of a document that does not give itself one -/
def defaultAddress : String :=
  "json-schema:///"

/-- The address that a reference beside an address stands for. A fragment that the address ends in changes nothing. -/
def resolve? (base reference : String) : Option String := do
  if reference.startsWith "#" && base.endsWith reference then return base
  let reference ← Uri.parse? false reference.toList
  let base ← Uri.parse? false base.toList
  return String.ofList (← Uri.resolve? base reference).normalized.text

/-- the address that a schema gives references in it -/
def baseOf? (d : Draft) (base : String) (schema : Json) : Option String :=
  match d.ownAddress? schema with
  | some own => resolve? base own
  | none => some base

/-- an address and the fragment behind its last number sign -/
def splitReference (reference : String) : String × String :=
  match Text.cutLast? (· = '#') reference.toList with
  | some (address, fragment) => (String.ofList address, String.ofList fragment)
  | none => (reference, "")

/-! ## Gathering -/

/-- whether an address belongs to the documents of the drafts -/
def isStandard (address : String) : Bool :=
  address.startsWith (Draft.documentAddress "https" "draft/") ||
    address.startsWith (Draft.documentAddress "http" "draft-")

/-- the library with a schema in it that has no schemas inside -/
def insert (place : Place) (lib : Library) : Library where
  resources :=
    if (place.draft.ownAddress? place.contents).isSome then
      (place.address, ⟨place.draft, place.contents⟩) :: lib.resources
    else lib.resources
  anchors :=
    (place.draft.anchors place.contents).reverse.map (fun (name, isDynamic) =>
      ⟨place.address, name, isDynamic, place.draft, place.contents⟩) ++ lib.anchors

/-- the schema at a place, with the address that it gives itself -/
def enter? (place : Place) : Option Place := do
  return { place with address := ← baseOf? place.draft place.address place.contents }

/-- the schemas directly in the schema at a place -/
def innerPlaces? (place : Place) : Option (List Place) :=
  (place.draft.inner place.contents).mapM fun j => do
    enter? ⟨place.address, ← Draft.ofSchema? place.draft j, j⟩

/-- the address of the document that a schema refers to by a keyword, if it is another one -/
def otherAddress? (place : Place) (keyword : String) : Option (Option String) :=
  match place.contents.member? keyword with
  | some (.string reference) =>
    if isStandard reference || isStandard place.address || reference.startsWith "#" || place.address.startsWith "urn:"
    then some none
    else (resolve? place.address reference).map fun address => some (splitReference address).1
  | _ => some none

/-- The schemas of some places and all those inside, level by level, and the other documents that they refer to. A
schema inside another one is nested deeper, which bounds the fuel. -/
def gather : Nat → List Place → Library → List String → Option (Library × List String)
  | 0, _, lib, others => some (lib, others)
  | _, [], lib, others => some (lib, others)
  | fuel + 1, places, lib, others => do
    let found ← places.mapM fun place => do
      return (← otherAddress? place "$ref").toList ++ (← otherAddress? place "$schema").toList
    let next ← places.mapM innerPlaces?
    gather fuel next.flatten (places.foldl (fun lib place => lib.insert place) lib) (found.flatten ++ others)

/-- the library with a document and all schemas in it; other documents that it refers to have to be there -/
def withDocument? (lib : Library) (d : Draft) (address : String) (document : Json) : Option (Library × Place) := do
  let place ← enter? ⟨address, d, document⟩
  let lib := { lib with resources := (place.address, ⟨d, document⟩) :: lib.resources }
  let (lib, others) ← gather (document.depth + 1) [place] lib []
  if others.all fun other => (lib.resources.lookup other).isSome then return (lib, place) else failure

/-- the documents of the drafts -/
def standard : Library :=
  Metaschema.documents.foldl (fun lib (d, address, document) =>
    ((lib.withDocument? d address document).map (·.1)).getD lib) {}

/-! ## Fragments -/

inductive Step where
  | item
  | member (name : String)
  deriving DecidableEq, Repr

/-- whether steps from a schema lead to a schema in it, given what they lead to -/
def leadToSchema (d : Draft) (target : Json) : List Step → Bool
  | [] => true
  | .item :: rest => leadToSchema d target rest
  | .member name :: rest =>
    if d.isMixed name && Draft.isObject target then true
    else if d.valueKeywords.contains name then leadToSchema d target rest
    else if d.listKeywords.contains name || d.tableKeywords.contains name then
      match rest with
      | [] => false
      | _ :: rest => leadToSchema d target rest
    else false

def unescape : List Char → List Char
  | '~' :: '1' :: rest => '/' :: unescape rest
  | '~' :: '0' :: rest => '~' :: unescape rest
  | c :: rest => c :: unescape rest
  | [] => []

/-- a position in a list: digits with a plus sign in front or without -/
def position? (token : List Char) : Option Nat :=
  let digits := if token.head? = some '+' then token.tail else token
  if digits ≠ [] ∧ digits.all Char.isDigit then some (Text.decimalValue digits) else none

/-- the member of an object or the item of a list that a token names, and the step to it -/
def child? (j : Json) (token : List Char) : Option (Step × Json) :=
  match j with
  | .array items => do return (.item, ← items[← position? token]?)
  | .object members =>
    let name := String.ofList (unescape token)
    (Table.find? name members).map (.member name, ·)
  | _ => none

/-- the place that the tokens of a pointer lead to; `steps` are those since the last schema with an address -/
def follow? (place : Place) (steps : List Step) : List (List Char) → Option Place
  | [] => some place
  | token :: rest => do
    let (step, j) ← child? place.contents token
    let steps := steps ++ [step]
    let address ← if leadToSchema place.draft j steps then baseOf? place.draft place.address j else some place.address
    follow? { place with address, contents := j } (if address = place.address then steps else []) rest

/-- the octets of a text with each escaped one as itself -/
def percentDecode : Bytes → Bytes
  | 0x25 :: a :: b :: rest =>
    match Hex.value? a, Hex.value? b with
    | some high, some low => (16 * high + low).toUInt8 :: percentDecode rest
    | _, _ => 0x25 :: percentDecode (a :: b :: rest)
  | b :: rest => b :: percentDecode rest
  | [] => []

/-- the place in a resource that a pointer leads to -/
def pointed? (address : String) (r : Resource) (pointer : String) : Option Place := do
  let decoded ← Utf8.decode? (percentDecode (Utf8.encode (pointer.drop 1).toString))
  follow? ⟨address, r.draft, r.contents⟩ [] (Text.parts '/' decoded.toList)

/-- the anchor of a name in a resource; a resource may know its anchors by the address that it gives itself -/
def anchor? (lib : Library) (address name : String) : Option Anchor :=
  let find (address : String) : Option Anchor := lib.anchors.find? fun a => a.address = address && a.name = name
  (find address).or do
    let r ← lib.resources.lookup address
    find (← resolve? defaultAddress (← r.draft.ownAddress? r.contents))

/-! ## References -/

/-- what a reference leads to -/
structure Target where
  /-- the address of the resource -/
  address : String
  /-- the part of it, as the reference gives it -/
  fragment : String
  place : Place
  /-- the name, if it is an anchor of which the outermost one counts -/
  outermost : Option String

/-- what a name in a resource leads to, from the address of another resource -/
def anchored? (a : Anchor) (address : String) : Option Place := do
  return ⟨← baseOf? a.draft address a.contents, a.draft, a.contents⟩

def target? (lib : Library) (base reference : String) : Option Target := do
  let _ ← resolve? base reference
  let (address, fragment) ←
    if reference.startsWith "#" then some (base, (reference.drop 1).toString)
    else
      let (front, fragment) := splitReference reference
      (resolve? base front).map (·, fragment)
  let r ← lib.resources.lookup address
  if fragment.startsWith "/" then return ⟨address, fragment, ← pointed? address r fragment, none⟩
  else if fragment = "" then return ⟨address, fragment, ⟨address, r.draft, r.contents⟩, none⟩
  else
    let a ← lib.anchor? address fragment
    return ⟨address, fragment, ← anchored? a address, if a.isDynamic then some fragment else none⟩

/-- the anchors of a name of which the outermost one counts, one for each resource, by its address -/
def outermostAnchors (lib : Library) (name : String) : List Anchor :=
  let named := lib.anchors.filter fun a => a.name = name
  let first := named.filter fun a => ((named.find? fun b => b.address = a.address).map (·.isDynamic)).getD false
  (first.map (·.address)).eraseDups.filterMap fun address => first.find? fun a => a.address = address

/-- whether a resource may be left for the one around it when a reference asks for any schema -/
def isRecursive (r : Resource) : Bool :=
  match r.contents.member? "$recursiveAnchor" with
  | some (.bool b) => b
  | _ => false

end Library

end ToolGateway
