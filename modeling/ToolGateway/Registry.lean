import ToolGateway.Tool.Document
import ToolGateway.Tool.Integrity

/-!
The registry: tools by name, and the policy that every read is held to.

A tool without hashes gets them when it is registered; hashes that it brings along are kept as they are and judged when
the tool is read. `get` gives a tool only if the policy in force lets it pass, `list` shows all without judging.

An operation that may change the registry gives its answer and the registry afterwards. One that is refused gives back
the registry it was given.
-/

namespace ToolGateway

structure Policy where
  /-- both hashes are recomputed and compared -/
  validatesChecksums : Bool := false
  /-- a tool that lacks a hash is refused -/
  rejectsUnsigned : Bool := false
  deriving DecidableEq, Repr

def Policy.codec : Codec Policy :=
  Codec.record "SecurityPolicy"
    (.field "validateChecksums" .flag none (fun _ => false) <|
      .field "rejectUnsignedTools" .flag none (fun _ => false) .done)
    (fun (validatesChecksums, rejectsUnsigned, ()) => ⟨validatesChecksums, rejectsUnsigned⟩)
    (fun p => (p.validatesChecksums, p.rejectsUnsigned, ()))

/-- tools by name; the policy counts only when the registry is secured -/
structure Registry where
  tools : Table String Tool := []
  isSecured : Bool
  policy : Policy := {}

def hashAlgorithm : String := "SHA-256"

namespace Registry

/-- the tool as it is stored: in a secured registry, with the hashes it lacks -/
def prepare (r : Registry) (t : Tool) : Except RegistryFault Tool :=
  if t.name.isEmpty then .error .emptyName
  else if r.isSecured then
    let t := if t.stamp.checksum.isEmpty then t.withChecksum t.checksum else t
    if t.stamp.signature.isEmpty then t.fingerprint.map t.withSignature else .ok t
  else .ok t

/-- registers a tool, in place of any other of its name -/
def register (r : Registry) (t : Tool) : Except RegistryFault Unit × Registry :=
  match r.prepare t with
  | .error e => (.error e, r)
  | .ok t => (.ok (), { r with tools := r.tools.insert t.name t })

/-- judges a stored tool: checksum, fingerprint, then whether it is signed at all -/
def judge (r : Registry) (name : String) (t : Tool) : Except RegistryFault Tool :=
  if r.isSecured then do
    if r.policy.validatesChecksums then
      t.checkChecksum name
      t.checkSignature name
    if r.policy.rejectsUnsigned && t.stamp.isUnsigned then .error (.unsigned name) else .ok t
  else .ok t

/-- the tool of this name, if the policy lets it pass -/
def get (r : Registry) (name : String) : Except RegistryFault Tool :=
  match r.tools.find? name with
  | none => .error (.notFound name)
  | some t => r.judge name t

/-- all tools, ascending by name, not judged -/
def list (r : Registry) : Listing :=
  ⟨r.tools.values, r.isSecured, hashAlgorithm, hashAlgorithm⟩

/-- the table of some tools by name, the last of a name counting; refused if one has no name -/
def tableOf : Table String Tool → List Tool → Except RegistryFault (Table String Tool)
  | table, [] => .ok table
  | table, t :: rest => if t.name.isEmpty then .error .emptyName else tableOf (table.insert t.name t) rest

/-- puts these tools, as they are, in place of all that were there -/
def replaceAll (r : Registry) (tools : List Tool) : Except RegistryFault Unit × Registry :=
  match tableOf [] tools with
  | .error e => (.error e, r)
  | .ok table => (.ok (), { r with tools := table })

/-- takes a tool out and gives it back -/
def remove (r : Registry) (name : String) : Option Tool × Registry :=
  (r.tools.find? name, { r with tools := r.tools.erase name })

def contains (r : Registry) (name : String) : Bool :=
  r.tools.contains name

def size (r : Registry) : Nat :=
  r.tools.length

def isEmpty (r : Registry) : Bool :=
  r.tools.isEmpty

def setPolicy (r : Registry) (policy : Policy) : Registry :=
  { r with policy }

end Registry

end ToolGateway
