import ToolGateway.Registry

/-!
The store: tools as records under their names, kept from one run to the next.

A record is the document of a tool under the octets of its name. Loading reads the records in the order of their keys
and trusts none of them: one that is no tool, or that names another tool than its key does, refuses the whole store.
-/

namespace ToolGateway

/-- records by key, ascending -/
structure Store where
  records : Table Bytes Bytes := []
  deriving DecidableEq, Repr

namespace Store

def key (name : String) : Bytes :=
  Utf8.encode name

def record (t : Tool) : Bytes :=
  Utf8.encode (Tool.codec.write t)

def size (s : Store) : Nat :=
  s.records.length

def isEmpty (s : Store) : Bool :=
  s.records.isEmpty

/-- writes a record whatever it holds -/
def put (s : Store) (key value : Bytes) : Store :=
  { s with records := s.records.insert key value }

/-- writes the record of a tool, in place of any other of its name -/
def save (s : Store) (t : Tool) : Except RegistryFault Unit × Store :=
  if t.name.isEmpty then (.error .emptyName, s) else (.ok (), s.put (key t.name) (record t))

def readRecord (key value : Bytes) : Except RegistryFault Tool :=
  match Tool.codec.read value with
  | .error e => .error (.unreadable e)
  | .ok t =>
    if Store.key t.name = key then .ok t
    else .error (.invalidDefinition
      ("snapshot key '" ++ Utf8.decodeLossy key ++ "' holds tool '" ++ t.name ++ "'"))

def readRecords : Table Bytes Bytes → Except RegistryFault (List Tool)
  | [] => .ok []
  | (key, value) :: rest => do
    let t ← readRecord key value
    let tools ← readRecords rest
    return t :: tools

def load (s : Store) : Except RegistryFault (List Tool) :=
  readRecords s.records

/-- takes a record out, and says whether there was one -/
def remove (s : Store) (name : String) : Bool × Store :=
  (s.records.contains (key name), { s with records := s.records.erase (key name) })

/-- the records of some tools, the last of a name counting; refused if one has no name -/
def recordsOf : Table Bytes Bytes → List Tool → Except RegistryFault (Table Bytes Bytes)
  | table, [] => .ok table
  | table, t :: rest =>
    if t.name.isEmpty then .error .emptyName else recordsOf (table.insert (key t.name) (record t)) rest

/-- puts the records of these tools in place of all that were there -/
def replaceAll (s : Store) (tools : List Tool) : Except RegistryFault Unit × Store :=
  match recordsOf [] tools with
  | .error e => (.error e, s)
  | .ok records => (.ok (), { s with records })

end Store

namespace Registry

/-- writes all tools of the registry into a store, in place of what it held, and says how many -/
def snapshot (r : Registry) (s : Store) : Except RegistryFault Nat × Store :=
  let tools := r.list.tools
  match s.replaceAll tools with
  | (.error e, s) => (.error e, s)
  | (.ok (), s) => (.ok tools.length, s)

/-- puts the tools of a store in place of those of the registry, and says how many -/
def restore (r : Registry) (s : Store) : Except RegistryFault Nat × Registry :=
  match s.load with
  | .error e => (.error e, r)
  | .ok tools =>
    match r.replaceAll tools with
    | (.error e, r) => (.error e, r)
    | (.ok (), r) => (.ok tools.length, r)

end Registry

end ToolGateway
