import ToolGateway.Registry

/-!
The catalog: tools that a server hands out.

The answer to one request is an object from names to tools. It is taken whole or not at all: any other status than
200, a body that is no such object, or an entry that gives its tool another name refuses it. How the request is made
is an argument, `Exchange`.
-/

namespace ToolGateway.Catalog

/-- where the catalog is and what it asks for -/
structure Credentials where
  url : String
  apiKey : String
  deriving DecidableEq, Repr

structure Reply where
  status : Nat
  body : Bytes
  deriving DecidableEq, Repr

/-- how a request is made: the answer, or why there is none -/
abbrev Exchange := Credentials → Except String Reply

/-- both credentials; neither may be missing or empty -/
def credentials (url apiKey : Option String) : Except RegistryFault Credentials :=
  match url, apiKey with
  | some url, some apiKey =>
    if url.isEmpty || apiKey.isEmpty then .error .missingCredentials else .ok ⟨url, apiKey⟩
  | _, _ => .error .missingCredentials

/-- the tool of an entry; one without a name takes that of the entry -/
def named (key : String) (t : Tool) : Except RegistryFault Tool :=
  if t.name.isEmpty then .ok { t with name := key }
  else if t.name = key then .ok t
  else .error (.catalogContent ("entry '" ++ key ++ "' declares name '" ++ t.name ++ "'"))

def toolsOf : Table String Tool → Except RegistryFault (List Tool)
  | [] => .ok []
  | (key, t) :: rest => do
    let t ← named key t
    let tools ← toolsOf rest
    return t :: tools

def decode (body : Bytes) : Except RegistryFault (List Tool) :=
  match (Codec.dictionary Tool.codec).read body with
  | .error e => .error (.catalogContent e.message)
  | .ok entries => toolsOf entries

/-- the tools of an answer -/
def accept (reply : Reply) : Except RegistryFault (List Tool) :=
  if reply.status = 200 then decode reply.body else .error (.catalogStatus reply.status)

/-- requests the catalog and gives its tools, ascending by name -/
def fetch (exchange : Exchange) (c : Credentials) : Except RegistryFault (List Tool) :=
  match exchange c with
  | .error e => .error (.transport e)
  | .ok reply => accept reply

/-- puts the tools of the catalog in place of those of the registry, and says how many -/
def sync (exchange : Exchange) (c : Credentials) (r : Registry) : Except RegistryFault Nat × Registry :=
  match fetch exchange c with
  | .error e => (.error e, r)
  | .ok tools =>
    match r.replaceAll tools with
    | (.error e, r) => (.error e, r)
    | (.ok (), r) => (.ok tools.length, r)

end ToolGateway.Catalog
