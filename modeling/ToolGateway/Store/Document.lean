import ToolGateway.Store

/-!
The store as a document: an object from the keys to the records, both in hexadecimal.
-/

namespace ToolGateway.Store

def hexOctets (text : String) : Except Misfit Bytes :=
  match Hex.decode text with
  | .ok bytes => .ok bytes
  | .error _ => .error (.other "no octets in hexadecimal")

def ofEntries (entries : Table String Bytes) : Except Misfit Store := do
  let records ← entries.mapM fun (key, value) => do return (← hexOctets key, value)
  return ⟨Table.ofList records⟩

def codec : Codec Store :=
  Codec.through (.dictionary (.through .text hexOctets Hex.encode)) ofEntries
    fun s => s.records.map fun (key, value) => (Hex.encode key, value)

end ToolGateway.Store
