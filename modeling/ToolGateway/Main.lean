import ToolGateway.Command.Run
import ToolGateway.Store.Document

/-!
The program: command lines run in the world as it is.

Files are files, the store is kept as one document, and a nonce is what the system gives as random. There is no network
from here, so a request for the catalog gets no answer.
-/

namespace ToolGateway.World

/-- what the system says about a failure, with its number -/
def systemCause : IO.Error → String
  | .noFileOrDirectory .. => "No such file or directory (os error 2)"
  | .permissionDenied .. => "Permission denied (os error 13)"
  | .inappropriateType .. => "Is a directory (os error 21)"
  | e => toString e

/-- whether a failure says that there is nothing at the path -/
def saysMissing : IO.Error → Bool
  | .noFileOrDirectory .. => true
  | _ => false

def loadFile (path : String) : IO (Except IO.Error Bytes) := do
  match ← (IO.FS.readBinFile path).toBaseIO with
  | .ok content => return .ok content.toList
  | .error e => return .error e

def saveFile (path : String) (content : Bytes) : IO (Except String Unit) := do
  match ← (IO.FS.writeBinFile path (ByteArray.mk content.toArray)).toBaseIO with
  | .ok () => return .ok ()
  | .error e => return .error (systemCause e)

/-- whether there is a file or a directory at a path -/
def exists? (path : String) : IO Bool := do
  match ← loadFile path with
  | .ok _ => return true
  | .error e => return !saysMissing e

/-- the variables of a block, each a name, an equals sign and a value up to the next zero octet -/
def variablesOf (block : Bytes) : List (String × String) :=
  ((Utf8.decodeLossy block).splitOn "\x00").filterMap fun entry =>
    match entry.toList.span (· != '=') with
    | (name, '=' :: value) => some (String.ofList name, String.ofList value)
    | _ => none

def environment : IO (List (String × String)) := do
  match ← loadFile "/proc/self/environ" with
  | .ok content => return variablesOf content
  | .error _ => return []

/-- the store at a path, empty when there is none yet -/
def loadStore (path : String) : IO (Except String Store) := do
  match ← loadFile path with
  | .error e => if saysMissing e then return .ok {} else return .error (systemCause e)
  | .ok content =>
    match Store.codec.read content with
    | .ok s => return .ok s
    | .error e => return .error e.message

def saveStore (path : String) (s : Store) : IO (Except String Unit) :=
  saveFile path (Utf8.encode (Store.codec.write s))

def host : Host IO where
  exists? := exists?
  loadFile path := do return (← loadFile path).mapError systemCause
  saveFile := saveFile
  environment := environment
  loadStore := loadStore
  saveStore := saveStore
  exchange _ _ := return .error "there is no network"
  nonce := do return (← IO.getRandomBytes 12).toList

end ToolGateway.World

/-- runs the command line that the arguments make -/
def main (arguments : List String) : IO UInt32 := do
  let result ← ToolGateway.Command.run ToolGateway.World.host arguments
  (← IO.getStdout).putStr result.output
  (← IO.getStderr).putStr result.errors
  return UInt32.ofNat result.exitCode
