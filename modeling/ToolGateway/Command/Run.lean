import ToolGateway.Command
import ToolGateway.Envelope
import ToolGateway.Gateway
import ToolGateway.HiddenText.Document

/-!
Running commands.

All that a command does to the world goes through a `Host`: files, variables, the store, the catalog, and nonces. A
command ends with an exit code and what it has to say; a failure says why, and what was behind it.
-/

namespace ToolGateway

/-- the world that commands run in; an operation that fails says why -/
structure Host (m : Type → Type) where
  /-- whether there is a file or a directory at a path -/
  exists? : String → m Bool
  loadFile : String → m (Except String Bytes)
  saveFile : String → Bytes → m (Except String Unit)
  environment : m (List (String × String))
  loadStore : String → m (Except String Store)
  saveStore : String → Store → m (Except String Unit)
  /-- one request for the catalog, which may take this many seconds -/
  exchange : Nat → Catalog.Credentials → m (Except String Catalog.Reply)
  /-- octets for a nonce that has not been used before -/
  nonce : m Bytes

namespace Command

structure Result where
  exitCode : Nat := 0
  output : String := ""
  errors : String := ""
  deriving DecidableEq, Repr

/-- why a command failed, and what was behind it, the nearest first -/
structure Failure where
  message : String
  causes : List String := []
  deriving DecidableEq, Repr

namespace Failure

/-- a cause, further lines of it as far in as the first -/
def indented (first further : String) (cause : String) : String :=
  first ++ String.intercalate ("\n" ++ further) (cause.splitOn "\n")

/-- a number with blanks in front, five characters wide -/
def padded (n : Nat) : String :=
  let digits := Nat.toDigits 10 n
  String.ofList (List.replicate (5 - digits.length) ' ' ++ digits)

def numbered (n : Nat) : List String → List String
  | [] => []
  | cause :: rest => indented (padded n ++ ": ") "       " cause :: numbered (n + 1) rest

/-- the wording of a failure; more than one cause are numbered -/
def text (f : Failure) : String :=
  let lines := match f.causes with
    | [cause] => [indented "    " "    " cause]
    | causes => numbered 0 causes
  "Error: " ++ f.message ++
    (if lines.isEmpty then "" else "\n\nCaused by:\n" ++ String.intercalate "\n" lines) ++ "\n"

def result (f : Failure) : Result :=
  { exitCode := 1, errors := f.text }

def ofGateway (e : GatewayFault) : Failure :=
  ⟨e.message, e.causes⟩

def ofRegistry (e : RegistryFault) : Failure :=
  ⟨e.message, e.causes⟩

def ofEnvelope (e : Envelope.Fault) : Failure :=
  match e with
  | .serialization detail => ⟨e.message, [detail]⟩
  | _ => ⟨e.message, []⟩

end Failure

/-- a line of output -/
def printed (line : String) : Result :=
  { output := line ++ "\n" }

section

variable {m : Type → Type} [Monad m] (host : Host m)

def readBytes (path : String) : ExceptT Failure m Bytes := do
  match ← host.loadFile path with
  | .ok bytes => return bytes
  | .error cause => throw ⟨"reading " ++ path, [cause]⟩

def readText (path : String) : ExceptT Failure m String := do
  match Utf8.decode? (← readBytes host path) with
  | some text => return text
  | none => throw ⟨"reading " ++ path, ["stream did not contain valid UTF-8"]⟩

def readDocument {α : Type} (codec : Codec α) (path : String) : ExceptT Failure m α := do
  match codec.read (← readBytes host path) with
  | .ok a => return a
  | .error e => throw ⟨"parsing " ++ path, [e.message]⟩

/-- the wording of what is wrong with a hexadecimal text -/
def hexCause : Hex.Fault → String
  | .oddLength => "Odd number of digits"
  | .badDigit octet offset =>
    "Invalid character " ++ Text.quotedChar (Char.ofNat octet.toNat) ++ " at position " ++ toString offset

def readKey (name : String) : ExceptT Failure m Bytes := do
  match (← host.environment).lookup name with
  | none => throw ⟨name ++ " is not set", ["environment variable not found"]⟩
  | some text =>
    match Hex.decode (String.ofList (Text.trim text.toList)) with
    | .ok key => return key
    | .error e => throw ⟨name ++ " must be hex", [hexCause e]⟩

def readKeys : ExceptT Failure m (Bytes × Bytes) := do
  let encryptionKey ← readKey host "WARDEN_ENC_KEY"
  let signingKey ← readKey host "WARDEN_SIGN_KEY"
  return (encryptionKey, signingKey)

/-- the configuration of a file, if one is named, and of the variables; a directory counts as an empty file -/
def loadConfiguration (path : Option String) : ExceptT Failure m Configuration := do
  let environment ← host.environment
  let file ← match path with
    | none => pure none
    | some path =>
      match ← host.loadFile path with
      | .ok content => pure (some (path, some content))
      | .error _ => pure (some (path, if ← host.exists? path then some [] else none))
  match Configuration.load file Configuration.variableStart environment with
  | .ok c => return c
  | .error e => throw (.ofGateway (.configuration e))

def openStore (path : String) : ExceptT Failure m Store := do
  match ← host.loadStore path with
  | .ok s => return s
  | .error detail => throw (.ofGateway (.registry (.database detail)))

def keepStore (path : String) (s : Store) : ExceptT Failure m Unit := do
  match ← host.saveStore path s with
  | .ok () => return ()
  | .error detail => throw (.ofGateway (.registry (.database detail)))

/-- an answer of the gateway, or the failure it stands for -/
def granted {α : Type} (r : Except GatewayFault α) : ExceptT Failure m α :=
  match r with
  | .ok a => return a
  | .error e => throw (.ofGateway e)

/-! ## Commands -/

def runScan (text file : Option String) (cleans : Bool) : ExceptT Failure m Result := do
  let text ← match text, file with
    | some text, _ => pure text
    | none, some path => readText host path
    | none, none => throw ⟨"provide TEXT or --file", []⟩
  if cleans then
    match HiddenText.clean text with
    | .ok clean => return printed clean
    | .error alarm => throw ⟨alarm.message, []⟩
  else
    let found := HiddenText.findings text
    let report := printed ((Codec.list HiddenText.Finding.codec).toJson found).pretty
    if found.isEmpty then return report
    else return { report with
      exitCode := 1, errors := "ALERT: " ++ toString found.length ++ " hidden characters detected\n" }

def runStamp (path : String) (output : Option String) : ExceptT Failure m Result := do
  let t ← readDocument host Tool.codec path
  match t.stamped with
  | .error e => throw (.ofRegistry e)
  | .ok t =>
    let text := (Tool.codec.toJson t).pretty
    match output with
    | none => return printed text
    | some target =>
      match ← host.saveFile target (Utf8.encode text) with
      | .ok () => return {}
      | .error cause => throw ⟨"writing " ++ target, [cause]⟩

/-- a document made of a value that has been read -/
def ofValue {α : Type} (codec : Codec α) (j : Json) : ExceptT Failure m α :=
  match codec.fromJson j with
  | .ok a => return a
  | .error r => throw ⟨r.cause.message, []⟩

def runValidate (g : Gateway) (path : String) : ExceptT Failure m Result := do
  let j ← readDocument host .free path
  match j with
  | .array _ =>
    let tools ← ofValue (.list Tool.codec) j
    let reviews := g.reviewAll tools
    let report := printed ((Codec.list Review.codec).toJson reviews).pretty
    return { report with exitCode := if reviews.all (·.isValid) then 0 else 1 }
  | _ =>
    let t ← ofValue Tool.codec j
    let review := g.review t
    let report := printed (Review.codec.toJson review).pretty
    return { report with exitCode := if review.isValid then 0 else 1 }

def runCheckCall (path name arguments : String) : ExceptT Failure m Result := do
  let descriptions ← readDocument host (.list Description.codec) path
  -- the report does not show why a schema cannot be compiled
  let outcome := Description.checkArguments (.standard fun _ => "") descriptions name (Utf8.encode arguments)
  let report := printed (Report.codec.toJson outcome.report).pretty
  return { report with exitCode := if outcome = .succeeded then 0 else 1 }

def runClose (path : String) : ExceptT Failure m Result := do
  let (encryptionKey, signingKey) ← readKeys host
  let j ← readDocument host .free path
  let nonce ← host.nonce
  match Envelope.wrap .free nonce encryptionKey signingKey j with
  | .ok bytes => return printed (Utf8.decodeLossy bytes)
  | .error e => throw (.ofEnvelope e)

def runReveal (path : String) : ExceptT Failure m Result := do
  let (encryptionKey, signingKey) ← readKeys host
  let bytes ← readBytes host path
  match Envelope.unwrap .free encryptionKey signingKey bytes with
  | .ok j => return printed j.pretty
  | .error e => throw (.ofEnvelope e)

/-- brings the catalog into the store -/
def runSync (g : Gateway) : ExceptT Failure m Result := do
  let catalog := g.configuration.catalog
  let reply ← match Catalog.credentials catalog.url catalog.apiKey with
    | .ok c => host.exchange catalog.timeoutSeconds c
    | .error _ => pure (.error "")
  let (synced, g) := g.sync fun _ => reply
  let count ← granted synced
  let path := g.configuration.registry.snapshotPath
  let (saved, store) := g.saveSnapshot (← openStore host path)
  let _ ← granted saved
  keepStore host path store
  return printed ("Synchronized " ++ toString count ++ " tools")

/-- the entry of a listing: a tool, and whether it is given out -/
def listEntry (g : Gateway) (t : Tool) : Json :=
  let verdict := match g.find t.name with
    | .ok _ => [("verified", .bool true)]
    | .error e =>
      [("verified", .bool false), ("error", .string (String.intercalate ": " (e.message :: e.causes.take 1)))]
  .object (("name", .string t.name) :: ("checksum", .string t.stamp.checksum) :: verdict)

def runList (g : Gateway) : ExceptT Failure m Result := do
  let store ← openStore host g.configuration.registry.snapshotPath
  let (loaded, g) := g.loadSnapshot store
  let _ ← granted loaded
  return printed (Json.array (g.list.tools.map (listEntry g))).pretty

def runWith (c : Configuration) : Command → ExceptT Failure m Result
  | scan text file cleans => runScan host text file cleans
  | fingerprint schema => do return printed (← readDocument host .free schema).hexDigest
  | checksum tool => do return printed (← readDocument host Tool.codec tool).checksum
  | stamp tool output => runStamp host tool output
  | validate tools => runValidate host (.ofConfiguration c) tools
  | checkCall descriptions name arguments => runCheckCall host descriptions name arguments
  | close input => runClose host input
  | reveal input => runReveal host input
  | sync => runSync host (.ofConfiguration c)
  | list => runList host (.ofConfiguration c)
  | configuration => return printed (Configuration.codec.toJson c.masked).pretty

/-- runs a command line; one that is none ends with exit code 2 -/
def run (arguments : List String) : m Result := do
  match Invocation.parse? arguments with
  | none => return { exitCode := 2 }
  | some invocation =>
    let job : ExceptT Failure m Result := do
      let c ← loadConfiguration host invocation.configFile
      runWith host c invocation.command
    match ← job.run with
    | .ok result => return result
    | .error failure => return failure.result

end

end Command

end ToolGateway
