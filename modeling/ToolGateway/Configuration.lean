import ToolGateway.Configuration.Toml
import ToolGateway.Configuration.Variable
import ToolGateway.Document.Record
import ToolGateway.Registry

/-!
The configuration of a gateway and where it comes from.

There are three sources: the defaults, a file, and variables. A later source overrides an earlier one setting by
setting, so a section that is given in part keeps the rest. A setting whose value does not fit its type refuses the
whole configuration; one that nobody asks for is passed over.
-/

namespace ToolGateway

namespace Configuration

structure RegistrySection where
  isSecured : Bool := true
  validatesChecksums : Bool := true
  rejectsUnsigned : Bool := true
  /-- whether a tool has to say where it comes from -/
  requiresProvenance : Bool := false
  /-- where the store is kept -/
  snapshotPath : String := "./warden_tools.db"
  deriving DecidableEq, Repr

structure CatalogSection where
  url : Option String := none
  apiKey : Option String := none
  timeoutSeconds : Nat := 3
  deriving DecidableEq, Repr

structure ValidationSection where
  /-- how many tools are reviewed at a time -/
  maxConcurrency : Nat := 8
  /-- whether descriptions are screened for hidden characters -/
  scansDescriptions : Bool := true
  deriving DecidableEq, Repr

end Configuration

structure Configuration where
  registry : Configuration.RegistrySection := {}
  catalog : Configuration.CatalogSection := {}
  validation : Configuration.ValidationSection := {}
  deriving DecidableEq, Repr

namespace Configuration

def RegistrySection.policy (r : RegistrySection) : Policy :=
  ⟨r.validatesChecksums, r.rejectsUnsigned⟩

def RegistrySection.codec : Codec RegistrySection :=
  Codec.record "RegistryConfig"
    (.field "security_enabled" .flag (some true) (fun _ => false) <|
      .field "validate_checksums" .flag (some true) (fun _ => false) <|
      .field "reject_unsigned_tools" .flag (some true) (fun _ => false) <|
      .field "require_provenance" .flag (some false) (fun _ => false) <|
      .field "snapshot_path" (.textNamed "path string") (some "./warden_tools.db") (fun _ => false) .done)
    (fun (isSecured, validatesChecksums, rejectsUnsigned, requiresProvenance, snapshotPath, ()) =>
      ⟨isSecured, validatesChecksums, rejectsUnsigned, requiresProvenance, snapshotPath⟩)
    (fun r => (r.isSecured, r.validatesChecksums, r.rejectsUnsigned, r.requiresProvenance, r.snapshotPath, ()))

def CatalogSection.codec : Codec CatalogSection :=
  Codec.record "CatalogConfig"
    (.field "url" (.optional .text) (some none) (fun _ => false) <|
      .field "api_key" (.optional .text) (some none) (fun _ => false) <|
      .field "timeout_secs" (.count "u64") (some 3) (fun _ => false) .done)
    (fun (url, apiKey, timeoutSeconds, ()) => ⟨url, apiKey, timeoutSeconds⟩)
    (fun c => (c.url, c.apiKey, c.timeoutSeconds, ()))

def ValidationSection.codec : Codec ValidationSection :=
  Codec.record "ValidationConfig"
    (.field "max_concurrency" (.count "usize") (some 8) (fun _ => false) <|
      .field "scan_descriptions" .flag (some true) (fun _ => false) .done)
    (fun (maxConcurrency, scansDescriptions, ()) => ⟨maxConcurrency, scansDescriptions⟩)
    (fun v => (v.maxConcurrency, v.scansDescriptions, ()))

def codec : Codec Configuration :=
  Codec.record "GatewayConfig"
    (.field "registry" RegistrySection.codec (some {}) (fun _ => false) <|
      .field "catalog" CatalogSection.codec (some {}) (fun _ => false) <|
      .field "validation" ValidationSection.codec (some {}) (fun _ => false) .done)
    (fun (registry, catalog, validation, ()) => ⟨registry, catalog, validation⟩)
    (fun c => (c.registry, c.catalog, c.validation, ()))

/-- the configuration to show, without its secret -/
def masked (c : Configuration) : Configuration :=
  { c with catalog := { c.catalog with apiKey := c.catalog.apiKey.map fun _ => "********" } }

/-! ## Loading -/

/-- why a configuration cannot be loaded -/
inductive Fault where
  | fileNotFound (path : String)
  /-- the file is no text of settings -/
  | fileUnreadable (path : String)
  /-- a value does not fit its setting; `place` says where the value comes from -/
  | unfit (path : List String) (cause place : String)
  deriving DecidableEq, Repr

/-- the path of the setting at fault, empty when the file itself is -/
def Fault.path : Fault → List String
  | .unfit path _ _ => path
  | _ => []

def Fault.cause : Fault → String
  | .fileNotFound path => path
  | .fileUnreadable path => "TOML parse error in " ++ path ++ " TOML file"
  | .unfit _ cause place => cause ++ place

def Fault.message : Fault → String
  | .fileNotFound path => "configuration file not found: " ++ path
  | e => "configuration error: " ++ e.cause

def variableStart : String := "WARDEN_"

/-- where settings come from, besides the defaults -/
structure Sources where
  /-- the name and the content of the file -/
  file : Option (String × Setting) := none
  /-- the start of the names of variables -/
  start : String := variableStart
  environment : List (String × String) := []

def Sources.fromVariables (s : Sources) : Setting :=
  Variable.settings s.start s.environment

def Sources.merged (s : Sources) : Setting :=
  ((s.file.map Prod.snd).getD (.group [])).merge s.fromVariables

/-- where the value at a path comes from, in words -/
def Sources.place (s : Sources) (path : List String) : String :=
  if (s.fromVariables.find? path).isSome then
    " for key " ++ Text.quoted (String.ofList ((String.intercalate "." path).toList.map Char.toUpper)) ++ " in `" ++
      String.ofList (s.start.toList.map Char.toUpper) ++ "` environment variable(s)"
  else
    " for key " ++ Text.quoted (String.intercalate "." ("default" :: path)) ++
      ((s.file.map fun f => " in " ++ f.1 ++ " TOML file").getD "")

/-- the wording of a misfit, for the value as its source gives it -/
def misfitMessage (value : Option Setting) : Misfit → String
  | .wrongType found expected =>
    "invalid type: found " ++ (value.map Setting.describe).getD found.describe ++ ", expected " ++ expected
  | .wrongValue found expected =>
    "invalid value " ++ (value.map Setting.describe).getD found.describe ++ ", expected " ++ expected
  | m => m.message

def ofSources (s : Sources) : Except Fault Configuration :=
  match codec.fromJson s.merged.toJson with
  | .ok c => .ok c
  | .error r => .error (.unfit r.path (misfitMessage (s.merged.find? r.path) r.cause) (s.place r.path))

/-- the configuration of a file and variables. The file is named; its content is missing when there is no such file. -/
def load (file : Option (String × Option Bytes)) (start : String) (environment : List (String × String)) :
    Except Fault Configuration :=
  match file with
  | none => ofSources { start, environment }
  | some (path, none) => .error (.fileNotFound path)
  | some (path, some content) =>
    match (Utf8.decode? content).bind Toml.read? with
    | none => .error (.fileUnreadable path)
    | some settings => ofSources { file := some (path, settings), start, environment }

end Configuration

end ToolGateway
