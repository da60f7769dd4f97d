import ToolGateway.Call.Outcome
import ToolGateway.Schema.Check
import ToolGateway.Schema.Compile
import ToolGateway.Tool

/-!
What a tool promises: its name, the schema of its arguments and the schema of its result.

A tool without an input schema cannot be called, one without an output schema may answer anything; a schema that is
`null` counts as none. The arguments are read before the input schema is compiled, the output schema is compiled
before the result is read. How schemas work is an argument, `Engine`.
-/

namespace ToolGateway

/-- how schemas work: a schema that can be compiled gives, for each document, what it does not allow; of any other it is
said why it cannot be compiled -/
abbrev Engine := Json → Except String (Json → List Violation)

/-- JSON Schema; what it says of a schema that cannot be compiled is its own `wording` -/
def Engine.standard (wording : Json → String) : Engine := fun schema =>
  match Validator.compile? schema with
  | some v => .ok v.violations
  | none => .error (wording schema)

namespace Violation

/-- a name as a pointer token: `~` and `/` are escaped -/
def token (name : String) : List Char :=
  name.toList.flatMap fun c => if c = '~' then ['~', '0'] else if c = '/' then ['~', '1'] else [c]

def pointer (path : List String) : String :=
  String.ofList (path.flatMap fun name => '/' :: token name)

/-- a pointer as people write the place of a field: without slashes in front, and with points between the names -/
def fieldPath (pointer : String) : String :=
  match pointer.toList.dropWhile (· == '/') with
  | [] => "(root)"
  | cs => String.ofList (cs.map fun c => if c = '/' then '.' else c)

def line (v : Violation) : String :=
  "- " ++ fieldPath (pointer v.path) ++ ": " ++ v.message

end Violation

/-- the name of a tool and its two schemas -/
structure Contract where
  name : String
  inputSchema : Option Json
  outputSchema : Option Json

/-- a schema that is not `null` -/
def presentSchema (schema : Option Json) : Option Json :=
  schema.filter fun j => !j.isNull

def Tool.contract (t : Tool) : Contract :=
  ⟨t.name, presentSchema t.inputSchema, presentSchema t.outputSchema⟩

namespace Contract

variable (engine : Engine)

def checkValue (c : Contract) (arguments : Json) : Outcome :=
  match c.inputSchema with
  | none => .failed (.missingInputSchema c.name)
  | some schema =>
    match engine schema with
    | .error detail => .error (.badInputSchema c.name detail)
    | .ok violations =>
      match violations arguments with
      | [] => .succeeded
      | found => .failed (.inputRejected c.name (found.map Violation.line))

def checkInput (c : Contract) (arguments : Bytes) : Outcome :=
  match c.inputSchema with
  | none => .failed (.missingInputSchema c.name)
  | some _ =>
    match Json.read arguments with
    | .error e => .error (.inputUnreadable c.name e.message)
    | .ok j => c.checkValue engine j

def checkOutput (c : Contract) (raw : String) : Outcome :=
  match c.outputSchema with
  | none => .succeeded
  | some schema =>
    match engine schema with
    | .error detail => .error (.badOutputSchema c.name detail)
    | .ok violations =>
      match Json.readText raw with
      | .error e => .error (.outputUnreadable c.name e.message)
      | .ok j =>
        match violations j with
        | [] => .succeeded
        | found => .failed (.outputRejected c.name (found.map Violation.line) raw)

end Contract

end ToolGateway
