import ToolGateway.Call.Contract

/-!
Calls that are checked against a list of descriptions. Of two descriptions with one name the first counts.
-/

namespace ToolGateway

structure Call where
  functionName : String
  arguments : Json

def Call.codec : Codec Call :=
  Codec.record "ToolCall"
    (.field "functionName" .text none (fun _ => false) <|
      .field "arguments" .free (some .null) (fun _ => false) .done)
    (fun (functionName, arguments, ()) => ⟨functionName, arguments⟩)
    (fun c => (c.functionName, c.arguments, ()))

/-- a tool as it is advertised -/
structure Description where
  name : String
  description : String := ""
  inputSchema : Option Json := none
  outputSchema : Option Json := none

def Description.codec : Codec Description :=
  Codec.record "ToolDescription"
    (.field "name" .text none (fun _ => false) <|
      .field "description" .text (some "") (fun _ => false) <|
      .field "input_schema" (.optional .free) (some none) (fun _ => false) <|
      .field "output_schema" (.optional .free) (some none) Option.isNone .done)
    (fun (name, description, inputSchema, outputSchema, ()) => ⟨name, description, inputSchema, outputSchema⟩)
    (fun d => (d.name, d.description, d.inputSchema, d.outputSchema, ()))

namespace Description

/-- what a description promises -/
def contract (d : Description) : Contract :=
  ⟨d.name, presentSchema d.inputSchema, presentSchema d.outputSchema⟩

def find? (name : String) (descriptions : List Description) : Option Description :=
  descriptions.find? (·.name == name)

/-- checks against the description of this name; without one the check cannot run -/
def lookUp (name : String) (descriptions : List Description) (check : Contract → Outcome) : Outcome :=
  match find? name descriptions with
  | some d => check d.contract
  | none => .error (.toolNotFound name)

variable (engine : Engine) (descriptions : List Description)

def checkCall (call : Call) : Outcome :=
  lookUp call.functionName descriptions fun c => c.checkValue engine call.arguments

def checkArguments (name : String) (arguments : Bytes) : Outcome :=
  lookUp name descriptions fun c => c.checkInput engine arguments

def checkResult (raw : String) (call : Call) : Outcome :=
  lookUp call.functionName descriptions fun c => c.checkOutput engine raw

end Description

end ToolGateway
