import ToolGateway.FaultClass
import ToolGateway.Document.Record

/-!
What checking a call or its result comes to.

There are three outcomes: the data satisfies its schema, the data is wrong, or the check could not run. The last two
carry the cause.
-/

namespace ToolGateway

/-- why a call or its result was not found good -/
inductive CallFault where
  | missingInputSchema (tool : String)
  /-- the input schema cannot be compiled -/
  | badInputSchema (tool detail : String)
  /-- the arguments are no JSON text -/
  | inputUnreadable (tool detail : String)
  | inputRejected (tool : String) (violations : List String)
  /-- the output schema cannot be compiled -/
  | badOutputSchema (tool detail : String)
  /-- the result is no JSON text -/
  | outputUnreadable (tool detail : String)
  | outputRejected (tool : String) (violations : List String) (raw : String)
  /-- no description of this name was given -/
  | toolNotFound (tool : String)
  /-- the registry did not hand the tool out -/
  | toolRejected (tool : String) (reasonClass : FaultClass) (reason : String)
  deriving DecidableEq, Repr

namespace CallFault

def lines (texts : List String) : String :=
  String.intercalate "\n" texts

def message : CallFault → String
  | missingInputSchema tool => "no InputSchema defined for tool '" ++ tool ++ "'"
  | badInputSchema tool _ => "internal schema error for tool '" ++ tool ++ "'"
  | inputUnreadable tool _ => "internal validation error for tool '" ++ tool ++ "'"
  | inputRejected tool violations => "Input validation failed for tool '" ++ tool ++ "':\n" ++ lines violations
  | badOutputSchema tool _ => "internal output schema error for tool '" ++ tool ++ "'"
  | outputUnreadable tool _ => "internal output validation error for tool '" ++ tool ++ "'"
  | outputRejected tool violations raw =>
    "Tool '" ++ tool ++ "' output failed validation:\n" ++ lines violations ++ "\nRaw Output: " ++ raw
  | toolNotFound tool | toolRejected tool _ _ =>
    "tool description lookup failed: tool '" ++ tool ++ "' not found or not permitted"

def faultClass : CallFault → FaultClass
  | missingInputSchema _ | toolNotFound _ => .policy
  | inputRejected .. | outputRejected .. => .content
  | badInputSchema .. | inputUnreadable .. | badOutputSchema .. | outputUnreadable .. => .internal
  | toolRejected _ reasonClass _ => reasonClass

/-- what the schema did not allow, a line each -/
def violations : CallFault → List String
  | inputRejected _ violations | outputRejected _ violations _ => violations
  | _ => []

end CallFault

inductive Outcome where
  | succeeded
  /-- the data is wrong -/
  | failed (cause : CallFault)
  /-- the check could not run -/
  | error (cause : CallFault)
  deriving DecidableEq, Repr

/-- how a check ended, without the cause -/
inductive Status where
  | succeeded
  | failed
  | error
  deriving DecidableEq, Repr

def Status.name : Status → String
  | .succeeded => "succeeded"
  | .failed => "failed"
  | .error => "error"

def Status.codec : Codec Status :=
  Codec.choice ([Status.succeeded, .failed, .error].map fun s => (s.name, s)) Status.name

/-- what a caller is told about a check -/
structure Report where
  status : Status
  error : Option String
  deriving DecidableEq, Repr

def Report.codec : Codec Report :=
  Codec.record "ValidationReport"
    (.field "status" Status.codec none (fun _ => false) <|
      .field "error" (.optional .text) (some none) Option.isNone .done)
    (fun (status, error, ()) => ⟨status, error⟩)
    (fun r => (r.status, r.error, ()))

namespace Outcome

def status : Outcome → Status
  | succeeded => .succeeded
  | failed _ => .failed
  | error _ => .error

def cause? : Outcome → Option CallFault
  | succeeded => none
  | failed cause | error cause => some cause

def report (o : Outcome) : Report :=
  ⟨o.status, o.cause?.map CallFault.message⟩

end Outcome

end ToolGateway
