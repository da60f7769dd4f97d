import ToolGateway.HiddenText
import ToolGateway.Tool.Integrity
import ToolGateway.Document.Record

/-!
The review of tools that someone submits.

A review looks at the description, unless told not to, and at the hashes that the tool carries. Its record has either
the checksum of the tool or a cause, never both.
-/

namespace ToolGateway

structure Review where
  name : String
  checksum : String
  isValid : Bool
  error : String
  deriving DecidableEq, Repr

namespace Review

/-- reviews as documents; what is empty is left out -/
def codec : Codec Review :=
  Codec.record "ToolValidationResult"
    (.field "name" .text none (fun _ => false) <|
      .field "checksum" .text (some "") String.isEmpty <|
      .field "valid" .flag none (fun _ => false) <|
      .field "error" .text (some "") String.isEmpty .done)
    (fun (name, checksum, isValid, error, ()) => ⟨name, checksum, isValid, error⟩)
    (fun r => (r.name, r.checksum, r.isValid, r.error, ()))

def passed (name checksum : String) : Review :=
  ⟨name, checksum, true, ""⟩

def refused (name error : String) : Review :=
  ⟨name, "", false, error⟩

end Review

/-- reviews a tool; `scans` says whether its description is screened -/
def Tool.review (t : Tool) (scans : Bool) : Review :=
  match (if scans then HiddenText.screen t.description else .ok ()) with
  | .error alarm => .refused t.name alarm.message
  | .ok () =>
    match t.verify with
    | .error e => .refused t.name e.message
    | .ok () => .passed t.name t.checksum

/-- reviews in the order in which they were finished, put in the order of their names; those of one name keep theirs -/
def Review.sortByName (finished : List Review) : List Review :=
  finished.mergeSort fun a b => decide (a.name ≤ b.name)

def Tool.reviewAll (tools : List Tool) (scans : Bool) : List Review :=
  Review.sortByName (tools.map (·.review scans))

end ToolGateway
