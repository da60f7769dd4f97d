import ToolGateway.Command.Run
import ToolGateway.Proofs.Document.ReadBack

/-!
The steps of a command.

A command runs in a world that a host works on. Each of its steps ends well or in a failure, and leaves a world behind.

- `perform_bind`, `perform_bind_error`: what is behind a step runs in the world that the step leaves, unless it failed.
- `ok_of_perform_bind`: a command that ends well is gone through step by step.
- `perform_readDocument`, `ok_of_readDocument`: of a host that keeps files (`Host.KeepsFiles`), a document is read from
  what stands in the file.
- `Result.Shows`: a command has ended well, and its output is the document of a value, with a line for each entry.
-/

namespace ToolGateway

variable {σ : Type}

/-- a host in whose worlds there may be a file at each path: what is loaded is what stands there, and a file that has
been saved stands there afterwards -/
structure Host.KeepsFiles (host : Host (StateM σ)) (files : σ → String → Option Bytes) : Prop where
  loaded : ∀ path bytes w, ((host.loadFile path).run w).1 = .ok bytes ↔ files w path = some bytes
  saved : ∀ path bytes w, ((host.saveFile path bytes).run w).1 = .ok () →
    files ((host.saveFile path bytes).run w).2 path = some bytes

namespace Command

variable {α β : Type} {w w' : σ}

section

variable {step : ExceptT Failure (StateM σ) α} {next : α → ExceptT Failure (StateM σ) β}

/-- how a step ends that is run in a world, and the world afterwards -/
def perform (step : ExceptT Failure (StateM σ) α) (w : σ) : Except Failure α × σ :=
  step.run.run w

theorem perform_pure (a : α) (w : σ) : perform (pure a) w = (.ok a, w) := rfl

theorem perform_lift (effect : StateM σ α) (w : σ) :
    perform (liftM effect) w = (.ok (effect.run w).1, (effect.run w).2) := rfl

theorem perform_bind {a : α} (h : perform step w = (.ok a, w')) : perform (step >>= next) w = perform (next a) w' := by
  rw [perform] at h
  rw [perform, ExceptT.run_bind, StateT.run_bind, h]
  rfl

theorem perform_bind_error {e : Failure} (h : perform step w = (.error e, w')) :
    perform (step >>= next) w = (.error e, w') := by
  rw [perform] at h
  rw [perform, ExceptT.run_bind, StateT.run_bind, h]
  rfl

/-- a command that ends well has gone well in its first step -/
theorem ok_of_perform_bind {b : β} (h : perform (step >>= next) w = (.ok b, w')) :
    ∃ a mid, perform step w = (.ok a, mid) ∧ perform (next a) mid = (.ok b, w') := by
  cases hstep : perform step w with
  | mk answer mid =>
    cases answer with
    | error e =>
      rw [perform_bind_error hstep] at h
      cases h
    | ok a =>
      rw [perform_bind hstep] at h
      exact ⟨a, mid, rfl, h⟩

theorem perform_granted_ok (a : α) (w : σ) : perform (granted (.ok a)) w = (.ok a, w) := rfl

theorem perform_granted_error (e : GatewayFault) (w : σ) :
    perform (granted (.error e) : ExceptT Failure (StateM σ) α) w = (.error (.ofGateway e), w) := rfl

end

/-! ## Files -/

variable {host : Host (StateM σ)} {files : σ → String → Option Bytes} {path : String} {bytes : Bytes}

theorem perform_readBytes (hkeeps : host.KeepsFiles files) (hfile : files w path = some bytes) :
    ∃ w', perform (readBytes host path) w = (.ok bytes, w') := by
  refine ⟨((host.loadFile path).run w).2, ?_⟩
  rw [readBytes, perform_bind (perform_lift (host.loadFile path) w), (hkeeps.loaded path bytes w).2 hfile]
  rfl

theorem ok_of_readBytes (hkeeps : host.KeepsFiles files) (h : perform (readBytes host path) w = (.ok bytes, w')) :
    files w path = some bytes := by
  rw [readBytes, perform_bind (perform_lift (host.loadFile path) w)] at h
  cases hloaded : ((host.loadFile path).run w).1 with
  | error cause =>
    rw [hloaded] at h
    cases h
  | ok content =>
    rw [hloaded] at h
    cases h
    exact (hkeeps.loaded path bytes w).1 hloaded

/-- a document is read from the octets of the file -/
theorem perform_readDocument (hkeeps : host.KeepsFiles files) (hfile : files w path = some bytes) {codec : Codec α}
    {a : α} (hread : codec.read bytes = .ok a) : ∃ w', perform (readDocument host codec path) w = (.ok a, w') := by
  obtain ⟨w', hbytes⟩ := perform_readBytes hkeeps hfile
  refine ⟨w', ?_⟩
  rw [readDocument, perform_bind hbytes, hread]
  rfl

theorem ok_of_readDocument (hkeeps : host.KeepsFiles files) {codec : Codec α} {a : α}
    (h : perform (readDocument host codec path) w = (.ok a, w')) :
    ∃ bytes, files w path = some bytes ∧ codec.read bytes = .ok a := by
  obtain ⟨bytes, mid, hbytes, h⟩ := ok_of_perform_bind h
  refine ⟨bytes, ok_of_readBytes hkeeps hbytes, ?_⟩
  cases hread : codec.read bytes with
  | error e =>
    rw [hread] at h
    cases h
  | ok b =>
    rw [hread] at h
    cases h
    rfl

/-! ## Output -/

/-- a command has ended well, with exit code 0; its output is the document of a value with a line for each entry and a
line end behind it, and is read as that value -/
structure Result.Shows (codec : Codec α) (a : α) (result : Result) : Prop where
  exitCode : result.exitCode = 0
  output : result.output = (codec.toJson a).pretty ++ "\n"
  errors : result.errors = ""
  reads : codec.read (Utf8.encode result.output) = .ok a

theorem shows_printed {codec : Codec α} {a : α} (h : codec.ReadsBack nestingLimit a a) :
    Result.Shows codec a (printed (codec.toJson a).pretty) where
  exitCode := rfl
  output := rfl
  errors := rfl
  reads := Codec.read_pretty h (Json.isGap_lineStart 0)

end Command

end ToolGateway
