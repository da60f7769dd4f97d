import ToolGateway.Gateway

/-!
A batch of reviews, each by a task of its own.

All tasks are started at once and wait for one of a few permits. With a permit a task reviews its tool, gives the
permit back, and adds its record to the list of the batch. Which task gets on next is left to a schedule. When every
task has added its record, the batch answers with the records in the order of their names.
-/

namespace ToolGateway

inductive Ending where
  /-- it has reviewed its tool -/
  | reviewed
  /-- its review broke off -/
  | brokenOff (cause : String)
  /-- it was refused a permit for good -/
  | turnedAway (cause : String)
  deriving DecidableEq, Repr

structure Ended where
  tool : Tool
  ending : Ending

/-- the record of a task that has ended; `scans` says whether descriptions are screened -/
def Ended.record (scans : Bool) (e : Ended) : Review :=
  match e.ending with
  | .reviewed => e.tool.review scans
  | .brokenOff cause => .refused e.tool.name ("validation task failed: " ++ cause)
  | .turnedAway cause => .refused e.tool.name ("validation pool closed: " ++ cause)

structure Batch where
  /-- how many tasks may review at a time -/
  permits : Nat
  /-- the tools of the tasks that have no permit yet -/
  waiting : List Tool
  /-- the tools of the tasks that have one -/
  running : List Tool := []
  /-- the tasks that have given it back and not yet added their record -/
  ended : List Ended := []
  /-- the tasks whose record has been added, the first one first -/
  added : List Ended := []

def Batch.permitLimit : Nat := 0x1FFFFFFFFFFFFFFF

/-- as many permits as the configuration asks for, but at least one -/
def Configuration.ValidationSection.permits (v : Configuration.ValidationSection) : Nat :=
  max 1 (min v.maxConcurrency Batch.permitLimit)

/-- the batch of some tools, as it begins -/
def Gateway.batch (g : Gateway) (tools : List Tool) : Batch where
  permits := g.configuration.validation.permits
  waiting := tools

namespace Batch

/-- what a task does; it is the one at this place among those that can do it -/
inductive Event where
  /-- it gets a permit -/
  | grant (place : Nat)
  /-- it is refused a permit for good -/
  | turnAway (place : Nat) (cause : String)
  /-- it reviews its tool -/
  | review (place : Nat)
  /-- its review breaks off -/
  | breakOff (place : Nat) (cause : String)
  /-- it adds its record -/
  | add (place : Nat)
  deriving DecidableEq, Repr

/-- whether a task gets on as it should -/
def Event.isSmooth : Event → Bool
  | .turnAway .. | .breakOff .. => false
  | _ => true

/-- the item at a place, and the items without it -/
def takeAt {α : Type} (place : Nat) (items : List α) : Option (α × List α) :=
  items[place]?.map (·, items.eraseIdx place)

/-- the batch after an event, unless it cannot happen -/
def step (b : Batch) : Event → Option Batch
  | .grant place =>
    if b.running.length < b.permits then
      (takeAt place b.waiting).map fun (t, waiting) => { b with waiting, running := b.running ++ [t] }
    else none
  | .turnAway place cause =>
    (takeAt place b.waiting).map fun (t, waiting) => { b with waiting, ended := b.ended ++ [⟨t, .turnedAway cause⟩] }
  | .review place =>
    (takeAt place b.running).map fun (t, running) => { b with running, ended := b.ended ++ [⟨t, .reviewed⟩] }
  | .breakOff place cause =>
    (takeAt place b.running).map fun (t, running) => { b with running, ended := b.ended ++ [⟨t, .brokenOff cause⟩] }
  | .add place =>
    (takeAt place b.ended).map fun (e, ended) => { b with ended, added := b.added ++ [e] }

/-- the batch after a schedule, unless one of its events cannot happen -/
def run (b : Batch) (schedule : List Event) : Option Batch :=
  schedule.foldlM step b

def IsComplete (b : Batch) : Prop :=
  b.waiting = [] ∧ b.running = [] ∧ b.ended = []

def answer (scans : Bool) (b : Batch) : List Review :=
  Review.sortByName (b.added.map (·.record scans))

end Batch

end ToolGateway
