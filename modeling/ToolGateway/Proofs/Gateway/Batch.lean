import ToolGateway.Gateway.Batch
import ToolGateway.Proofs.Bytes.Utf8

/-!
A batch of reviews under every schedule.

The tasks of a batch get on in any order, as far as there are permits, so the records come in any order. What an event
does is said once (`Moves`): it moves one task one stage further. So no task is lost or doubled on the way
(`Moves.tools_perm`), and a batch has a number of events left that every event lowers (`Moves.toDo_lt`). A batch that
is not complete can always go on, since there is at least one permit (`exists_step`).

- `Tool.review_judges`, `Ended.record_judges`: a record has the checksum of a good tool or a cause, never both, however
  its task ends.
- `run_inv`: what holds of a batch after any schedule.
- `Answers.perm`: the answer is a permutation of the single reviews.
- `batch_faithful`: all of it, for every gateway and every list of tools.
-/

namespace ToolGateway

open Utf8

/-! ## Records -/

/-- a text that begins with some words is not empty -/
theorem append_ne_empty {words : String} (rest : String) (h : words ≠ "") : words ++ rest ≠ "" :=
  fun heq => h (String.append_eq_empty_iff.1 heq).1

theorem HiddenText.Alarm.message_ne_empty (alarm : HiddenText.Alarm) : alarm.message ≠ "" := by
  cases alarm with
  | hidden count => exact append_ne_empty _ (append_ne_empty _ (by decide))
  | tooLarge size =>
    exact append_ne_empty _ (append_ne_empty _ (append_ne_empty _ (append_ne_empty _ (by decide))))

theorem RegistryFault.message_ne_empty (fault : RegistryFault) : fault.message ≠ "" := by
  cases fault with
  | missingCredentials => decide
  | missingSchema name | unsigned name | notFound name | checksumMismatch name _ _ | fingerprintMismatch name _ _ =>
    exact append_ne_empty _ (append_ne_empty _ (by decide))
  | _ => exact append_ne_empty _ (by decide)

namespace Review

variable {r : Review} {t : Tool} {error : String}

/-- a record of the tool: it has the checksum of the tool and no error, or no checksum and an error -/
def Judges (r : Review) (t : Tool) : Prop :=
  r.name = t.name ∧
    ((r.isValid = true ∧ r.checksum = t.checksum ∧ r.error = "") ∨
      (r.isValid = false ∧ r.checksum = "" ∧ r.error ≠ ""))

theorem judges_passed (t : Tool) : (passed t.name t.checksum).Judges t :=
  ⟨rfl, .inl ⟨rfl, rfl, rfl⟩⟩

theorem judges_refused (t : Tool) (h : error ≠ "") : (refused t.name error).Judges t :=
  ⟨rfl, .inr ⟨rfl, rfl, h⟩⟩

theorem sortByName_perm (records : List Review) : (sortByName records).Perm records :=
  List.mergeSort_perm _ _

/-- the names stand in the order of their octets -/
theorem sortByName_ascending (records : List Review) :
    (sortByName records).Pairwise fun r s => encode r.name ≤ encode s.name := by
  have hnames : (sortByName records).Pairwise fun r s => decide (r.name ≤ s.name) = true := by
    apply List.pairwise_mergeSort
    · intro a b c hab hbc
      rw [decide_eq_true_eq] at hab hbc ⊢
      exact Std.le_trans hab hbc
    · intro a b
      rw [Bool.or_eq_true, decide_eq_true_eq, decide_eq_true_eq]
      exact Std.le_total
  refine hnames.imp fun {r s} hle => ?_
  rw [decide_eq_true_eq] at hle
  intro hlt
  exact absurd (encode_lt_encode.1 hlt) (Std.not_lt.2 hle)

/-- records that stand in the order of their names are left where they are -/
theorem sortByName_eq_self {records : List Review} (h : records.Pairwise fun r s => r.name ≤ s.name) :
    sortByName records = records := by
  apply List.mergeSort_of_pairwise
  exact h.imp fun hle => decide_eq_true hle

end Review

/-- **A review gives the checksum or a cause, never both.** -/
theorem Tool.review_judges (t : Tool) (scans : Bool) : (t.review scans).Judges t := by
  rw [Tool.review]
  cases (if scans then HiddenText.screen t.description else .ok ()) with
  | error alarm => exact Review.judges_refused t alarm.message_ne_empty
  | ok _ =>
    cases t.verify with
    | error fault => exact Review.judges_refused t fault.message_ne_empty
    | ok _ => exact Review.judges_passed t

/-- so does the record of a task, however it ends -/
theorem Ended.record_judges (e : Ended) (scans : Bool) : (e.record scans).Judges e.tool := by
  obtain ⟨t, ending⟩ := e
  cases ending with
  | reviewed => exact t.review_judges scans
  | brokenOff cause => exact Review.judges_refused t (append_ne_empty cause (by decide))
  | turnedAway cause => exact Review.judges_refused t (append_ne_empty cause (by decide))

namespace Batch

variable {b c : Batch} {e : Event} {schedule : List Event}

/-! ## One event -/

theorem takeAt_perm {α : Type} {place : Nat} {items rest : List α} {a : α} (h : takeAt place items = some (a, rest)) :
    items.Perm (a :: rest) := by
  obtain ⟨found, hfound, hpair⟩ := Option.map_eq_some_iff.1 h
  obtain ⟨hlt, rfl⟩ := List.getElem?_eq_some_iff.1 hfound
  cases hpair
  exact (List.getElem_cons_eraseIdx_perm hlt).symm

/-- an event moves one task one stage further -/
inductive Moves (b : Batch) (e : Event) : Batch → Prop where
  | granted {t : Tool} {waiting : List Tool} (free : b.running.length < b.permits)
      (taken : b.waiting.Perm (t :: waiting)) : Moves b e { b with waiting, running := b.running ++ [t] }
  | turnedAway {t : Tool} {waiting : List Tool} {ending : Ending} (rough : e.isSmooth = false)
      (taken : b.waiting.Perm (t :: waiting)) : Moves b e { b with waiting, ended := b.ended ++ [⟨t, ending⟩] }
  | finished {t : Tool} {running : List Tool} {ending : Ending} (smooth : e.isSmooth = true → ending = .reviewed)
      (taken : b.running.Perm (t :: running)) : Moves b e { b with running, ended := b.ended ++ [⟨t, ending⟩] }
  | recorded {x : Ended} {ended : List Ended} (taken : b.ended.Perm (x :: ended)) :
      Moves b e { b with ended, added := b.added ++ [x] }

theorem moves_of_step (h : b.step e = some c) : b.Moves e c := by
  cases e with
  | grant place =>
    rw [step] at h
    split_ifs at h with hfree
    obtain ⟨⟨t, waiting⟩, htaken, rfl⟩ := Option.map_eq_some_iff.1 h
    exact .granted hfree (takeAt_perm htaken)
  | turnAway place cause =>
    obtain ⟨⟨t, waiting⟩, htaken, rfl⟩ := Option.map_eq_some_iff.1 h
    exact .turnedAway rfl (takeAt_perm htaken)
  | review place =>
    obtain ⟨⟨t, running⟩, htaken, rfl⟩ := Option.map_eq_some_iff.1 h
    exact .finished (fun _ => rfl) (takeAt_perm htaken)
  | breakOff place cause =>
    obtain ⟨⟨t, running⟩, htaken, rfl⟩ := Option.map_eq_some_iff.1 h
    exact .finished nofun (takeAt_perm htaken)
  | add place =>
    obtain ⟨⟨x, ended⟩, htaken, rfl⟩ := Option.map_eq_some_iff.1 h
    exact .recorded (takeAt_perm htaken)

/-- the tools of all tasks, wherever they stand -/
def tools (b : Batch) : List Tool :=
  b.waiting ++ b.running ++ (b.ended.map (·.tool) ++ b.added.map (·.tool))

/-- the most events that can still happen -/
def toDo (b : Batch) : Nat :=
  3 * b.waiting.length + 2 * b.running.length + b.ended.length

/-- **No event loses a task or doubles one.** -/
theorem Moves.tools_perm (h : b.Moves e c) : c.tools.Perm b.tools := by
  rw [← Multiset.coe_eq_coe]
  cases h with
  | granted _ taken | turnedAway _ taken | finished _ taken =>
    have htaken := Multiset.coe_eq_coe.2 taken
    simp only [tools, List.map_append, List.map_cons, List.map_nil, ← Multiset.coe_add, htaken,
      ← Multiset.cons_coe, ← Multiset.singleton_add]
    abel
  | recorded taken =>
    have htaken := Multiset.coe_eq_coe.2 (taken.map (·.tool))
    simp only [tools, List.map_append, List.map_cons, List.map_nil, ← Multiset.coe_add, htaken,
      ← Multiset.cons_coe, ← Multiset.singleton_add]
    abel

/-- an event lowers what is left to do -/
theorem Moves.toDo_lt (h : b.Moves e c) : c.toDo < b.toDo := by
  cases h with
  | granted _ taken | turnedAway _ taken | finished _ taken | recorded taken =>
    have hlength := taken.length_eq
    simp only [toDo, List.length_append, List.length_cons, List.length_nil] at hlength ⊢
    omega

/-- there are never more tasks with a permit than permits -/
theorem Moves.within (h : b.Moves e c) (hwithin : b.running.length ≤ b.permits) :
    c.permits = b.permits ∧ c.running.length ≤ b.permits := by
  cases h with
  | granted free taken =>
    refine ⟨rfl, ?_⟩
    simp only [List.length_append, List.length_cons, List.length_nil]
    omega
  | finished smooth taken =>
    have hlength := taken.length_eq
    refine ⟨rfl, ?_⟩
    simp only [List.length_cons] at hlength ⊢
    omega
  | turnedAway | recorded => exact ⟨rfl, hwithin⟩

/-- every task that has ended has reviewed its tool -/
structure AllReviewed (b : Batch) : Prop where
  ended : ∀ x ∈ b.ended, x.ending = .reviewed
  added : ∀ x ∈ b.added, x.ending = .reviewed

theorem Moves.allReviewed (h : b.Moves e c) (hsmooth : e.isSmooth = true) (hall : b.AllReviewed) : c.AllReviewed := by
  cases h with
  | granted => exact ⟨hall.ended, hall.added⟩
  | turnedAway rough =>
    rw [hsmooth] at rough
    cases rough
  | finished smooth taken =>
    refine ⟨?_, hall.added⟩
    intro x hx
    rcases List.mem_append.1 hx with hx | hx
    · exact hall.ended x hx
    · rw [List.mem_singleton.1 hx]
      exact smooth hsmooth
  | recorded taken =>
    refine ⟨?_, ?_⟩
    · intro x hx
      exact hall.ended x (taken.mem_iff.2 (List.mem_cons_of_mem _ hx))
    · intro x hx
      rcases List.mem_append.1 hx with hx | hx
      · exact hall.added x hx
      · rw [List.mem_singleton.1 hx]
        exact hall.ended _ (taken.mem_iff.2 List.mem_cons_self)

/-- **A batch that is not complete can go on**, as long as there is a permit at all. -/
theorem exists_step (hpermits : 0 < b.permits) (hopen : ¬ b.IsComplete) :
    ∃ e, e.isSmooth = true ∧ (b.step e).isSome = true := by
  obtain ⟨permits, waiting, running, ended, added⟩ := b
  cases ended with
  | cons x ended => exact ⟨.add 0, rfl, rfl⟩
  | nil =>
    cases running with
    | cons t running => exact ⟨.review 0, rfl, rfl⟩
    | nil =>
      cases waiting with
      | cons t waiting =>
        have hgranted : step { permits, waiting := t :: waiting, added } (.grant 0) =
            some { permits, waiting, running := [t], added } := if_pos hpermits
        exact ⟨.grant 0, rfl, congrArg Option.isSome hgranted⟩
      | nil => exact absurd ⟨rfl, rfl, rfl⟩ hopen

/-! ## A schedule -/

/-- what holds of a batch of these tools at any time -/
structure Inv (permits : Nat) (ts : List Tool) (b : Batch) : Prop where
  tools : b.tools.Perm ts
  allowed : b.permits = permits
  within : b.running.length ≤ permits

variable {permits : Nat} {ts : List Tool}

theorem step_inv (hinv : Inv permits ts b) (h : b.step e = some c) : Inv permits ts c := by
  have hmoves := moves_of_step h
  obtain ⟨hsame, hwithin⟩ := hmoves.within (hinv.within.trans_eq hinv.allowed.symm)
  rw [hinv.allowed] at hsame hwithin
  exact ⟨hmoves.tools_perm.trans hinv.tools, hsame, hwithin⟩

theorem run_cons (b : Batch) (e : Event) (schedule : List Event) :
    b.run (e :: schedule) = (b.step e).bind fun c => c.run schedule := rfl

/-- **The invariant holds after any schedule.** -/
theorem run_inv (hinv : Inv permits ts b) (h : b.run schedule = some c) : Inv permits ts c := by
  induction schedule generalizing b with
  | nil =>
    cases h
    exact hinv
  | cons e schedule ih =>
    rw [run_cons] at h
    obtain ⟨next, hstep, hrest⟩ := Option.bind_eq_some_iff.1 h
    exact ih (step_inv hinv hstep) hrest

/-- **No schedule is longer than what there was to do.** -/
theorem run_length_le (h : b.run schedule = some c) : schedule.length + c.toDo ≤ b.toDo := by
  induction schedule generalizing b with
  | nil =>
    cases h
    simp
  | cons e schedule ih =>
    rw [run_cons] at h
    obtain ⟨next, hstep, hrest⟩ := Option.bind_eq_some_iff.1 h
    have hlower := (moves_of_step hstep).toDo_lt
    have hrest := ih hrest
    rw [List.length_cons]
    omega

theorem run_allReviewed (hall : b.AllReviewed) (hsmooth : ∀ e ∈ schedule, e.isSmooth = true)
    (h : b.run schedule = some c) : c.AllReviewed := by
  induction schedule generalizing b with
  | nil =>
    cases h
    exact hall
  | cons e schedule ih =>
    rw [run_cons] at h
    rw [List.forall_mem_cons] at hsmooth
    obtain ⟨next, hstep, hrest⟩ := Option.bind_eq_some_iff.1 h
    exact ih ((moves_of_step hstep).allReviewed hsmooth.1 hall) hsmooth.2 hrest

/-- the schedule by which one task after the other does all it has to do -/
def inOrder : List Tool → List Event
  | [] => []
  | _ :: rest => .grant 0 :: .review 0 :: .add 0 :: inOrder rest

theorem inOrder_smooth (ts : List Tool) : ∀ e ∈ inOrder ts, e.isSmooth = true := by
  induction ts with
  | nil => simp [inOrder]
  | cons t rest ih => simpa [inOrder, Event.isSmooth] using ih

theorem run_inOrder (hpermits : 0 < permits) (ts : List Tool) (added : List Ended) :
    run { permits, waiting := ts, added } (inOrder ts) =
      some { permits, waiting := [], added := added ++ ts.map (⟨·, .reviewed⟩) } := by
  induction ts generalizing added with
  | nil => simp [inOrder, run]
  | cons t rest ih =>
    have hgranted : step { permits, waiting := t :: rest, added } (.grant 0) =
        some { permits, waiting := rest, running := [t], added } := if_pos hpermits
    rw [inOrder, run_cons, hgranted]
    have hrest := ih (added ++ [⟨t, .reviewed⟩])
    rw [List.append_assoc] at hrest
    exact hrest

/-! ## The answer -/

/-- once the batch is complete, the tasks whose records it has are those of all tools -/
theorem Inv.added_perm (hinv : Inv permits ts b) (hdone : b.IsComplete) : (b.added.map (·.tool)).Perm ts := by
  obtain ⟨hwaiting, hrunning, hended⟩ := hdone
  have htools := hinv.tools
  rw [Batch.tools, hwaiting, hrunning, hended] at htools
  exact htools

/-- **The answer has one record for each tool, and it is a record of that tool.** -/
theorem Inv.answer_judges (hinv : Inv permits ts b) (hdone : b.IsComplete) (scans : Bool) :
    ∃ order, order.Perm ts ∧ List.Forall₂ Review.Judges (b.answer scans) order := by
  have hadded : List.Forall₂ Review.Judges (b.added.map (·.record scans)) (b.added.map (·.tool)) := by
    rw [List.forall₂_map_left_iff, List.forall₂_map_right_iff, List.forall₂_same]
    intro x _
    exact x.record_judges scans
  obtain ⟨order, hjudges, horder⟩ := List.perm_comp_forall₂ (Review.sortByName_perm _) hadded
  exact ⟨order, horder.trans (hinv.added_perm hdone), hjudges⟩

/-- of tasks that have all reviewed their tools, the records are the reviews -/
theorem Inv.answer_perm (hinv : Inv permits ts b) (hdone : b.IsComplete) (hall : b.AllReviewed) (scans : Bool) :
    (b.answer scans).Perm (ts.map (·.review scans)) := by
  have hrecords : b.added.map (·.record scans) = (b.added.map (·.tool)).map (·.review scans) := by
    rw [List.map_map]
    refine List.map_congr_left fun x hx => ?_
    rw [Ended.record, hall.added x hx]
    rfl
  have hsorted : (b.answer scans).Perm (b.added.map (·.record scans)) := Review.sortByName_perm _
  rw [hrecords] at hsorted
  exact hsorted.trans ((hinv.added_perm hdone).map _)

end Batch

namespace Gateway

open Batch

variable {g : Gateway} {ts : List Tool} {records : List Review}

theorem batch_inv (g : Gateway) (ts : List Tool) : Inv g.configuration.validation.permits ts (g.batch ts) where
  tools := by simp [Batch.tools, batch]
  allowed := rfl
  within := Nat.zero_le _

theorem permits_pos (g : Gateway) : 0 < g.configuration.validation.permits :=
  Nat.lt_of_lt_of_le Nat.zero_lt_one (Nat.le_max_left _ _)

/-- these records are the answer to a batch of these tools under some schedule by which all tasks get on as they
should -/
def Answers (g : Gateway) (ts : List Tool) (records : List Review) : Prop :=
  ∃ schedule done, (∀ e ∈ schedule, e.isSmooth = true) ∧ (g.batch ts).run schedule = some done ∧ done.IsComplete ∧
    records = done.answer g.configuration.validation.scansDescriptions

/-- **The answer is a permutation of the single reviews.** -/
theorem Answers.perm (h : g.Answers ts records) : records.Perm (ts.map g.review) := by
  obtain ⟨schedule, done, hsmooth, hrun, hdone, rfl⟩ := h
  have hall : done.AllReviewed := run_allReviewed ⟨by simp [batch], by simp [batch]⟩ hsmooth hrun
  exact (run_inv (batch_inv g ts) hrun).answer_perm hdone hall _

/-- it is sorted by the octets of the names -/
theorem Answers.sorted (h : g.Answers ts records) : records.Pairwise fun r s => encode r.name ≤ encode s.name := by
  obtain ⟨schedule, done, -, -, -, rfl⟩ := h
  exact Review.sortByName_ascending _

/-- the reviews one after another are such an answer -/
theorem answers_reviewAll (g : Gateway) (ts : List Tool) : g.Answers ts (g.reviewAll ts) := by
  refine ⟨inOrder ts, _, inOrder_smooth ts, run_inOrder g.permits_pos ts [], ⟨rfl, rfl, rfl⟩, ?_⟩
  rw [answer, List.nil_append, List.map_map]
  rfl

/-- a changed tool changes its own record and no other -/
theorem Answers.change {before after : List Tool} {t u : Tool} {changed : List Review}
    (h : g.Answers (before ++ t :: after) records) (hchanged : g.Answers (before ++ u :: after) changed) :
    ∃ others, records.Perm (g.review t :: others) ∧ changed.Perm (g.review u :: others) := by
  have hmiddle : ∀ x, ((before ++ x :: after).map g.review).Perm (g.review x :: (before ++ after).map g.review) := by
    intro x
    exact List.perm_middle.map g.review
  exact ⟨(before ++ after).map g.review, h.perm.trans (hmiddle t), hchanged.perm.trans (hmiddle u)⟩

/-! ## Main result -/

/-- **A batch loses, doubles and mixes up nothing.** For every configuration and every list of tools, with repeated
names, bad tools or none at all:

- Under every schedule the batch comes to an end: it takes at most three events for each task, and one that is not
  complete can go on. There are never more tasks with a permit than the configuration allows.
- When it is complete, the records stand in the order of the octets of their names; there is one for each tool, and it
  has the checksum of the tool and no error, or no checksum and an error. That is so even if tasks broke off.
- If all tasks get on as they should, the records are those of the single reviews, in the order of their names. The
  reviews one after another are an example. Of another list that differs in one tool, each answer differs in one
  record. -/
theorem batch_faithful (g : Gateway) (ts : List Tool) :
    (∀ schedule b, (g.batch ts).run schedule = some b →
      schedule.length ≤ 3 * ts.length ∧
      (b.IsComplete ∨ ∃ e, e.isSmooth = true ∧ (b.step e).isSome = true) ∧
      b.running.length ≤ g.configuration.validation.permits ∧
      (b.IsComplete →
        (b.answer g.configuration.validation.scansDescriptions).Pairwise (fun r s => encode r.name ≤ encode s.name) ∧
        ∃ order, order.Perm ts ∧
          List.Forall₂ Review.Judges (b.answer g.configuration.validation.scansDescriptions) order)) ∧
    g.Answers ts (g.reviewAll ts) ∧
    ∀ records, g.Answers ts records →
      records.Perm (ts.map g.review) ∧ records.Pairwise (fun r s => encode r.name ≤ encode s.name) ∧
      ∀ before t u after changed, ts = before ++ t :: after → g.Answers (before ++ u :: after) changed →
        ∃ others, records.Perm (g.review t :: others) ∧ changed.Perm (g.review u :: others) := by
  refine ⟨?_, answers_reviewAll g ts, ?_⟩
  · intro schedule b hrun
    have hinv := run_inv (batch_inv g ts) hrun
    have hlength := run_length_le hrun
    have hstart : (g.batch ts).toDo = 3 * ts.length := by simp [toDo, batch]
    refine ⟨by omega, ?_, hinv.within, ?_⟩
    · by_cases hdone : b.IsComplete
      · exact .inl hdone
      · exact .inr (exists_step (hinv.allowed ▸ g.permits_pos) hdone)
    · intro hdone
      exact ⟨Review.sortByName_ascending _, hinv.answer_judges hdone _⟩
  · intro records h
    refine ⟨h.perm, h.sorted, ?_⟩
    rintro before t u after changed rfl hchanged
    exact h.change hchanged

/-- with one permit, a tool is overtaken by a later one of the same name; then the first of the two is changed -/
theorem batch_faithful_overtaken :
    let g := ofConfiguration { validation := { maxConcurrency := 0 } }
    let t : Tool := { Tool.named "t" with description := "a\u200b" }
    let u : Tool := Tool.named "t"
    let records := [g.review u, g.review t]
    g.configuration.validation.permits = 1 ∧ g.Answers [t, u] records ∧ records.Perm [g.review t, g.review u] ∧
      records.Pairwise (fun r s => encode r.name ≤ encode s.name) ∧
      ∃ others, records.Perm (g.review t :: others) ∧ (g.reviewAll [u, u]).Perm (g.review u :: others) := by
  intro g t u records
  let schedule : List Event := [.grant 1, .review 0, .add 0, .grant 0, .review 0, .add 0]
  let done : Batch := { permits := 1, waiting := [], added := [⟨u, .reviewed⟩, ⟨t, .reviewed⟩] }
  have hrun : (g.batch [t, u]).run schedule = some done := rfl
  have hdone : done.IsComplete := ⟨rfl, rfl, rfl⟩
  have hname : ∀ x : Tool, (g.review x).name = x.name := fun x => (x.review_judges _).1
  have hsorted : records = done.answer g.configuration.validation.scansDescriptions := by
    refine (Review.sortByName_eq_self ?_).symm
    refine List.pairwise_pair.2 ?_
    exact (hname u).trans (hname t).symm ▸ Std.le_refl _
  have hanswers : g.Answers [t, u] records := ⟨schedule, done, by decide, hrun, hdone, hsorted⟩
  obtain ⟨-, -, hall⟩ := batch_faithful g [t, u]
  obtain ⟨-, hexample, -⟩ := batch_faithful g [u, u]
  obtain ⟨hperm, hascending, hchange⟩ := hall records hanswers
  exact ⟨rfl, hanswers, hperm, hascending, hchange [] t u [u] _ rfl hexample⟩

end Gateway

end ToolGateway
