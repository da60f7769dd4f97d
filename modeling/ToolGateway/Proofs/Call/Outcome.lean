import ToolGateway.Call

/-!
Three outcomes: the data is good, the data is wrong, or it could not be checked.

How a check ends is written down as a table, one constructor for each row, and each row says all that it needs
(`InputEnds`, `OutputEnds`). The tables differ in two places: without an input schema nothing can be called, while
without an output schema anything may be answered; and arguments are read before the schema is compiled, while a result
is read after. How schemas work is any function, and a schema that is `null` counts as none.

- `checkInput_ends`, `checkOutput_ends`: every check ends in a row of its table, and in no other row.
- `InputEnds.told`, `OutputEnds.told`: what the cause of such an end says of itself.
- `outcomes_decided`: both together, for tools and for descriptions.
-/

namespace ToolGateway

/-! ## The tables -/

/-- there is no schema; `null` counts as none -/
def Unset (schema : Option Json) : Prop :=
  schema = none ∨ schema = some .null

/-- this is the schema, and it is not `null` -/
def Given (schema : Option Json) (s : Json) : Prop :=
  schema = some s ∧ s ≠ .null

/-- how a check of arguments ends -/
inductive InputEnds (engine : Engine) (name : String) (schema : Option Json) (arguments : Bytes) : Outcome → Prop where
  | missing (hschema : Unset schema) :
    InputEnds engine name schema arguments (.failed (.missingInputSchema name))
  /-- whether the schema can be compiled is not asked -/
  | unreadable {s : Json} {e : ReadError} (hschema : Given schema s) (hread : Json.read arguments = .error e) :
    InputEnds engine name schema arguments (.error (.inputUnreadable name e.message))
  | uncompiled {s document : Json} {detail : String} (hschema : Given schema s)
    (hread : Json.read arguments = .ok document) (hcompile : engine s = .error detail) :
    InputEnds engine name schema arguments (.error (.badInputSchema name detail))
  | accepted {s document : Json} {violations : Json → List Violation} (hschema : Given schema s)
    (hread : Json.read arguments = .ok document) (hcompile : engine s = .ok violations)
    (hgood : violations document = []) : InputEnds engine name schema arguments .succeeded
  | rejected {s document : Json} {violations : Json → List Violation} (hschema : Given schema s)
    (hread : Json.read arguments = .ok document) (hcompile : engine s = .ok violations)
    (hwrong : violations document ≠ []) :
    InputEnds engine name schema arguments (.failed (.inputRejected name ((violations document).map Violation.line)))

/-- how a check of a result ends -/
inductive OutputEnds (engine : Engine) (name : String) (schema : Option Json) (raw : String) : Outcome → Prop where
  | unpromised (hschema : Unset schema) : OutputEnds engine name schema raw .succeeded
  /-- whether the result can be read is not asked -/
  | uncompiled {s : Json} {detail : String} (hschema : Given schema s) (hcompile : engine s = .error detail) :
    OutputEnds engine name schema raw (.error (.badOutputSchema name detail))
  | unreadable {s : Json} {violations : Json → List Violation} {e : ReadError} (hschema : Given schema s)
    (hcompile : engine s = .ok violations) (hread : Json.readText raw = .error e) :
    OutputEnds engine name schema raw (.error (.outputUnreadable name e.message))
  | accepted {s document : Json} {violations : Json → List Violation} (hschema : Given schema s)
    (hcompile : engine s = .ok violations) (hread : Json.readText raw = .ok document)
    (hgood : violations document = []) : OutputEnds engine name schema raw .succeeded
  | rejected {s document : Json} {violations : Json → List Violation} (hschema : Given schema s)
    (hcompile : engine s = .ok violations) (hread : Json.readText raw = .ok document)
    (hwrong : violations document ≠ []) :
    OutputEnds engine name schema raw (.failed (.outputRejected name ((violations document).map Violation.line) raw))

/-- what an outcome says of itself: wrong data is refused by policy or for its content, a check that could not run is
internal, violations are listed exactly for refused content, a line each, and exactly a good end has no text -/
structure Outcome.Told (o : Outcome) : Prop where
  failed : ∀ cause, o = .failed cause → cause.faultClass = .policy ∨ cause.faultClass = .content
  error : ∀ cause, o = .error cause → cause.faultClass = .internal
  violations : ∀ cause, o.cause? = some cause → (cause.violations ≠ [] ↔ cause.faultClass = .content)
  lines : ∀ cause, o.cause? = some cause → ∀ line ∈ cause.violations, "- ".toList <+: line.toList
  report : o.report.error = none ↔ o = .succeeded

variable {engine : Engine} {name raw : String} {schema : Option Json} {arguments : Bytes} {o : Outcome}

/-! ## Schemas -/

theorem presentSchema_of_unset (h : Unset schema) : presentSchema schema = none := by
  rcases h with rfl | rfl <;> rfl

theorem presentSchema_of_given {s : Json} (h : Given schema s) : presentSchema schema = some s := by
  obtain ⟨rfl, hne⟩ := h
  cases s with
  | null => exact absurd rfl hne
  | _ => rfl

theorem unset_or_given (schema : Option Json) : Unset schema ∨ ∃ s, Given schema s := by
  cases schema with
  | none => exact .inl (.inl rfl)
  | some s =>
    by_cases hnull : s = .null
    · exact .inl (.inr (congrArg some hnull))
    · exact .inr ⟨s, rfl, hnull⟩

theorem not_given_of_unset (h : Unset schema) {s : Json} : ¬ Given schema s := by
  rintro ⟨rfl, hne⟩
  rcases h with h | h
  · cases h
  · exact hne (Option.some.inj h)

theorem Given.unique {s s' : Json} (h : Given schema s) (h' : Given schema s') : s' = s :=
  Option.some.inj (h'.1.symm.trans h.1)

/-! ## The checks -/

theorem checkInput_of_ends (output : Option Json) (h : InputEnds engine name schema arguments o) :
    Contract.checkInput engine ⟨name, presentSchema schema, output⟩ arguments = o := by
  cases h with
  | missing hschema => simp only [Contract.checkInput, presentSchema_of_unset hschema]
  | unreadable hschema hread => simp only [Contract.checkInput, presentSchema_of_given hschema, hread]
  | uncompiled hschema hread hcompile =>
    simp only [Contract.checkInput, Contract.checkValue, presentSchema_of_given hschema, hread, hcompile]
  | accepted hschema hread hcompile hgood =>
    simp only [Contract.checkInput, Contract.checkValue, presentSchema_of_given hschema, hread, hcompile, hgood]
  | @rejected s document violations hschema hread hcompile hwrong =>
    obtain ⟨first, rest, hfound⟩ := List.exists_cons_of_ne_nil hwrong
    simp only [Contract.checkInput, Contract.checkValue, presentSchema_of_given hschema, hread, hcompile, hfound]

theorem checkOutput_of_ends (input : Option Json) (h : OutputEnds engine name schema raw o) :
    Contract.checkOutput engine ⟨name, input, presentSchema schema⟩ raw = o := by
  cases h with
  | unpromised hschema => simp only [Contract.checkOutput, presentSchema_of_unset hschema]
  | uncompiled hschema hcompile => simp only [Contract.checkOutput, presentSchema_of_given hschema, hcompile]
  | unreadable hschema hcompile hread =>
    simp only [Contract.checkOutput, presentSchema_of_given hschema, hread, hcompile]
  | accepted hschema hcompile hread hgood =>
    simp only [Contract.checkOutput, presentSchema_of_given hschema, hread, hcompile, hgood]
  | @rejected s document violations hschema hcompile hread hwrong =>
    obtain ⟨first, rest, hfound⟩ := List.exists_cons_of_ne_nil hwrong
    simp only [Contract.checkOutput, presentSchema_of_given hschema, hread, hcompile, hfound]

/-- every check of arguments has a row -/
theorem exists_inputEnds (engine : Engine) (name : String) (schema : Option Json) (arguments : Bytes) :
    ∃ o, InputEnds engine name schema arguments o := by
  rcases unset_or_given schema with hschema | ⟨s, hschema⟩
  · exact ⟨_, .missing hschema⟩
  cases hread : Json.read arguments with
  | error e => exact ⟨_, .unreadable hschema hread⟩
  | ok document =>
    cases hcompile : engine s with
    | error detail => exact ⟨_, .uncompiled hschema hread hcompile⟩
    | ok violations =>
      by_cases hgood : violations document = []
      · exact ⟨_, .accepted hschema hread hcompile hgood⟩
      · exact ⟨_, .rejected hschema hread hcompile hgood⟩

/-- so has every check of a result -/
theorem exists_outputEnds (engine : Engine) (name : String) (schema : Option Json) (raw : String) :
    ∃ o, OutputEnds engine name schema raw o := by
  rcases unset_or_given schema with hschema | ⟨s, hschema⟩
  · exact ⟨_, .unpromised hschema⟩
  cases hcompile : engine s with
  | error detail => exact ⟨_, .uncompiled hschema hcompile⟩
  | ok violations =>
    cases hread : Json.readText raw with
    | error e => exact ⟨_, .unreadable hschema hcompile hread⟩
    | ok document =>
      by_cases hgood : violations document = []
      · exact ⟨_, .accepted hschema hcompile hread hgood⟩
      · exact ⟨_, .rejected hschema hcompile hread hgood⟩

theorem checkInput_ends (output : Option Json) :
    Contract.checkInput engine ⟨name, presentSchema schema, output⟩ arguments = o ↔
      InputEnds engine name schema arguments o := by
  refine ⟨fun h => ?_, checkInput_of_ends output⟩
  obtain ⟨ending, hends⟩ := exists_inputEnds engine name schema arguments
  rw [← h, checkInput_of_ends output hends]
  exact hends

theorem checkOutput_ends (input : Option Json) :
    Contract.checkOutput engine ⟨name, input, presentSchema schema⟩ raw = o ↔ OutputEnds engine name schema raw o := by
  refine ⟨fun h => ?_, checkOutput_of_ends input⟩
  obtain ⟨ending, hends⟩ := exists_outputEnds engine name schema raw
  rw [← h, checkOutput_of_ends input hends]
  exact hends

/-! ## What the ends say of themselves -/

namespace Outcome

theorem told_succeeded : Told .succeeded where
  failed := nofun
  error := nofun
  violations := nofun
  lines := nofun
  report := iff_of_true rfl rfl

/-- the violations of a document are reported a line each -/
theorem prefix_line {found : List Violation} : ∀ line ∈ found.map Violation.line, "- ".toList <+: line.toList := by
  intro line hline
  obtain ⟨v, -, rfl⟩ := List.mem_map.1 hline
  simp only [Violation.line, String.toList_append, List.append_assoc]
  exact List.prefix_append _ _

theorem told_failed {cause : CallFault} (hclass : cause.faultClass = .policy ∨ cause.faultClass = .content)
    (hviolations : cause.violations ≠ [] ↔ cause.faultClass = .content)
    (hlines : ∀ line ∈ cause.violations, "- ".toList <+: line.toList) : Told (.failed cause) where
  failed := by
    rintro _ ⟨⟩
    exact hclass
  error := nofun
  violations := by
    rintro _ ⟨⟩
    exact hviolations
  lines := by
    rintro _ ⟨⟩
    exact hlines
  report := iff_of_false nofun nofun

theorem told_error {cause : CallFault} (hclass : cause.faultClass = .internal) (hviolations : cause.violations = []) :
    Told (.error cause) where
  failed := nofun
  error := by
    rintro _ ⟨⟩
    exact hclass
  violations := by
    rintro _ ⟨⟩
    simp [hclass, hviolations]
  lines := by
    rintro _ ⟨⟩
    simp [hviolations]
  report := iff_of_false nofun nofun

end Outcome

open Outcome

theorem InputEnds.told (h : InputEnds engine name schema arguments o) : o.Told := by
  cases h with
  | missing => exact told_failed (.inl rfl) (iff_of_false (fun h => h rfl) nofun) nofun
  | unreadable => exact told_error rfl rfl
  | uncompiled => exact told_error rfl rfl
  | accepted => exact told_succeeded
  | rejected hschema hread hcompile hwrong =>
    exact told_failed (.inr rfl) (iff_of_true (by simpa [CallFault.violations] using hwrong) rfl) prefix_line

theorem OutputEnds.told (h : OutputEnds engine name schema raw o) : o.Told := by
  cases h with
  | unpromised => exact told_succeeded
  | uncompiled => exact told_error rfl rfl
  | unreadable => exact told_error rfl rfl
  | accepted => exact told_succeeded
  | rejected hschema hcompile hread hwrong =>
    exact told_failed (.inr rfl) (iff_of_true (by simpa [CallFault.violations] using hwrong) rfl) prefix_line

/-! ## Checks that could not run -/

theorem InputEnds.status_eq_error (h : InputEnds engine name schema arguments o) : o.status = .error ↔
    ∃ s, Given schema s ∧ ((∃ e, Json.read arguments = .error e) ∨ ∃ detail, engine s = .error detail) := by
  cases h with
  | missing hschema => exact iff_of_false nofun fun ⟨s, hgiven, _⟩ => not_given_of_unset hschema hgiven
  | unreadable hschema hread => exact iff_of_true rfl ⟨_, hschema, .inl ⟨_, hread⟩⟩
  | uncompiled hschema hread hcompile => exact iff_of_true rfl ⟨_, hschema, .inr ⟨_, hcompile⟩⟩
  | accepted hschema hread hcompile | rejected hschema hread hcompile =>
    refine iff_of_false nofun ?_
    rintro ⟨s, hgiven, ⟨e, he⟩ | ⟨detail, hnone⟩⟩
    · simp [hread] at he
    · simp [hschema.unique hgiven, hcompile] at hnone

theorem OutputEnds.status_eq_error (h : OutputEnds engine name schema raw o) : o.status = .error ↔
    ∃ s, Given schema s ∧ ((∃ e, Json.readText raw = .error e) ∨ ∃ detail, engine s = .error detail) := by
  cases h with
  | unpromised hschema => exact iff_of_false nofun fun ⟨s, hgiven, _⟩ => not_given_of_unset hschema hgiven
  | uncompiled hschema hcompile => exact iff_of_true rfl ⟨_, hschema, .inr ⟨_, hcompile⟩⟩
  | unreadable hschema hcompile hread => exact iff_of_true rfl ⟨_, hschema, .inl ⟨_, hread⟩⟩
  | accepted hschema hcompile hread | rejected hschema hcompile hread =>
    refine iff_of_false nofun ?_
    rintro ⟨s, hgiven, ⟨e, he⟩ | ⟨detail, hnone⟩⟩
    · simp [hread] at he
    · simp [hschema.unique hgiven, hcompile] at hnone

/-! ## Main result -/

/-- what is known of the two checks of a contract: each ends in exactly one row of its table and says so, and it ends as
an error exactly if there is a schema and either the data or the schema cannot be used, whichever is found first -/
structure Decided (engine : Engine) (name : String) (inputSchema outputSchema : Option Json) (c : Contract) : Prop where
  input : ∀ arguments o, c.checkInput engine arguments = o ↔ InputEnds engine name inputSchema arguments o
  output : ∀ raw o, c.checkOutput engine raw = o ↔ OutputEnds engine name outputSchema raw o
  inputTold : ∀ arguments, (c.checkInput engine arguments).Told
  outputTold : ∀ raw, (c.checkOutput engine raw).Told
  inputError : ∀ arguments, (c.checkInput engine arguments).status = .error ↔
    ∃ s, Given inputSchema s ∧ ((∃ e, Json.read arguments = .error e) ∨ ∃ detail, engine s = .error detail)
  outputError : ∀ raw, (c.checkOutput engine raw).status = .error ↔
    ∃ s, Given outputSchema s ∧ ((∃ e, Json.readText raw = .error e) ∨ ∃ detail, engine s = .error detail)

theorem decided (engine : Engine) (name : String) (input output : Option Json) :
    Decided engine name input output ⟨name, presentSchema input, presentSchema output⟩ where
  input _ _ := checkInput_ends _
  output _ _ := checkOutput_ends _
  inputTold _ := ((checkInput_ends _).1 rfl).told
  outputTold _ := ((checkOutput_ends _).1 rfl).told
  inputError _ := ((checkInput_ends _).1 rfl).status_eq_error
  outputError _ := ((checkOutput_ends _).1 rfl).status_eq_error

/-- **Bad data is kept apart from checks that could not run.** However schemas work, for every tool, every description,
all octets that come as arguments and every text that comes as a result:

- the check of arguments ends by the first of these that holds: no input schema, unreadable arguments, a schema that
  cannot be compiled, and then what the schema says of the arguments;
- the check of a result ends by the first of these: no output schema, which is good, a schema that cannot be compiled,
  an unreadable result, and then what the schema says of the result;
- what failed is of the class policy or content, and a check that could not run is internal; violations are listed
  exactly for what failed for its content, all that were found, a line each. -/
theorem outcomes_decided (engine : Engine) :
    (∀ t : Tool, Decided engine t.name t.inputSchema t.outputSchema t.contract) ∧
    ∀ d : Description, Decided engine d.name d.inputSchema d.outputSchema d.contract :=
  ⟨fun t => decided engine t.name t.inputSchema t.outputSchema,
    fun d => decided engine d.name d.inputSchema d.outputSchema⟩

/-- data that cannot be read and a schema that cannot be compiled: one is said of arguments, the other of a result -/
theorem outcomes_decided_both :
    let engine : Engine := fun _ => .error "no schema"
    let t : Tool := { name := "t", inputSchema := some (.bool true), outputSchema := some (.bool true) }
    (∃ detail, t.contract.checkInput engine [0x7B] = .error (.inputUnreadable "t" detail)) ∧
      t.contract.checkOutput engine "\x7b" = .error (.badOutputSchema "t" "no schema") := by
  intro engine t
  have hschema : Given (some (.bool true)) (.bool true) := ⟨rfl, nofun⟩
  have h := (outcomes_decided engine).1 t
  obtain ⟨e, hread⟩ : ∃ e, Json.read [0x7B] = .error e := ⟨_, rfl⟩
  exact ⟨⟨e.message, (h.input _ _).2 (.unreadable hschema hread)⟩, (h.output _ _).2 (.uncompiled hschema rfl)⟩

end ToolGateway
