import ToolGateway.Proofs.Gateway.Session

/-!
Calls that a gateway checks, and calls that are checked against a list of descriptions.

Either side has three entries: for arguments as octets, for arguments that have been read, and for a result. On either
side they come down to the same three checks of a contract (`Contract.outcomes`), and the sides differ only in where the
contract is looked up.

- `Gateway.outcomes_refused`: a tool that the registry does not give out is judged by no entry, and a caller is told what
  he is told of a name that no description has.
- `Describes.contract_eq`: a description with the name of a tool and its schemas promises what the tool promises.
- `outcomes_agree`: so in every state that a session can reach, the entries of a gateway fail closed and agree with those
  of every list whose first description of the name has the schemas of the tool.
-/

namespace ToolGateway

/-! ## Contracts -/

/-- the schemas are the same, a missing one and `null` counting alike -/
def SameSchema (a b : Option Json) : Prop :=
  a.getD .null = b.getD .null

theorem presentSchema_eq (schema : Option Json) :
    presentSchema schema = if (schema.getD .null).isNull then none else some (schema.getD .null) := by
  cases schema with
  | none => rfl
  | some j => cases j <;> rfl

theorem SameSchema.presentSchema_eq {a b : Option Json} (h : SameSchema a b) : presentSchema a = presentSchema b := by
  rw [ToolGateway.presentSchema_eq, ToolGateway.presentSchema_eq, h]

/-- the description has the name of the tool and its schemas -/
structure Describes (d : Description) (t : Tool) : Prop where
  name : d.name = t.name
  inputSchema : SameSchema d.inputSchema t.inputSchema
  outputSchema : SameSchema d.outputSchema t.outputSchema

theorem Describes.contract_eq {d : Description} {t : Tool} (h : Describes d t) : d.contract = t.contract := by
  rw [Description.contract, Tool.contract, h.name, h.inputSchema.presentSchema_eq, h.outputSchema.presentSchema_eq]

variable (engine : Engine) (name : String) (arguments : Bytes) (value : Json) (raw : String)

/-- the three checks of a contract -/
def Contract.outcomes (c : Contract) : List Outcome :=
  [c.checkInput engine arguments, c.checkValue engine value, c.checkOutput engine raw]

/-! ## The entries of a list of descriptions -/

namespace Description

/-- what is said of a call, given as octets and as a value, and of its result -/
def outcomes (descriptions : List Description) : List Outcome :=
  [checkArguments engine descriptions name arguments, checkCall engine descriptions ⟨name, value⟩,
    checkResult engine descriptions raw ⟨name, value⟩]

variable {name}

/-- the first description of a name is found, whatever stands behind it -/
theorem find?_first {earlier later : List Description} {d : Description} (h : ∀ b ∈ earlier, b.name ≠ name)
    (hname : d.name = name) : find? name (earlier ++ d :: later) = some d := by
  have hnone : earlier.find? (·.name == name) = none :=
    List.find?_eq_none.2 fun b hb => by simpa using h b hb
  rw [find?, List.find?_append, hnone, Option.none_or]
  exact List.find?_cons_of_pos (by simpa using hname)

theorem find?_unknown {descriptions : List Description} (h : ∀ d ∈ descriptions, d.name ≠ name) :
    find? name descriptions = none :=
  List.find?_eq_none.2 fun d hd => by simpa using h d hd

theorem outcomes_found {descriptions : List Description} {d : Description} (h : find? name descriptions = some d) :
    outcomes engine name arguments value raw descriptions = d.contract.outcomes engine arguments value raw := by
  simp only [outcomes, checkArguments, checkCall, checkResult, lookUp, h, Contract.outcomes]

/-- a name that no description has is judged by no entry -/
theorem outcomes_unknown {descriptions : List Description} (h : find? name descriptions = none) {o : Outcome}
    (ho : o ∈ outcomes engine name arguments value raw descriptions) : o = .error (.toolNotFound name) := by
  simpa only [outcomes, checkArguments, checkCall, checkResult, lookUp, h, List.mem_cons, List.not_mem_nil, or_false,
    or_self] using ho

end Description

/-! ## The entries of a gateway -/

/-- a tool is given out under its own name -/
theorem Registry.Inv.name_of_get {r : Registry} (h : r.Inv) {name : String} {t : Tool} (hget : r.get name = .ok t) :
    t.name = name := by
  unfold get at hget
  cases hfind : r.tools.find? name with
  | none =>
    rw [hfind] at hget
    cases hget
  | some stored =>
    rw [hfind] at hget
    rw [judge_given hget]
    exact h.named _ (Table.mem_of_find? hfind)

namespace Gateway

/-- what is said of a call, given as octets and as a value, and of its result -/
def outcomes (g : Gateway) : List Outcome :=
  [g.checkCall engine name arguments, g.checkCallValue engine name value, g.checkResult engine name raw]

variable {g : Gateway} {name}

theorem outcomes_given {t : Tool} (h : g.registry.get name = .ok t) :
    g.outcomes engine name arguments value raw = t.contract.outcomes engine arguments value raw := by
  simp only [outcomes, checkCall, checkCallValue, checkResult, lookUp, h, Contract.outcomes]

/-- **What the registry does not give out is judged by no entry.** -/
theorem outcomes_refused {cause : RegistryFault} (h : g.registry.get name = .error cause) {o : Outcome}
    (ho : o ∈ g.outcomes engine name arguments value raw) :
    o = .error (.toolRejected name cause.faultClass cause.message) := by
  simpa only [outcomes, checkCall, checkCallValue, checkResult, lookUp, h, List.mem_cons, List.not_mem_nil, or_false,
    or_self] using ho

theorem find_eq_ok {t : Tool} : g.find name = .ok t ↔ g.registry.get name = .ok t := by
  rw [find]
  cases g.registry.get name <;> simp [Except.mapError]

theorem find_eq_error {fault : GatewayFault} :
    g.find name = .error fault ↔ ∃ cause, fault = .lookup name cause ∧ g.registry.get name = .error cause := by
  rw [find]
  cases g.registry.get name <;> simp [Except.mapError, eq_comm]

/-- **What is given out is judged as by a list** whose first description of the name describes it. -/
theorem outcomes_eq_described (hinv : g.registry.Inv) {t : Tool} (hfind : g.find name = .ok t)
    {earlier later : List Description} {d : Description} (hearlier : ∀ b ∈ earlier, b.name ≠ name)
    (hname : d.name = name) (hinput : SameSchema d.inputSchema t.inputSchema)
    (houtput : SameSchema d.outputSchema t.outputSchema) :
    g.outcomes engine name arguments value raw =
      Description.outcomes engine name arguments value raw (earlier ++ d :: later) := by
  have hget := find_eq_ok.1 hfind
  have hdescribes : Describes d t := ⟨hname.trans (hinv.name_of_get hget).symm, hinput, houtput⟩
  rw [outcomes_given engine arguments value raw hget,
    Description.outcomes_found engine arguments value raw (Description.find?_first hearlier hname),
    hdescribes.contract_eq]

end Gateway

/-! ## Main result -/

/-- **Calls fail closed, and are judged as against the tool's description.** In every state that a session can reach,
for every name, arguments and result, and whatever schemas mean:

- if the tool is not found, all three entries end in an error of the class of the registry's refusal, and their reports
  are those that every list without the name gives, so they are the same for every reason;
- if it is found, the entries say what those of a list say, for every list whose first description of the name has the
  schemas of the tool;
- so none of them says that a call or a result is good or bad unless the tool is found. -/
theorem outcomes_agree (c : Configuration) (isSecured : Bool) (policy : Policy) (store : Store)
    (ops : List Session.Op) :
    let g := ((Session.opened c isSecured policy store).run ops).gateway
    let outcomes := g.outcomes engine name arguments value raw
    let described := Description.outcomes engine name arguments value raw
    (∀ fault, g.find name = .error fault → ∃ cause, fault = .lookup name cause ∧ g.registry.get name = .error cause ∧
      ∀ o ∈ outcomes, o.status = .error ∧ o.cause?.map CallFault.faultClass = some cause.faultClass ∧
        ∀ descriptions, (∀ d ∈ descriptions, d.name ≠ name) → ∀ o' ∈ described descriptions, o.report = o'.report) ∧
    (∀ t, g.find name = .ok t → ∀ earlier d later, (∀ b ∈ earlier, b.name ≠ name) → d.name = name →
      SameSchema d.inputSchema t.inputSchema → SameSchema d.outputSchema t.outputSchema →
        outcomes = described (earlier ++ d :: later)) ∧
    ∀ o ∈ outcomes, o.status ≠ .error → ∃ t, g.find name = .ok t := by
  intro g outcomes described
  have hinv : g.registry.Inv := Session.opened_inv c isSecured policy store ops
  refine ⟨fun fault hfault => ?_, fun t hfind earlier d later => ?_, fun o ho hstatus => ?_⟩
  · obtain ⟨cause, rfl, hget⟩ := Gateway.find_eq_error.1 hfault
    refine ⟨cause, rfl, hget, fun o ho => ?_⟩
    obtain rfl := Gateway.outcomes_refused engine arguments value raw hget ho
    refine ⟨rfl, rfl, fun descriptions hunknown o' ho' => ?_⟩
    rw [Description.outcomes_unknown engine arguments value raw (Description.find?_unknown hunknown) ho']
    rfl
  · exact Gateway.outcomes_eq_described engine arguments value raw hinv hfind
  · cases hget : g.registry.get name with
    | ok t => exact ⟨t, Gateway.find_eq_ok.2 hget⟩
    | error cause =>
      rw [Gateway.outcomes_refused engine arguments value raw hget ho] at hstatus
      exact absurd rfl hstatus

/-- a tool without an output schema, and a description that gives it as `null`, behind one of another tool -/
theorem outcomes_agree_echo :
    let g := ((Session.opened {} true {} {}).run [.register (.named "echo")]).gateway
    let d : Description := { name := "echo", inputSchema := some Tool.defaultSchema, outputSchema := some .null }
    let engine : Engine := .standard fun _ => ""
    g.outcomes engine "echo" [] .null "\x7b" =
      Description.outcomes engine "echo" [] .null "\x7b" [{ name := "other" }, d] := by
  intro g d engine
  let t := Tool.named "echo"
  let given := (t.withChecksum t.checksum).withSignature Tool.defaultSchema.hexDigest
  have hgenuine : Registry.Genuine "echo" given := Registry.genuine_stamped (t := t) (by decide) rfl
  have htools : g.registry.tools = [("echo", given)] := by
    simp only [g, Session.run, Session.opened, List.foldl_cons, List.foldl_nil, Session.step, Session.onGateway,
      Gateway.register, Gateway.onRegistry]
    rw [Registry.register_unstamped rfl (by decide) rfl rfl rfl]
    rfl
  have hfind : g.find "echo" = .ok given := by
    refine Gateway.find_genuine hgenuine ?_
    rw [htools]
    rfl
  exact (outcomes_agree engine "echo" [] .null "\x7b" {} true {} {} [.register t]).2.1 given hfind
    [{ name := "other" }] d [] (by simp) rfl rfl rfl

end ToolGateway
