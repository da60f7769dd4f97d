import ToolGateway.Proofs.Except
import ToolGateway.Proofs.Registry.Preparation
import ToolGateway.Proofs.Table
import ToolGateway.Store
import ToolGateway.Catalog

/-!
Runs of a registry, and what a read along a run can give.

Six operations change a registry, all through `step`, in any order: `register` and `replaceAll` with any tools,
`remove`, `restore` from any store, `sync` with any answer of the catalog, and `setPolicy`. Hashes that come with a tool
may be forged: only `register` fills in missing ones, and the others store what they are given.

- `step_inv`, `run_inv`: a tool always stands under its own name, which is not empty, and the tools ascend by name.
- `get_verified`: in a secured registry, what a read gives while hashes are validated has the hashes of its content.
- `reads_fail_closed`: so at every moment of every run, and two reads that show one checksum show one content, unless
  SHA-256 collides.
-/

namespace ToolGateway.Registry

/-! ## Runs -/

/-- what changes a registry -/
inductive Op where
  | register (t : Tool)
  | replaceAll (tools : List Tool)
  | remove (name : String)
  | restore (s : Store)
  | sync (exchange : Catalog.Exchange) (c : Catalog.Credentials)
  | setPolicy (policy : Policy)

/-- the registry after an operation, be it refused or not -/
def step (r : Registry) : Op → Registry
  | .register t => (r.register t).2
  | .replaceAll tools => (r.replaceAll tools).2
  | .remove name => (r.remove name).2
  | .restore s => (r.restore s).2
  | .sync exchange c => (Catalog.sync exchange c r).2
  | .setPolicy policy => r.setPolicy policy

/-- the answer of an operation, without what it reports, and the registry after it -/
def perform (r : Registry) (op : Op) : Except RegistryFault Unit × Registry :=
  (match op with
    | .register t => (r.register t).1
    | .replaceAll tools => (r.replaceAll tools).1
    | .restore s => (r.restore s).1.map fun _ => ()
    | .sync exchange c => (Catalog.sync exchange c r).1.map fun _ => ()
    | .remove _ | .setPolicy _ => .ok (),
  r.step op)

/-- the registry after some operations -/
def run (r : Registry) (ops : List Op) : Registry :=
  ops.foldl step r

/-- a new registry with security enabled -/
def secured (policy : Policy) : Registry :=
  { isSecured := true, policy }

/-! ## What an operation can do -/

/-- a registration is refused, or it puts the tool, its hashes written anew, under its name -/
theorem register_cases (r : Registry) (t : Tool) : (r.register t).2 = r ∨
    ∃ checksum signature, t.name ≠ "" ∧ (r.register t).2 =
      { r with tools := r.tools.insert t.name ((t.withChecksum checksum).withSignature signature) } := by
  unfold register
  cases h : r.prepare t with
  | error e => exact .inl rfl
  | ok stored =>
    obtain ⟨hne, checksum, signature, rfl⟩ := prepare_rest h
    exact .inr ⟨checksum, signature, hne, rfl⟩

/-- a secured registry gives both hashes to a tool that comes with an input schema and without hashes -/
theorem register_unstamped {r : Registry} (hs : r.isSecured = true) {t : Tool} (hne : t.name ≠ "") {schema : Json}
    (hschema : t.inputSchema = some schema) (hc : t.stamp.checksum = "") (hsig : t.stamp.signature = "") :
    r.register t = (.ok (), { r with
      tools := r.tools.insert t.name ((t.withChecksum t.checksum).withSignature schema.hexDigest) }) := by
  have hprepare : r.prepare t = .ok ((t.withChecksum t.checksum).withSignature schema.hexDigest) := by
    have hsum : (if t.stamp.checksum.isEmpty then t.withChecksum t.checksum else t) = t.withChecksum t.checksum :=
      if_pos (by rw [hc]; rfl)
    rw [prepare, if_neg (by simpa using hne), if_pos hs]
    simp only [hsum]
    rw [if_pos (by rw [Tool.withChecksum, hsig]; rfl), Tool.fingerprint_withChecksum,
      Tool.fingerprint_of_schema hschema]
    rfl
  rw [register, hprepare]
  rfl

/-- a refused registration leaves the registry as it was, and so do the other operations that can be refused -/
theorem register_refused {r : Registry} {t : Tool} {e : RegistryFault} (h : (r.register t).1 = .error e) :
    (r.register t).2 = r := by
  unfold register at h ⊢
  cases hp : r.prepare t with
  | error e => rfl
  | ok stored =>
    rw [hp] at h
    cases h

theorem replaceAll_refused {r : Registry} {tools : List Tool} {e : RegistryFault}
    (h : (r.replaceAll tools).1 = .error e) : (r.replaceAll tools).2 = r := by
  unfold replaceAll at h ⊢
  cases ht : tableOf [] tools with
  | error e => rfl
  | ok table =>
    rw [ht] at h
    cases h

/-- to restore what can be loaded is to put it in place of all tools -/
theorem perform_restore {r : Registry} {s : Store} {tools : List Tool} (h : s.load = .ok tools) :
    r.perform (.restore s) = r.perform (.replaceAll tools) := by
  simp only [perform, step, restore, h]
  rcases r.replaceAll tools with ⟨e | done, after⟩ <;> rfl

/-- and so it is with what can be fetched -/
theorem perform_sync {r : Registry} {exchange : Catalog.Exchange} {c : Catalog.Credentials} {tools : List Tool}
    (h : Catalog.fetch exchange c = .ok tools) : r.perform (.sync exchange c) = r.perform (.replaceAll tools) := by
  simp only [perform, step, Catalog.sync, h]
  rcases r.replaceAll tools with ⟨e | done, after⟩ <;> rfl

/-- only a registration, a replacement, a restoration and a synchronization can be refused -/
theorem perform_refused {r : Registry} {op : Op} {e : RegistryFault} (h : (r.perform op).1 = .error e) :
    (r.perform op).2 = r := by
  cases op with
  | register t => exact register_refused h
  | replaceAll tools => exact replaceAll_refused h
  | remove name => cases h
  | restore s =>
    cases hload : s.load with
    | error e' => rw [perform, step, restore, hload]
    | ok tools =>
      rw [perform_restore hload] at h ⊢
      exact replaceAll_refused h
  | sync exchange c =>
    cases hfetch : Catalog.fetch exchange c with
    | error e' => rw [perform, step, Catalog.sync, hfetch]
    | ok tools =>
      rw [perform_sync hfetch] at h ⊢
      exact replaceAll_refused h
  | setPolicy policy => cases h

theorem restore_refused {r : Registry} {s : Store} {e : RegistryFault} (h : (r.restore s).1 = .error e) :
    (r.restore s).2 = r := by
  have hrefused : (r.perform (.restore s)).1 = .error e := congrArg (Except.map fun _ => ()) h
  exact perform_refused hrefused

theorem sync_refused {exchange : Catalog.Exchange} {c : Catalog.Credentials} {r : Registry} {e : RegistryFault}
    (h : (Catalog.sync exchange c r).1 = .error e) : (Catalog.sync exchange c r).2 = r := by
  have hrefused : (r.perform (.sync exchange c)).1 = .error e := congrArg (Except.map fun _ => ()) h
  exact perform_refused hrefused

/-- a replacement is refused, or it puts a table of tools in place of the old one -/
theorem replaceAll_cases (r : Registry) (tools : List Tool) : (r.replaceAll tools).2 = r ∨
    ∃ table, tableOf [] tools = .ok table ∧ (r.replaceAll tools).2 = { r with tools := table } := by
  unfold replaceAll
  cases h : tableOf [] tools with
  | error e => exact .inl rfl
  | ok table => exact .inr ⟨table, rfl, rfl⟩

/-- restoring is a replacement by what is loaded; if nothing can be loaded, it changes nothing -/
theorem restore_cases (r : Registry) (s : Store) : (∃ e, s.load = .error e ∧ (r.restore s).2 = r) ∨
    ∃ tools, s.load = .ok tools ∧ (r.restore s).2 = (r.replaceAll tools).2 := by
  cases hload : s.load with
  | error e => exact .inl ⟨e, rfl, by rw [restore, hload]⟩
  | ok tools => exact .inr ⟨tools, rfl, congrArg Prod.snd (perform_restore hload)⟩

/-- so is synchronizing, by what is fetched -/
theorem sync_cases (exchange : Catalog.Exchange) (c : Catalog.Credentials) (r : Registry) :
    (∃ e, Catalog.fetch exchange c = .error e ∧ (Catalog.sync exchange c r).2 = r) ∨
      ∃ tools, Catalog.fetch exchange c = .ok tools ∧ (Catalog.sync exchange c r).2 = (r.replaceAll tools).2 := by
  cases hfetch : Catalog.fetch exchange c with
  | error e => exact .inl ⟨e, rfl, by rw [Catalog.sync, hfetch]⟩
  | ok tools => exact .inr ⟨tools, rfl, congrArg Prod.snd (perform_sync hfetch)⟩

/-! ## The invariant -/

/-- every tool stands under its own name, no name is empty, and the names ascend -/
structure Inv (r : Registry) : Prop where
  named : ∀ entry ∈ r.tools, entry.2.name = entry.1
  nonempty : ∀ entry ∈ r.tools, entry.1 ≠ ""
  ascending : Table.Ascending r.tools

theorem inv_empty (isSecured : Bool) (policy : Policy) : Inv { isSecured, policy } := by
  constructor <;> simp [Table.Ascending]

theorem inv_insert {r : Registry} (h : r.Inv) {t : Tool} (hne : t.name ≠ "") :
    Inv { r with tools := r.tools.insert t.name t } := by
  refine ⟨fun entry he => ?_, fun entry he => ?_, Table.insert_ascending _ _ h.ascending⟩
  · rcases Table.mem_of_mem_insert he with rfl | he
    · rfl
    · exact h.named entry he
  · rcases Table.mem_of_mem_insert he with rfl | he
    · exact hne
    · exact h.nonempty entry he

theorem inv_tableOf {r : Registry} {tools : List Tool} {table table' : Table String Tool}
    (h : Inv { r with tools := table }) (ht : tableOf table tools = .ok table') : Inv { r with tools := table' } := by
  induction tools generalizing table with
  | nil =>
    cases ht
    exact h
  | cons t tools ih =>
    rw [tableOf] at ht
    split_ifs at ht with hempty
    exact ih (inv_insert h (by simpa using hempty)) ht

theorem inv_replaceAll {r : Registry} (h : r.Inv) (tools : List Tool) : Inv (r.replaceAll tools).2 := by
  rcases replaceAll_cases r tools with heq | ⟨table, ht, heq⟩
  · rw [heq]
    exact h
  · rw [heq]
    exact inv_tableOf (r := r) (inv_empty r.isSecured r.policy) ht

theorem step_inv {r : Registry} (h : r.Inv) (op : Op) : Inv (r.step op) := by
  cases op with
  | register t =>
    rcases register_cases r t with heq | ⟨checksum, signature, hne, heq⟩
    · rw [step, heq]
      exact h
    · rw [step, heq]
      exact inv_insert (t := (t.withChecksum checksum).withSignature signature) h hne
  | replaceAll tools => exact inv_replaceAll h tools
  | remove name =>
    exact ⟨fun entry he => h.named entry (Table.mem_of_mem_erase he),
      fun entry he => h.nonempty entry (Table.mem_of_mem_erase he), Table.erase_ascending _ h.ascending⟩
  | restore s =>
    rcases restore_cases r s with ⟨e, -, heq⟩ | ⟨tools, -, heq⟩
    · rw [step, heq]
      exact h
    · rw [step, heq]
      exact inv_replaceAll h tools
  | sync exchange c =>
    rcases sync_cases exchange c r with ⟨e, -, heq⟩ | ⟨tools, -, heq⟩
    · rw [step, heq]
      exact h
    · rw [step, heq]
      exact inv_replaceAll h tools
  | setPolicy policy => exact ⟨h.named, h.nonempty, h.ascending⟩

theorem run_inv {r : Registry} (h : r.Inv) (ops : List Op) : Inv (r.run ops) := by
  induction ops generalizing r with
  | nil => exact h
  | cons op ops ih => exact ih (step_inv h op)

/-! ## Security stays as it was set up -/

theorem replaceAll_isSecured (r : Registry) (tools : List Tool) : (r.replaceAll tools).2.isSecured = r.isSecured := by
  rcases replaceAll_cases r tools with heq | ⟨table, -, heq⟩ <;> rw [heq]

theorem step_isSecured (r : Registry) (op : Op) : (r.step op).isSecured = r.isSecured := by
  cases op with
  | register t => rcases register_cases r t with heq | ⟨checksum, signature, -, heq⟩ <;> rw [step, heq]
  | replaceAll tools => exact replaceAll_isSecured r tools
  | remove name => rfl
  | restore s =>
    rcases restore_cases r s with ⟨e, -, heq⟩ | ⟨tools, -, heq⟩
    · rw [step, heq]
    · rw [step, heq, replaceAll_isSecured]
  | sync exchange c =>
    rcases sync_cases exchange c r with ⟨e, -, heq⟩ | ⟨tools, -, heq⟩
    · rw [step, heq]
    · rw [step, heq, replaceAll_isSecured]
  | setPolicy policy => rfl

theorem run_isSecured (r : Registry) (ops : List Op) : (r.run ops).isSecured = r.isSecured := by
  induction ops generalizing r with
  | nil => rfl
  | cons op ops ih => exact (ih (r.step op)).trans (step_isSecured r op)

/-! ## Reads -/

/-- the tool has this name, which is not empty, it has an input schema, and its hashes are those of its content -/
structure Genuine (key : String) (t : Tool) : Prop where
  name : t.name = key
  nonempty : key ≠ ""
  hasSchema : t.inputSchema.isSome
  checksum : t.stamp.checksum = t.checksum
  signature : t.fingerprint = .ok t.stamp.signature

/-- the checks of a read, one after the other -/
theorem judge_eq (r : Registry) (name : String) (t : Tool) : r.judge name t =
    if r.isSecured then
      (if r.policy.validatesChecksums then t.checkChecksum name >>= fun _ => t.checkSignature name else .ok ()) >>=
        fun _ => if r.policy.rejectsUnsigned && t.stamp.isUnsigned then .error (.unsigned name) else .ok t
    else .ok t := by
  unfold judge
  cases r.isSecured with
  | false => rfl
  | true =>
    cases r.policy.validatesChecksums with
    | false => rfl
    | true => cases t.checkChecksum name <;> rfl

/-- what is judged is given as it is, if it is given -/
theorem judge_given {r : Registry} {name : String} {t given : Tool} (h : r.judge name t = .ok given) : given = t := by
  rw [judge_eq] at h
  by_cases hs : r.isSecured = true
  · rw [if_pos hs] at h
    obtain ⟨-, -, h⟩ := ok_of_bind h
    split_ifs at h
    cases h
    rfl
  · rw [if_neg hs] at h
    cases h
    rfl

theorem hashes_of_checks {name : String} {t : Tool} (hchecksum : t.checkChecksum name = .ok ())
    (hsignature : t.checkSignature name = .ok ()) :
    t.stamp.checksum = t.checksum ∧ t.fingerprint = .ok t.stamp.signature := by
  rw [Tool.checkChecksum] at hchecksum
  split_ifs at hchecksum with hsum
  obtain ⟨signature, hcomputed, hsignature⟩ := ok_of_bind hsignature
  split_ifs at hsignature with hsig
  exact ⟨hsum.symm, by rw [hcomputed, hsig]⟩

/-- what is judged with validation in force has the hashes of its content -/
theorem judge_verified {r : Registry} (hs : r.isSecured = true) (hv : r.policy.validatesChecksums = true)
    {name : String} {t given : Tool} (h : r.judge name t = .ok given) :
    given = t ∧ t.stamp.checksum = t.checksum ∧ t.fingerprint = .ok t.stamp.signature := by
  have hgiven := judge_given h
  rw [judge_eq, if_pos hs, if_pos hv] at h
  obtain ⟨⟨⟩, hchecks, -⟩ := ok_of_bind h
  obtain ⟨⟨⟩, hchecksum, hsignature⟩ := ok_of_bind hchecks
  exact ⟨hgiven, hashes_of_checks hchecksum hsignature⟩

/-- a tool with the hashes of its content passes under every policy -/
theorem judge_of_hashes (r : Registry) (name : String) {t : Tool} (hchecksum : t.stamp.checksum = t.checksum)
    (hsignature : t.fingerprint = .ok t.stamp.signature) : r.judge name t = .ok t := by
  have hsum : t.checkChecksum name = .ok () := if_pos hchecksum.symm
  have hsig : t.checkSignature name = .ok () := by
    rw [Tool.checkSignature, hsignature]
    exact if_pos rfl
  have hsigned : t.stamp.isUnsigned = false := Tool.isUnsigned_of_hashes hchecksum hsignature
  rw [judge_eq, hsum, hsig, hsigned, Bool.and_false, if_neg Bool.false_ne_true]
  split_ifs <;> rfl

/-- both hashes written anew make a tool genuine -/
theorem genuine_stamped {t : Tool} (hne : t.name ≠ "") {schema : Json} (hschema : t.inputSchema = some schema) :
    Genuine t.name ((t.withChecksum t.checksum).withSignature schema.hexDigest) where
  name := rfl
  nonempty := hne
  hasSchema := Option.isSome_iff_exists.2 ⟨schema, hschema⟩
  checksum := rfl
  signature := Tool.fingerprint_of_schema hschema

/-- a genuine tool is given out under every policy -/
theorem get_genuine {r : Registry} {name : String} {t : Tool} (h : Genuine name t)
    (hfind : r.tools.find? name = some t) : r.get name = .ok t := by
  rw [get, hfind]
  exact judge_of_hashes r name h.checksum h.signature

/-- **A read that succeeds while hashes are validated gives a genuine tool.** -/
theorem get_verified {r : Registry} (h : r.Inv) (hs : r.isSecured = true)
    (hv : r.policy.validatesChecksums = true) {name : String} {t : Tool} (hget : r.get name = .ok t) :
    Genuine name t := by
  unfold get at hget
  cases hfind : r.tools.find? name with
  | none =>
    rw [hfind] at hget
    cases hget
  | some stored =>
    rw [hfind] at hget
    obtain ⟨rfl, hchecksum, hsignature⟩ := judge_verified hs hv hget
    have hmem := Table.mem_of_find? hfind
    refine ⟨h.named _ hmem, h.nonempty _ hmem, ?_, hchecksum, hsignature⟩
    cases hschema : t.inputSchema with
    | some schema => rfl
    | none =>
      rw [Tool.fingerprint, hschema] at hsignature
      cases hsignature

/-- at this moment hashes are validated, and a read by this name gives this tool -/
def Reads (r : Registry) (name : String) (t : Tool) : Prop :=
  r.policy.validatesChecksums = true ∧ r.get name = .ok t

/-! ## Main result -/

/-- **Reads fail closed along every run.** Whatever operations, with whatever tools and hashes, have changed a registry
that was created with security enabled, a read that succeeds while hashes are validated gives a genuine tool. Two such
reads at moments `i` and `j` that show one checksum show one name, one description and one canonical input schema, or
else the two projections are distinct texts with one SHA-256 digest. -/
theorem reads_fail_closed (policy : Policy) (ops : List Op) :
    (∀ i name t, ((secured policy).run (ops.take i)).Reads name t → Genuine name t) ∧
    ∀ i j m n s t, ((secured policy).run (ops.take i)).Reads m s → ((secured policy).run (ops.take j)).Reads n t →
      s.stamp.checksum = t.stamp.checksum →
        (s.name = t.name ∧ s.description = t.description ∧ s.schema.canonical = t.schema.canonical) ∨
          Sha256.Collide s.projection.canonical t.projection.canonical := by
  have hread : ∀ i name t, ((secured policy).run (ops.take i)).Reads name t → Genuine name t := by
    rintro i name t ⟨hv, hget⟩
    exact get_verified (run_inv (inv_empty true policy) _) (run_isSecured _ _) hv hget
  refine ⟨hread, fun i j m n s t hs ht hsame => Tool.checksum_eq_iff.1 ?_⟩
  rw [← (hread i m s hs).checksum, ← (hread j n t ht).checksum, hsame]

/-- two tools of one name that differ in what the checksum does not cover: each is registered without hashes and read -/
theorem reads_after_register :
    let first : Tool := { name := "t", inputSchema := some .null }
    let second : Tool := { first with outputSchema := some .null }
    let ops : List Op := [.register first, .setPolicy { validatesChecksums := true }, .register second]
    ∃ s t : Tool, ((secured {}).run (ops.take 2)).Reads "t" s ∧ ((secured {}).run (ops.take 3)).Reads "t" t ∧
      s.outputSchema ≠ t.outputSchema ∧ Genuine "t" s ∧ Genuine "t" t ∧
      (s.name = t.name ∧ s.description = t.description ∧ s.schema.canonical = t.schema.canonical ∨
        Sha256.Collide s.projection.canonical t.projection.canonical) := by
  intro first second ops
  let stamped (t : Tool) : Tool := (t.withChecksum t.checksum).withSignature Json.null.hexDigest
  have hfirst : ∀ policy, ((secured policy).register first).2 =
      { isSecured := true, policy, tools := [("t", stamped first)] } := by
    intro policy
    rw [register_unstamped rfl (by decide) rfl rfl rfl]
    rfl
  have hsecond : ∀ policy, ((Registry.mk [("t", stamped first)] true policy).register second).2 =
      { isSecured := true, policy, tools := [("t", stamped second)] } := by
    intro policy
    rw [register_unstamped rfl (by decide) rfl rfl rfl]
    have hinsert : Table.insert second.name (stamped second) [("t", stamped first)] = [("t", stamped second)] := by
      simp only [Table.insert, second, first, String.lt_irrefl, ↓reduceIte]
    exact congrArg (Registry.mk · true policy) hinsert
  have hreads : ∀ t : Tool, t.name = "t" → t.inputSchema = some .null →
      (Registry.mk [("t", stamped t)] true { validatesChecksums := true }).Reads "t" (stamped t) := by
    intro t hname hschema
    refine ⟨rfl, get_genuine ?_ rfl⟩
    rw [← hname]
    exact genuine_stamped (by rw [hname]; decide) hschema
  have htwo : ((secured {}).run (ops.take 2)).Reads "t" (stamped first) := by
    simp only [ops, List.take, run, List.foldl_cons, List.foldl_nil, step, hfirst, setPolicy]
    exact hreads first rfl rfl
  have hthree : ((secured {}).run (ops.take 3)).Reads "t" (stamped second) := by
    simp only [ops, List.take, run, List.foldl_cons, List.foldl_nil, step, hfirst, setPolicy, hsecond]
    exact hreads second rfl rfl
  obtain ⟨hread, hbind⟩ := reads_fail_closed {} ops
  exact ⟨stamped first, stamped second, htwo, hthree, (Option.some_ne_none _).symm, hread 2 "t" _ htwo,
    hread 3 "t" _ hthree, hbind 2 3 "t" "t" _ _ htwo hthree rfl⟩

end ToolGateway.Registry
