import ToolGateway.Proofs.HiddenText.Cleaning
import ToolGateway.Proofs.Registry.Judgement
import ToolGateway.Proofs.Tool.Document

/-!
What stamping does to a tool.

A stamp covers name, description and input schema and stands beside them, so writing it changes none of what it is taken
of. Both hashes are taken before either is written: only the fingerprint can fail, and then nothing has been written.

- `afterStamping_eq`: stamping a tool where it stands, one step after another, is `stamped`, and leaves the tool as it
  was if that fails.
- `stamped_eq_ok`, `stamped_eq_error`: what stamping gives, and when it fails.
- `attested_of_stamped`, `stamped_eq_self`: a stamped tool passes its own check, and the tools that stamping leaves as
  they are are exactly those that carry the hashes of their content.
- `stamped_withHashes`: hashes that a tool carried before do not count.
- `stamping_exact`: so stamping is exact, minimal and idempotent.
- `review_attested`, `readsBack_of_stamped`: a stamped tool passes its review, and is read back from its document as it
  is.
-/

namespace ToolGateway.Tool

variable {t u : Tool} {schema : Json}

/-! ## Stamping in place -/

/-- stamping a tool where it stands; both hashes are taken before either is written -/
def stampInPlace : ExceptT RegistryFault (StateM Tool) Unit := do
  let t ← get
  let checksum := t.checksum
  let signature ← MonadExcept.ofExcept t.fingerprint
  modify (·.withChecksum checksum)
  modify (·.withSignature signature)

/-- how stamping in place ends, and the tool it leaves behind -/
def afterStamping (t : Tool) : Except RegistryFault Unit × Tool :=
  stampInPlace.run.run t

/-- **A failed stamping leaves the tool as it was.** -/
theorem afterStamping_eq (t : Tool) : t.afterStamping =
    match t.stamped with
    | .error e => (.error e, t)
    | .ok u => (.ok (), u) := by
  obtain ⟨name, description, arguments, parameters, inputSchema, outputSchema, hints, stamp⟩ := t
  cases inputSchema with
  | none => rfl
  | some schema => rfl

/-! ## What stamping gives -/

theorem stamped_of_schema (h : t.inputSchema = some schema) :
    t.stamped = .ok ((t.withChecksum t.checksum).withSignature schema.hexDigest) := by
  rw [stamped, fingerprint_of_schema h]
  rfl

theorem stamped_of_none (h : t.inputSchema = none) : t.stamped = .error (.missingSchema t.name) := by
  rw [stamped, fingerprint, h]
  rfl

theorem stamped_eq_ok : t.stamped = .ok u ↔
    ∃ schema, t.inputSchema = some schema ∧ u = (t.withChecksum t.checksum).withSignature schema.hexDigest := by
  cases hschema : t.inputSchema with
  | none => simp [stamped_of_none hschema]
  | some schema => simp [stamped_of_schema hschema, eq_comm]

/-- **Stamping fails exactly if there is no input schema.** -/
theorem stamped_eq_error {e : RegistryFault} :
    t.stamped = .error e ↔ t.inputSchema = none ∧ e = .missingSchema t.name := by
  cases hschema : t.inputSchema with
  | none => simp [stamped_of_none hschema, eq_comm]
  | some schema => simp [stamped_of_schema hschema]

/-- **A stamped tool carries the hashes of its content.** -/
theorem attested_of_stamped (h : t.stamped = .ok u) : u.Attested := by
  obtain ⟨schema, hschema, rfl⟩ := stamped_eq_ok.1 h
  exact attested_of_hashes rfl (fingerprint_of_schema hschema)

/-! ## Stamping again -/

/-- a tool that carries the hashes of its content passes its own check -/
theorem Attested.verify (h : t.Attested) : t.verify = .ok () := by
  have hchecksum : t.checkChecksum t.name = .ok () := if_pos h.checksum.symm
  have hsignature : t.checkSignature t.name = .ok () := by
    rw [checkSignature, h.signature]
    exact if_pos rfl
  rw [verify_eq, hchecksum, hsignature, ite_self, ite_self]
  rfl

/-- **Stamping leaves a tool as it is exactly if it carries the hashes of its content.** -/
theorem stamped_eq_self : t.stamped = .ok t ↔ t.Attested := by
  constructor
  · exact attested_of_stamped
  · intro h
    have hwritten : (t.withChecksum t.stamp.checksum).withSignature t.stamp.signature = t := rfl
    rw [stamped, h.signature, ← h.checksum]
    exact congrArg Except.ok hwritten

/-- **Hashes that a tool carried before do not count.** -/
theorem stamped_withHashes (t : Tool) (checksum signature : String) :
    ((t.withChecksum checksum).withSignature signature).stamped = t.stamped := by
  rw [stamped, stamped]
  rfl

/-- **Stamping is exact, minimal and idempotent.** It fails exactly if there is no input schema, and then leaves the tool
as it was. Otherwise it writes the checksum and the fingerprint of the content and nothing else, whatever hashes were
there; the tool then passes its own check, and stamping it again changes nothing. -/
theorem stamping_exact (t : Tool) :
    ((∃ e, t.stamped = .error e) ↔ t.inputSchema = none) ∧
    (∀ e, t.stamped = .error e → t.afterStamping = (.error e, t)) ∧
    ∀ schema, t.inputSchema = some schema → ∃ u, t.stamped = .ok u ∧ t.afterStamping = (.ok (), u) ∧
      u = { t with stamp := { t.stamp with checksum := t.checksum, signature := schema.hexDigest } } ∧
      (∀ checksum signature, ((t.withChecksum checksum).withSignature signature).stamped = .ok u) ∧
      u.verify = .ok () ∧ u.stamped = .ok u := by
  refine ⟨?_, fun e h => ?_, fun schema hschema => ?_⟩
  · simp only [stamped_eq_error, exists_and_left, exists_eq, and_true]
  · rw [afterStamping_eq, h]
  · have hstamped := stamped_of_schema hschema
    have hattested := attested_of_stamped hstamped
    refine ⟨_, hstamped, ?_, rfl, fun checksum signature => ?_, hattested.verify, stamped_eq_self.2 hattested⟩
    · rw [afterStamping_eq, hstamped]
    · rw [stamped_withHashes, hstamped]

/-! ## Reviews and documents of stamped tools -/

/-- the review of a tool that carries the hashes of its content and whose description hides nothing -/
theorem review_attested (h : t.Attested) {scans : Bool}
    (hclean : scans = true → ∀ ch ∈ t.description.toList, HiddenText.classify ch = none) :
    t.review scans = .passed t.name t.stamp.checksum := by
  have hscreen : (if scans then HiddenText.screen t.description else .ok ()) = .ok () := by
    split_ifs with hscans
    · exact HiddenText.screen_eq_ok_iff.2 (HiddenText.findings_eq_nil_iff.2 (hclean hscans))
    · rfl
  rw [Tool.review, hscreen]
  simp only [h.verify, h.checksum]

theorem storable_of_stamped (h : t.stamped = .ok u) (ht : t.Storable ∧ t.NoNull) : u.Storable ∧ u.NoNull := by
  obtain ⟨schema, -, rfl⟩ := stamped_eq_ok.1 h
  exact ⟨ht.1.stamped _ _, ht.2.stamped _ _⟩

/-- stamping writes no double -/
theorem doublesReread_of_stamped (h : t.stamped = .ok u) (hd : u.DoublesReread) : t.DoublesReread := by
  obtain ⟨schema, -, rfl⟩ := stamped_eq_ok.1 h
  exact hd

/-- a stamped tool that can be stored is read back as it is -/
theorem readsBack_of_stamped (h : t.stamped = .ok u) (ht : t.Storable ∧ t.NoNull) :
    Tool.codec.ReadsBack nestingLimit u u := by
  obtain ⟨hstorable, hnull⟩ := storable_of_stamped h ht
  have hback := readsBack hstorable
  rwa [settled_eq_self.2 hnull] at hback

end ToolGateway.Tool
