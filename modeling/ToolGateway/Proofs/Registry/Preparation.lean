import ToolGateway.Proofs.Crypto.Hmac
import ToolGateway.Proofs.Except
import ToolGateway.Proofs.Tool.Integrity
import ToolGateway.Registry

/-!
What a registration stores, and how that is judged.

A secured registry fills in the hashes that a tool lacks and keeps those that it brings along; nothing else of the tool
changes (`Filled`). So the strict judgement of what is stored and the lenient one of what was submitted agree: a hash
that was filled in is right, and one that was kept is compared in the same order.

- `prepare_eq_ok`: what is stored, in a secured registry and in any other.
- `judge_filled`: while hashes are validated, what is stored passes exactly if `verify` passes what was submitted, and
  otherwise both refuse for the same reason.
-/

namespace ToolGateway

/-- a digest has sixty-four digits -/
theorem Json.length_hexDigest (j : Json) : j.hexDigest.length = 64 := by
  have hdigest : j.digest.length = 32 := Sha256.length_digest _
  simp [hexDigest, Hex.encode, Hex.pair, hdigest]

theorem Json.hexDigest_ne_empty (j : Json) : j.hexDigest ≠ "" := by
  intro h
  have hlength := j.length_hexDigest
  rw [h] at hlength
  exact absurd hlength (by decide)

namespace Tool

theorem fingerprint_ne_empty {t : Tool} {signature : String} (h : t.fingerprint = .ok signature) : signature ≠ "" := by
  rw [fingerprint] at h
  cases hschema : t.inputSchema with
  | none =>
    rw [hschema] at h
    cases h
  | some schema =>
    rw [hschema] at h
    cases h
    exact schema.hexDigest_ne_empty

/-- a tool with the hashes of its content lacks none -/
theorem isUnsigned_of_hashes {t : Tool} (hchecksum : t.stamp.checksum = t.checksum)
    (hsignature : t.fingerprint = .ok t.stamp.signature) : t.stamp.isUnsigned = false := by
  have hfirst : t.stamp.checksum ≠ "" := by
    rw [hchecksum]
    exact t.projection.hexDigest_ne_empty
  have hsecond : t.stamp.signature ≠ "" := fingerprint_ne_empty hsignature
  simp [Stamp.isUnsigned, hfirst, hsecond]

/-- what is stored is the submitted tool with the hashes that it lacks filled in -/
structure Filled (t stored : Tool) : Prop where
  rest : stored = (t.withChecksum stored.stamp.checksum).withSignature stored.stamp.signature
  checksum : stored.stamp.checksum = if t.stamp.checksum.isEmpty then t.checksum else t.stamp.checksum
  signature : if t.stamp.signature.isEmpty then t.fingerprint = .ok stored.stamp.signature
    else stored.stamp.signature = t.stamp.signature

namespace Filled

variable {t stored : Tool}

theorem checksum_eq (h : Filled t stored) : stored.checksum = t.checksum := by
  rw [h.rest]
  simp

theorem fingerprint_eq (h : Filled t stored) : stored.fingerprint = t.fingerprint := by
  rw [h.rest]
  simp

/-- a checksum that was filled in is right, and one that was kept is compared as before -/
theorem checkChecksum_eq (h : Filled t stored) (name : String) :
    stored.checkChecksum name = if t.stamp.checksum.isEmpty then .ok () else t.checkChecksum name := by
  rw [checkChecksum, h.checksum_eq, h.checksum]
  by_cases hempty : t.stamp.checksum.isEmpty = true
  · rw [if_pos hempty, if_pos hempty, if_pos rfl]
  · rw [if_neg hempty, if_neg hempty, checkChecksum]

/-- so it is with the fingerprint, which is missing for both if there is no input schema -/
theorem checkSignature_eq (h : Filled t stored) (name : String) :
    stored.checkSignature name = if t.stamp.signature.isEmpty then .ok () else t.checkSignature name := by
  have hsignature := h.signature
  rw [checkSignature, h.fingerprint_eq]
  split_ifs at hsignature ⊢ with hempty
  · rw [hsignature]
    exact if_pos rfl
  · rw [checkSignature, hsignature]

/-- nothing that was filled lacks a hash -/
theorem isUnsigned_eq (h : Filled t stored) : stored.stamp.isUnsigned = false := by
  have hchecksum : stored.stamp.checksum ≠ "" := by
    rw [h.checksum]
    split_ifs with hempty
    · exact t.projection.hexDigest_ne_empty
    · simpa using hempty
  have hsignature : stored.stamp.signature ≠ "" := by
    have hsignature := h.signature
    split_ifs at hsignature with hempty
    · exact fingerprint_ne_empty hsignature
    · rw [hsignature]
      simpa using hempty
  simp [Stamp.isUnsigned, hchecksum, hsignature]

end Filled

/-- checks are made one after the other, and those of missing hashes are left out -/
theorem verify_eq (t : Tool) : t.verify =
    (if t.stamp.checksum.isEmpty then .ok () else t.checkChecksum t.name).bind fun _ =>
      if t.stamp.signature.isEmpty then .ok () else t.checkSignature t.name := by
  unfold verify
  cases t.stamp.checksum.isEmpty <;> cases t.stamp.signature.isEmpty <;> rfl

/-- filled tools are those with the checksum, and with a signature that was kept or is the fingerprint -/
theorem filled_iff_exists {t stored : Tool} : Filled t stored ↔ ∃ signature,
    (if t.stamp.signature.isEmpty then t.fingerprint = .ok signature else signature = t.stamp.signature) ∧
    stored = (t.withChecksum (if t.stamp.checksum.isEmpty then t.checksum else t.stamp.checksum)).withSignature
      signature := by
  constructor
  · intro h
    refine ⟨stored.stamp.signature, h.signature, ?_⟩
    rw [← h.checksum]
    exact h.rest
  · rintro ⟨signature, hsignature, rfl⟩
    exact ⟨rfl, rfl, hsignature⟩

theorem fillChecksum_eq (t : Tool) : (if t.stamp.checksum.isEmpty then t.withChecksum t.checksum else t) =
    t.withChecksum (if t.stamp.checksum.isEmpty then t.checksum else t.stamp.checksum) := by
  split_ifs <;> rfl

/-- a missing signature is taken of the schema, and there may be none -/
theorem fillSignature_eq_ok {t stored : Tool} :
    (if t.stamp.signature.isEmpty then t.fingerprint.map t.withSignature else .ok t) = .ok stored ↔ ∃ signature,
      (if t.stamp.signature.isEmpty then t.fingerprint = .ok signature else signature = t.stamp.signature) ∧
      stored = t.withSignature signature := by
  split_ifs with hempty
  · constructor
    · intro h
      obtain ⟨signature, hsignature, rfl⟩ := ok_of_map h
      exact ⟨signature, hsignature, rfl⟩
    · rintro ⟨signature, hsignature, rfl⟩
      rw [hsignature]
      rfl
  · constructor
    · intro h
      cases h
      exact ⟨t.stamp.signature, rfl, rfl⟩
    · rintro ⟨signature, rfl, rfl⟩
      rfl

/-- missing hashes are filled in, the checksum first, unless there is no schema to take the signature of -/
theorem filled_iff {t stored : Tool} :
    (let u := if t.stamp.checksum.isEmpty then t.withChecksum t.checksum else t
      if u.stamp.signature.isEmpty then u.fingerprint.map u.withSignature else .ok u) = .ok stored ↔
    Filled t stored := by
  simp only [fillChecksum_eq, fillSignature_eq_ok, filled_iff_exists]
  rfl

end Tool

namespace Registry

variable {r : Registry} {t stored : Tool}

/-- **What a registration stores** of a tool that is submitted: nothing without a name, the tool with the hashes that
it lacks if the registry is secured, else the tool as it is. -/
theorem prepare_eq_ok : r.prepare t = .ok stored ↔
    t.name ≠ "" ∧ if r.isSecured then Tool.Filled t stored else stored = t := by
  rw [prepare]
  by_cases hempty : t.name.isEmpty = true
  · rw [if_pos hempty]
    exact iff_of_false nofun fun h => h.1 (by simpa using hempty)
  · rw [if_neg hempty, and_iff_right (by simpa using hempty)]
    by_cases hsecured : r.isSecured = true
    · rw [if_pos hsecured, if_pos hsecured]
      exact Tool.filled_iff
    · rw [if_neg hsecured, if_neg hsecured, Except.ok.injEq, eq_comm]

/-- only hashes are ever written into a tool that is registered -/
theorem prepare_rest (h : r.prepare t = .ok stored) :
    t.name ≠ "" ∧ ∃ checksum signature, stored = (t.withChecksum checksum).withSignature signature := by
  obtain ⟨hne, hstored⟩ := prepare_eq_ok.1 h
  refine ⟨hne, ?_⟩
  split_ifs at hstored
  · exact ⟨_, _, hstored.rest⟩
  · exact ⟨t.stamp.checksum, t.stamp.signature, hstored⟩

theorem name_of_prepare (h : r.prepare t = .ok stored) : stored.name = t.name := by
  obtain ⟨-, checksum, signature, rfl⟩ := prepare_rest h
  rfl

/-- **While hashes are validated, what is stored is judged as what was submitted is verified.** -/
theorem judge_filled (hs : r.isSecured = true) (hv : r.policy.validatesChecksums = true) (h : Tool.Filled t stored) :
    r.judge t.name stored = t.verify.map fun _ => stored := by
  rw [judge, if_pos hs, if_pos hv, h.checkChecksum_eq, h.checkSignature_eq, h.isUnsigned_eq, Bool.and_false,
    Tool.verify_eq]
  simp only [Bool.false_eq_true, if_false]
  cases (if t.stamp.checksum.isEmpty then .ok () else t.checkChecksum t.name : Except RegistryFault Unit) with
  | error e => rfl
  | ok =>
    cases (if t.stamp.signature.isEmpty then .ok () else t.checkSignature t.name : Except RegistryFault Unit) with
    | error e => rfl
    | ok => rfl

/-- while they are not, whatever was registered passes, since it lacks no hash -/
theorem judge_filled_trusting (hs : r.isSecured = true) (hv : r.policy.validatesChecksums = false)
    (h : Tool.Filled t stored) (name : String) : r.judge name stored = .ok stored := by
  rw [judge, if_pos hs, hv, h.isUnsigned_eq, Bool.and_false]
  rfl

end Registry

end ToolGateway
