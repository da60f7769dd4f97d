import ToolGateway.Proofs.Registry.Run

/-!
What a read asks of a tool, against the check that a tool makes of itself, and under one policy against another.

Both look at the two hashes of a stored tool, and they treat a missing one differently: `verify` passes over it, while a
read compares it like any other and only then asks whether a hash is missing. A digest is never empty, so a missing hash
never passes the comparison.

- `get_eq_ok`: a read gives the tool that stands under the name, as it is, if it passes what is checked (`Passes`).
- `judge_error`: all the reasons for which a stored tool is refused.
- `judge_of_signed`: while hashes are validated, a tool with both hashes is judged as it verifies itself.
- `get_of_within`: what is given under one policy is given under every policy that checks less.
- `reads_agree_with_verify`: so at every moment of every run.
-/

namespace ToolGateway

/-- each check that the one policy makes is made by the other, too -/
structure Policy.Within (p q : Policy) : Prop where
  validates : p.validatesChecksums = true → q.validatesChecksums = true
  rejects : p.rejectsUnsigned = true → q.rejectsUnsigned = true

namespace Tool

/-- both hashes are there, and they are those of the content -/
structure Attested (t : Tool) : Prop where
  isSigned : t.stamp.isUnsigned = false
  checksum : t.stamp.checksum = t.checksum
  signature : t.fingerprint = .ok t.stamp.signature

theorem attested_of_hashes {t : Tool} (hchecksum : t.stamp.checksum = t.checksum)
    (hsignature : t.fingerprint = .ok t.stamp.signature) : t.Attested :=
  ⟨isUnsigned_of_hashes hchecksum hsignature, hchecksum, hsignature⟩

/-- a tool with both hashes is stored as it is -/
theorem filled_self {t : Tool} (h : t.stamp.isUnsigned = false) : Filled t t := by
  obtain ⟨hchecksum, hsignature⟩ := Bool.or_eq_false_iff.1 h
  refine ⟨rfl, ?_, ?_⟩
  · rw [hchecksum]
    rfl
  · rw [hsignature]
    rfl

/-- a wrong checksum is reported with the one that was computed -/
theorem checkChecksum_error {t : Tool} {name : String} {e : RegistryFault} (h : t.checkChecksum name = .error e) :
    e = .checksumMismatch name t.stamp.checksum t.checksum := by
  rw [checkChecksum] at h
  split_ifs at h
  cases h
  rfl

/-- a fingerprint is missing or wrong -/
theorem checkSignature_error {t : Tool} {name : String} {e : RegistryFault} (h : t.checkSignature name = .error e) :
    e = .missingSchema t.name ∨ ∃ computed, e = .fingerprintMismatch name t.stamp.signature computed := by
  rcases error_of_bind h with h | ⟨computed, -, h⟩
  · rw [fingerprint] at h
    cases hschema : t.inputSchema with
    | none =>
      rw [hschema] at h
      cases h
      exact .inl rfl
    | some schema =>
      rw [hschema] at h
      cases h
  · split_ifs at h
    cases h
    exact .inr ⟨computed, rfl⟩

end Tool

namespace Registry

variable {r : Registry} {name : String} {t given : Tool}

/-! ## What passes -/

/-- the tool has what the policy asks for; a registry that is not secured asks for nothing -/
def Passes (r : Registry) (t : Tool) : Prop :=
  r.isSecured = true → (r.policy.validatesChecksums = true → t.Attested) ∧
    (r.policy.rejectsUnsigned = true → t.stamp.isUnsigned = false)

theorem judge_eq_ok : r.judge name t = .ok given ↔ given = t ∧ r.Passes t := by
  constructor
  · intro h
    refine ⟨judge_given h, fun hs => ⟨fun hv => ?_, fun hr => ?_⟩⟩
    · obtain ⟨-, hchecksum, hsignature⟩ := judge_verified hs hv h
      exact Tool.attested_of_hashes hchecksum hsignature
    · rw [judge_eq, if_pos hs] at h
      obtain ⟨-, -, h⟩ := ok_of_bind h
      rw [hr, Bool.true_and] at h
      split_ifs at h with hunsigned
      exact Bool.eq_false_of_not_eq_true hunsigned
  · rintro ⟨rfl, h⟩
    by_cases hs : r.isSecured = true
    · obtain ⟨hattested, hsigned⟩ := h hs
      by_cases hv : r.policy.validatesChecksums = true
      · exact judge_of_hashes r name (hattested hv).checksum (hattested hv).signature
      · have hpresent : ¬ (r.policy.rejectsUnsigned && given.stamp.isUnsigned) = true := by
          rw [Bool.and_eq_true]
          rintro ⟨hr, hunsigned⟩
          rw [hsigned hr] at hunsigned
          cases hunsigned
        rw [judge_eq, if_pos hs, if_neg hv, if_neg hpresent]
        rfl
    · rw [judge_eq, if_neg hs]

/-- **A read gives what stands under the name if it passes.** -/
theorem get_eq_ok : r.get name = .ok t ↔ r.tools.find? name = some t ∧ r.Passes t := by
  rw [get]
  cases r.tools.find? name with
  | none => simp
  | some stored =>
    rw [judge_eq_ok, Option.some_inj]
    constructor
    · rintro ⟨rfl, h⟩
      exact ⟨rfl, h⟩
    · rintro ⟨rfl, h⟩
      exact ⟨rfl, h⟩

/-- what passes under a policy passes under one that checks less -/
theorem Passes.of_within {p q : Policy} (h : (r.setPolicy q).Passes t) (hpq : p.Within q) :
    (r.setPolicy p).Passes t := by
  intro hs
  obtain ⟨hattested, hsigned⟩ := h hs
  exact ⟨fun hv => hattested (hpq.validates hv), fun hr => hsigned (hpq.rejects hr)⟩

/-- **What is given under a policy is given under every policy that checks less.** -/
theorem get_of_within {p q : Policy} (hpq : p.Within q) (h : (r.setPolicy q).get name = .ok t) :
    (r.setPolicy p).get name = .ok t := by
  obtain ⟨hfind, hpasses⟩ := get_eq_ok.1 h
  exact get_eq_ok.2 ⟨hfind, hpasses.of_within hpq⟩

/-! ## What is refused -/

/-- a stored tool is refused for a wrong hash or for want of a schema, or for a missing hash while none is validated -/
theorem judge_error {e : RegistryFault} (h : r.judge name t = .error e) :
    e = .checksumMismatch name t.stamp.checksum t.checksum ∨ e = .missingSchema t.name ∨
      (∃ computed, e = .fingerprintMismatch name t.stamp.signature computed) ∨
      e = .unsigned name ∧ r.policy.validatesChecksums = false := by
  rw [judge_eq] at h
  by_cases hs : r.isSecured = true
  · rw [if_pos hs] at h
    rcases error_of_bind h with h | ⟨⟨⟩, hchecks, h⟩
    · split_ifs at h
      rcases error_of_bind h with h | ⟨-, -, h⟩
      · exact .inl (Tool.checkChecksum_error h)
      · rcases Tool.checkSignature_error h with h | h
        · exact .inr (.inl h)
        · exact .inr (.inr (.inl h))
    · split_ifs at h with hunsigned
      cases h
      refine .inr (.inr (.inr ⟨rfl, Bool.eq_false_of_not_eq_true fun hv => ?_⟩))
      -- both hashes have passed the comparison, so neither is missing
      rw [if_pos hv] at hchecks
      obtain ⟨⟨⟩, hchecksum, hsignature⟩ := ok_of_bind hchecks
      obtain ⟨hfirst, hsecond⟩ := hashes_of_checks hchecksum hsignature
      rw [Tool.isUnsigned_of_hashes hfirst hsecond, Bool.and_false] at hunsigned
      cases hunsigned
  · rw [if_neg hs] at h
    cases h

/-- a tool that stands there is never refused for not being there -/
theorem judge_ne_notFound (r : Registry) (name missing : String) (t : Tool) :
    r.judge name t ≠ .error (.notFound missing) := by
  intro h
  rcases judge_error h with h | h | ⟨_, h⟩ | ⟨h, -⟩ <;> cases h

/-- **While hashes are validated, a tool with both hashes is judged as it verifies itself**, for the same reason if it
is refused. -/
theorem judge_of_signed (hs : r.isSecured = true) (hv : r.policy.validatesChecksums = true)
    (h : t.stamp.isUnsigned = false) : r.judge t.name t = t.verify.map fun _ => t :=
  judge_filled hs hv (Tool.filled_self h)

/-- a tool with a missing hash does not get through -/
theorem judge_of_unsigned (hs : r.isSecured = true) (hv : r.policy.validatesChecksums = true)
    (h : t.stamp.isUnsigned = true) : r.judge name t ≠ .ok given := by
  intro hok
  have hsigned := (((judge_eq_ok.1 hok).2 hs).1 hv).isSigned
  rw [h] at hsigned
  cases hsigned

/-- while they are not, a missing hash is the only thing that a read can mind -/
theorem judge_trusting (hs : r.isSecured = true) (hv : r.policy.validatesChecksums = false) :
    r.judge name t =
      if r.policy.rejectsUnsigned && t.stamp.isUnsigned then .error (.unsigned name) else .ok t := by
  rw [judge_eq, if_pos hs, hv]
  rfl

/-! ## Main result -/

/-- **Reads agree with the check that a tool makes of itself, and less is refused when less is checked.** At every
moment of every run, for each tool that stands in the registry:

- while a secured registry validates hashes, the read succeeds exactly if both hashes are there and the tool verifies
  itself; with both hashes there it gives the tool as it is, or refuses it for exactly the fault that the tool finds
  itself; and it never says that a tool is unsigned;
- while it does not validate them, the read says so exactly if a hash is missing and such tools are rejected, and
  otherwise gives the tool;
- a registry that is not secured gives it in any case.

Whatever is given under a policy is given, unchanged, under every policy that checks less. -/
theorem reads_agree_with_verify (isSecured : Bool) (policy : Policy) (ops : List Op) :
    let r := run { isSecured, policy } ops
    (∀ name t, r.tools.find? name = some t →
      (isSecured = true → r.policy.validatesChecksums = true →
        ((∃ given, r.get name = .ok given) ↔ t.stamp.isUnsigned = false ∧ t.verify = .ok ()) ∧
        (t.stamp.isUnsigned = false → r.get name = t.verify.map fun _ => t) ∧
        ∀ other, r.get name ≠ .error (.unsigned other)) ∧
      (isSecured = true → r.policy.validatesChecksums = false → r.get name =
        if r.policy.rejectsUnsigned && t.stamp.isUnsigned then .error (.unsigned name) else .ok t) ∧
      (isSecured = false → r.get name = .ok t)) ∧
    ∀ p q name t, p.Within q → (r.setPolicy q).get name = .ok t → (r.setPolicy p).get name = .ok t := by
  intro r
  have hinv : r.Inv := run_inv (inv_empty isSecured policy) ops
  have hsecured : r.isSecured = isSecured := run_isSecured _ ops
  refine ⟨fun name t hfind => ⟨fun hs hv => ?_, fun hs hv => ?_, fun hs => ?_⟩, fun p q name t => get_of_within⟩
  · have hget : r.get name = r.judge name t := by rw [get, hfind]
    have hname : t.name = name := hinv.named _ (Table.mem_of_find? hfind)
    have hs : r.isSecured = true := hsecured.trans hs
    rw [hget, ← hname]
    refine ⟨?_, judge_of_signed hs hv, fun other h => ?_⟩
    · cases hunsigned : t.stamp.isUnsigned with
      | true =>
        refine iff_of_false ?_ (by simp)
        rintro ⟨given, hgiven⟩
        exact judge_of_unsigned hs hv hunsigned hgiven
      | false =>
        rw [judge_of_signed hs hv hunsigned]
        cases t.verify with
        | error e => simp [Except.map]
        | ok => simp [Except.map]
    · rcases judge_error h with h | h | ⟨_, h⟩ | ⟨-, h⟩
      · cases h
      · cases h
      · cases h
      · rw [hv] at h
        cases h
  · rw [get, hfind]
    exact judge_trusting (hsecured.trans hs) hv
  · refine get_eq_ok.2 ⟨hfind, fun hr => ?_⟩
    rw [hsecured, hs] at hr
    cases hr

/-- a tool with one hash, put in place of all, and a new one that is stamped when it is registered -/
theorem reads_agree_with_verify_half_signed :
    let t : Tool := { Tool.named "t" with stamp := { checksum := "00" } }
    let strict : Policy := ⟨true, true⟩
    let r := run { isSecured := true, policy := strict } [.replaceAll [t], .register (.named "u")]
    r.tools.find? "t" = some t ∧ (¬ ∃ given, r.get "t" = .ok given) ∧ r.get "t" ≠ .error (.unsigned "t") ∧
      ∃ u, r.get "u" = .ok u ∧ Policy.Within ⟨false, true⟩ strict ∧
        (r.setPolicy ⟨false, true⟩).get "u" = .ok u := by
  intro t strict r
  let u := ((Tool.named "u").withChecksum (Tool.named "u").checksum).withSignature Tool.defaultSchema.hexDigest
  have hreplace : (Registry.replaceAll { isSecured := true, policy := strict } [t]).2 =
      { isSecured := true, policy := strict, tools := [("t", t)] } := rfl
  have hr : r = { isSecured := true, policy := strict, tools := Table.insert "u" u [("t", t)] } := by
    simp only [r, run, List.foldl_cons, List.foldl_nil, step, hreplace]
    rw [register_unstamped rfl (by decide) rfl rfl rfl]
    rfl
  have ht : r.tools.find? "t" = some t := by
    rw [hr, Table.find?_insert_of_ne _ _ (by decide)]
    rfl
  have hu : r.get "u" = .ok u := by
    rw [hr]
    exact get_genuine (genuine_stamped (t := Tool.named "u") (by decide) rfl) (Table.find?_insert_self _ _ _)
  have hpolicy : r.policy.validatesChecksums = true := by rw [hr]
  have hwithin : Policy.Within ⟨false, true⟩ strict := ⟨fun _ => rfl, fun _ => rfl⟩
  obtain ⟨hstored, hless⟩ := reads_agree_with_verify true strict [.replaceAll [t], .register (.named "u")]
  obtain ⟨hgiven, -, hunsigned⟩ := (hstored "t" t ht).1 rfl hpolicy
  refine ⟨ht, fun h => ?_, hunsigned "t", u, hu, hwithin, hless _ _ _ _ hwithin hu⟩
  obtain ⟨hsigned, -⟩ := hgiven.1 h
  cases hsigned

end Registry

end ToolGateway
