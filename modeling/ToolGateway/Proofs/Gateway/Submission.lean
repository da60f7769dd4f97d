import ToolGateway.Proofs.Gateway.Run

/-!
The review of a submitted tool, and a read of it right after its registration.

Two paths look at the hashes of a tool. A review checks those that the tool carries and passes over missing ones; a
registration fills in the missing ones, and a read then compares both. `find_registered` says what the read gives in
terms of the check that the review makes, so that the two agree on every combination of hashes that are missing, right
or wrong, with an input schema or without, and also on the fault that is reported first.

- `review_agrees_iff`: they agree exactly if hashes are validated when the tool is read, or the review finds no fault.
- `review_disagrees_unvalidated`: once validation is switched off, a tool that the review refuses is given out.
-/

namespace ToolGateway.Gateway

/-- the gateway of a configuration, its registry in any state -/
def inState (c : Configuration) (tools : Table String Tool) (policy : Policy) : Gateway :=
  { ofConfiguration c with registry := { (ofConfiguration c).registry with tools, policy } }

/-- the review and the read agree: on the verdict, on the checksum of a good tool, and on the wording of the fault -/
structure Agree (review : Review) (name : String) (answer : Except GatewayFault Tool) : Prop where
  verdict : review.isValid = true ↔ ∃ given, answer = .ok given
  checksum : ∀ given, answer = .ok given → given.stamp.checksum = review.checksum
  error : ∀ fault, answer = .error fault → ∃ cause, fault = .lookup name cause ∧ cause.message = review.error

/-- a good review agrees with a read that gives a tool of the same checksum -/
theorem Agree.of_ok {review : Review} {name : String} {given : Tool} (hvalid : review.isValid = true)
    (hchecksum : given.stamp.checksum = review.checksum) : Agree review name (.ok given) where
  verdict := ⟨fun _ => ⟨given, rfl⟩, fun _ => hvalid⟩
  checksum := by
    intro other hother
    cases hother
    exact hchecksum
  error := by
    intro fault hfault
    cases hfault

/-- a bad one agrees with a read that is refused for the reason that the review words -/
theorem Agree.of_error {review : Review} {name : String} {cause : RegistryFault} (hinvalid : review.isValid = false)
    (herror : cause.message = review.error) : Agree review name (.error (.lookup name cause)) where
  verdict := by
    constructor
    · intro hvalid
      rw [hinvalid] at hvalid
      cases hvalid
    · rintro ⟨given, hgiven⟩
      cases hgiven
  checksum := by
    intro given hgiven
    cases hgiven
  error := by
    intro fault hfault
    cases hfault
    exact ⟨cause, rfl, herror⟩

variable {g : Gateway} {t stored : Tool}

/-! ## Both sides from the hashes that the tool carries -/

/-- an accepted registration stores what the registry has prepared -/
theorem register_ok (h : (g.register t).1 = .ok ()) : g.configuration.Admits t ∧ ∃ stored,
    g.registry.prepare t = .ok stored ∧
      (g.register t).2 = { g with registry := { g.registry with tools := g.registry.tools.insert t.name stored } } := by
  unfold register at h ⊢
  cases hscreen : g.screen t with
  | error e =>
    rw [hscreen] at h
    cases h
  | ok =>
    rw [hscreen] at h
    refine ⟨screen_eq_ok.1 hscreen, ?_⟩
    simp only [onRegistry, Registry.register] at h ⊢
    cases hprepare : g.registry.prepare t with
    | error e =>
      rw [hprepare] at h
      cases h
    | ok stored =>
      obtain ⟨-, checksum, signature, rfl⟩ := Registry.prepare_rest hprepare
      exact ⟨_, rfl, rfl⟩

/-- the review of an admitted tool comes down to its hashes -/
theorem review_admitted (h : g.configuration.Admits t) : g.review t =
    match t.verify with
    | .error e => .refused t.name e.message
    | .ok () => .passed t.name t.checksum := by
  have hscreen : (if g.configuration.validation.scansDescriptions then HiddenText.screen t.description else .ok ()) =
      .ok () := by
    split_ifs with hscans
    · exact h.clean hscans
    · rfl
  have hreview : g.review t = t.review g.configuration.validation.scansDescriptions := rfl
  rw [Tool.review, hscreen] at hreview
  exact hreview

/-- a read right after the registration, with hashes validated or not -/
theorem find_registered (hs : g.registry.isSecured = true) (h : (g.register t).1 = .ok ()) :
    ∃ stored, Tool.Filled t stored ∧ (g.register t).2.find t.name =
      if g.registry.policy.validatesChecksums then (t.verify.map fun _ => stored).mapError (.lookup t.name)
      else .ok stored := by
  obtain ⟨-, stored, hprepare, hregister⟩ := register_ok h
  have hfilled := (Registry.prepare_eq_ok.1 hprepare).2
  rw [if_pos hs] at hfilled
  refine ⟨stored, hfilled, ?_⟩
  -- the registry that the tool was put into has the policy of the one before
  obtain ⟨r, hr⟩ : ∃ r, r = { g.registry with tools := g.registry.tools.insert t.name stored } := ⟨_, rfl⟩
  have hsecured : r.isSecured = true := by rw [hr]; exact hs
  have hpolicy : g.registry.policy = r.policy := by rw [hr]
  have hstored : r.tools.find? t.name = some stored := by
    rw [hr]
    exact Table.find?_insert_self _ _ _
  rw [hregister, find, Registry.get, ← hr, hpolicy]
  simp only [hstored]
  cases hv : r.policy.validatesChecksums with
  | true =>
    rw [Registry.judge_filled hsecured hv hfilled]
    rfl
  | false =>
    rw [Registry.judge_filled_trusting hsecured hv hfilled]
    rfl

/-- a tool that passes its own checks is stored with the checksum of its content -/
theorem filled_checksum (hverify : t.verify = .ok ()) (hfilled : Tool.Filled t stored) :
    stored.stamp.checksum = t.checksum := by
  rw [hfilled.checksum]
  split_ifs with hempty
  · rfl
  · rw [Tool.verify_eq, if_neg hempty, Tool.checkChecksum] at hverify
    by_cases heq : t.checksum = t.stamp.checksum
    · exact heq.symm
    · rw [if_neg heq] at hverify
      cases hverify

/-- a checksum of another length than a digest has is found out by every review -/
theorem review_of_length (hadmits : g.configuration.Admits t) (hne : t.stamp.checksum ≠ "")
    (hlength : t.stamp.checksum.length ≠ 64) :
    g.review t = .refused t.name (RegistryFault.checksumMismatch t.name t.stamp.checksum t.checksum).message := by
  have hwrong : ¬ t.checksum = t.stamp.checksum := by
    intro heq
    rw [← heq] at hlength
    exact hlength t.projection.length_hexDigest
  have hverify : t.verify = .error (.checksumMismatch t.name t.stamp.checksum t.checksum) := by
    rw [Tool.verify_eq, if_neg (by simpa using hne), Tool.checkChecksum, if_neg hwrong]
    rfl
  rw [review_admitted hadmits, hverify]

/-! ## Main result -/

/-- **Review and read agree exactly if hashes are validated or the review passes.** The configuration is any that asks
for a secured registry, the registry may be in any state, and the tool is any that is registered: with hashes or
without, right or wrong. -/
theorem review_agrees_iff (c : Configuration) (hs : c.registry.isSecured = true) (tools : Table String Tool)
    (policy : Policy) (t : Tool) (h : ((inState c tools policy).register t).1 = .ok ()) :
    Agree ((inState c tools policy).review t) t.name (((inState c tools policy).register t).2.find t.name) ↔
      policy.validatesChecksums = true ∨ ((inState c tools policy).review t).isValid = true := by
  have hs : (inState c tools policy).registry.isSecured = true := hs
  have hpolicy : (inState c tools policy).registry.policy = policy := rfl
  generalize inState c tools policy = g at h hs hpolicy ⊢
  obtain ⟨stored, hfilled, hfind⟩ := find_registered hs h
  have hreview := review_admitted (register_ok h).1
  rw [hpolicy] at hfind
  cases hverify : t.verify with
  | ok =>
    -- the read gives the stored tool, validated or not
    have hanswer : (g.register t).2.find t.name = .ok stored := by
      rw [hfind, hverify]
      split_ifs <;> rfl
    rw [hverify] at hreview
    rw [hanswer, hreview]
    exact ⟨fun _ => .inr rfl, fun _ => .of_ok rfl (filled_checksum hverify hfilled)⟩
  | error e =>
    rw [hverify] at hreview
    cases hv : policy.validatesChecksums with
    | true =>
      -- both refuse, the read for the reason that the review words
      have hanswer : (g.register t).2.find t.name = .error (.lookup t.name e) := by
        rw [hfind, if_pos hv, hverify]
        rfl
      rw [hanswer, hreview]
      exact ⟨fun _ => .inl rfl, fun _ => .of_error rfl rfl⟩
    | false =>
      -- the review refuses, the read does not
      have hanswer : (g.register t).2.find t.name = .ok stored := by
        rw [hfind, if_neg (by simp [hv])]
      rw [hanswer, hreview]
      constructor
      · intro hagree
        exact absurd (hagree.verdict.2 ⟨stored, rfl⟩) Bool.false_ne_true
      · rintro (hvalidates | hvalid)
        · cases hvalidates
        · cases hvalid

/-- a tool with a forged checksum, registered and refused on both paths -/
theorem review_agrees_forged :
    let g := inState {} [] { validatesChecksums := true }
    let t : Tool := { Tool.named "t" with stamp := { checksum := "00" } }
    (g.review t).isValid = false ∧ Agree (g.review t) "t" ((g.register t).2.find "t") := by
  intro g t
  have hscreen : g.screen t = .ok () := by decide
  have hregister : (g.register t).1 = .ok () := by
    rw [register, hscreen]
    rfl
  have hreview := review_of_length (screen_eq_ok.1 hscreen) (t := t) (by decide) (by decide)
  have hinvalid : (g.review t).isValid = false := by
    rw [hreview]
    rfl
  have hagree := (review_agrees_iff {} rfl [] { validatesChecksums := true } t hregister).2 (.inl rfl)
  exact ⟨hinvalid, hagree⟩

/-- once validation is switched off, the same tool is refused by the review and given out -/
theorem review_disagrees_unvalidated :
    let c : Configuration := {}
    let g := (ofConfiguration c).setPolicy {}
    let t : Tool := { Tool.named "t" with stamp := { checksum := "00" } }
    c.registry.isSecured = true ∧ c.registry.policy.validatesChecksums = true ∧ (g.register t).1 = .ok () ∧
      (g.review t).isValid = false ∧ ∃ given, (g.register t).2.find "t" = .ok given := by
  intro c g t
  have hscreen : g.screen t = .ok () := by decide
  have hregister : (g.register t).1 = .ok () := by
    rw [register, hscreen]
    rfl
  have hreview := review_of_length (screen_eq_ok.1 hscreen) (t := t) (by decide) (by decide)
  have hinvalid : (g.review t).isValid = false := by
    rw [hreview]
    rfl
  obtain ⟨stored, -, hfind⟩ := find_registered rfl hregister
  have hpolicy : g.registry.policy.validatesChecksums = false := rfl
  rw [hpolicy] at hfind
  exact ⟨rfl, rfl, hregister, hinvalid, stored, hfind⟩

end ToolGateway.Gateway
