import ToolGateway.Proofs.Envelope.Tampering

/-!
Nothing is learnt about the encryption key without the signing key.

Someone hands in any octets at all, as often as he likes, and sees the answers. All that is judged before anything is
deciphered is `verify`, which is not given the encryption key; deciphering comes behind it, for what it lets through.

- `unwrap_eq_verify`: under an encryption key of the right size, opening is `verify` and then `decipher`.
- `verify_eq_ok`: what is let through holds a payload with the signature of its own nonce and ciphertext.
- `verify_error`: what is not let through is refused for the signing key, for its structure, or for its signature.
- `unwrap_unverified`: so the answer to octets without the right signature is the same under every two encryption keys,
  and none that comes from deciphering.
-/

namespace ToolGateway.Envelope

variable {α : Type}

/-! ## What a text holds -/

/-- the text holds a payload with these parts, all there, and the nonce of its size -/
def Holds (bytes : Bytes) (q : Parts) : Prop :=
  Payload.codec.read bytes = .ok ⟨some q.nonce, some q.ciphertext, some q.signature⟩ ∧ q.nonce.length = nonceSize ∧
    q.ciphertext ≠ [] ∧ q.signature ≠ []

/-- the text holds a payload with all its parts -/
def IsStructured (bytes : Bytes) : Prop :=
  ∃ q, Holds bytes q

/-- the text holds a payload whose signature is the one of its own nonce and ciphertext -/
def IsSigned (signingKey bytes : Bytes) : Prop :=
  ∃ nonce ciphertext, Holds bytes ⟨nonce, ciphertext, Hmac.sign signingKey (nonce ++ ciphertext)⟩

theorem readParts_eq_ok {bytes : Bytes} {q : Parts} : readParts bytes = .ok q ↔ Holds bytes q := by
  rw [readParts]
  constructor
  · intro h
    split_ifs at h with hempty
    cases hread : Payload.codec.read bytes with
    | error e =>
      rw [hread] at h
      cases h
    | ok p =>
      rw [hread] at h
      obtain ⟨rfl, hparts⟩ := parts_eq_ok.1 h
      exact ⟨hread, hparts⟩
  · rintro ⟨hread, hparts⟩
    rw [if_neg (ne_nil_of_read hread), hread]
    exact parts_eq_ok.2 ⟨rfl, hparts⟩

/-- a text without parts is refused for its structure -/
theorem readParts_error {bytes : Bytes} {e : Fault} (h : readParts bytes = .error e) :
    ∃ detail, e = .invalidInput detail := by
  rw [readParts] at h
  split_ifs at h with hempty
  · cases h
    exact ⟨_, rfl⟩
  · cases hread : Payload.codec.read bytes with
    | error why =>
      rw [hread] at h
      cases h
      exact ⟨_, rfl⟩
    | ok p =>
      rw [hread] at h
      obtain ⟨detail, rfl⟩ := parts_error h
      exact ⟨_, rfl⟩

/-! ## What comes before deciphering -/

/-- all that is judged before anything is deciphered: the signing key, the structure, the signature -/
def verify (signingKey bytes : Bytes) : Except Fault Parts :=
  if signingKey = [] then .error (.invalidKey "HMAC key cannot be empty")
  else
    (readParts bytes).bind fun q =>
      if signature signingKey q.nonce q.ciphertext = q.signature then .ok q else .error .authenticationFailed

/-- an encryption key of the wrong size is refused whatever else is handed in -/
theorem unwrap_wrong_size (codec : Codec α) {encryptionKey : Bytes} (hsize : encryptionKey.length ≠ keySize)
    (signingKey bytes : Bytes) :
    unwrap codec encryptionKey signingKey bytes = .error (.invalidKey "expected 32 bytes for AES key") := by
  rw [unwrap, checkKeys, if_pos hsize]
  rfl

/-- **Opening is verifying, then deciphering**, and only the second is given the encryption key. -/
theorem unwrap_eq_verify (codec : Codec α) {encryptionKey : Bytes} (hsize : encryptionKey.length = keySize)
    (signingKey bytes : Bytes) : unwrap codec encryptionKey signingKey bytes =
      (verify signingKey bytes).bind (decipher codec encryptionKey) := by
  rw [unwrap, checkKeys, if_neg (not_not_intro hsize), verify]
  by_cases hempty : signingKey = []
  · rw [if_pos hempty, if_pos hempty]
    rfl
  · rw [if_neg hempty, if_neg hempty]
    cases readParts bytes with
    | error e => rfl
    | ok q =>
      by_cases hsignature : signature signingKey q.nonce q.ciphertext = q.signature
      · simp only [bind, Except.bind, if_pos hsignature]
      · simp only [bind, Except.bind, if_neg hsignature]
        rfl

/-- **What is let through** holds a payload with the signature of its own nonce and ciphertext. -/
theorem verify_eq_ok {signingKey bytes : Bytes} {q : Parts} : verify signingKey bytes = .ok q ↔
    signingKey ≠ [] ∧ Holds bytes q ∧ q.signature = Hmac.sign signingKey (q.nonce ++ q.ciphertext) := by
  rw [verify]
  by_cases hempty : signingKey = []
  · simp [hempty]
  · rw [if_neg hempty]
    constructor
    · intro h
      obtain ⟨p, hparts, h⟩ := ok_of_bind h
      split_ifs at h with hsignature
      cases h
      exact ⟨hempty, readParts_eq_ok.1 hparts, hsignature.symm⟩
    · rintro ⟨-, hholds, hsignature⟩
      rw [readParts_eq_ok.2 hholds]
      exact if_pos hsignature.symm

/-- **What is not let through** is refused for an empty signing key, else for its structure, else for its signature. -/
theorem verify_error {signingKey bytes : Bytes} {e : Fault} (h : verify signingKey bytes = .error e) :
    (signingKey = [] ∧ e = .invalidKey "HMAC key cannot be empty") ∨
    (signingKey ≠ [] ∧ ¬ IsStructured bytes ∧ ∃ detail, e = .invalidInput detail) ∨
    (signingKey ≠ [] ∧ IsStructured bytes ∧ e = .authenticationFailed) := by
  rw [verify] at h
  by_cases hempty : signingKey = []
  · rw [if_pos hempty] at h
    cases h
    exact .inl ⟨hempty, rfl⟩
  · rw [if_neg hempty] at h
    rcases error_of_bind h with hparts | ⟨q, hparts, h⟩
    · refine .inr (.inl ⟨hempty, ?_, readParts_error hparts⟩)
      rintro ⟨q, hholds⟩
      rw [readParts_eq_ok.2 hholds] at hparts
      cases hparts
    · split_ifs at h
      cases h
      exact .inr (.inr ⟨hempty, ⟨q, readParts_eq_ok.1 hparts⟩, rfl⟩)

/-- octets without the right signature are not let through -/
theorem verify_unsigned {signingKey bytes : Bytes} (h : ¬ IsSigned signingKey bytes) :
    ∃ e, verify signingKey bytes = .error e := by
  cases hverify : verify signingKey bytes with
  | error e => exact ⟨e, rfl⟩
  | ok q =>
    obtain ⟨-, hholds, hsignature⟩ := verify_eq_ok.1 hverify
    refine absurd ⟨q.nonce, q.ciphertext, ?_⟩ h
    rw [← hsignature]
    exact hholds

/-! ## Main result -/

/-- **There is no oracle for the cipher.** Take any octets and any signing key.

- Without the right signature, every two encryption keys of the right size get one and the same refusal: for the signing
  key if that is empty, else for the structure, else for the signature.
- So an answer that comes from deciphering, be it a value or one of its two failures, is given under no key at all
  unless the signature is right; if it is, and the keys are good, deciphering gives the answer.
- An encryption key of the wrong size is refused first, and then an empty signing key, whatever the octets are. -/
theorem unwrap_unverified (codec : Codec α) (signingKey bytes : Bytes) :
    (∀ e₁ e₂ : Bytes, e₁.length = 32 → e₂.length = 32 → ¬ IsSigned signingKey bytes →
      ∃ fault, unwrap codec e₁ signingKey bytes = .error fault ∧ unwrap codec e₂ signingKey bytes = .error fault ∧
        ((signingKey = [] ∧ fault = .invalidKey "HMAC key cannot be empty") ∨
          (signingKey ≠ [] ∧ ¬ IsStructured bytes ∧ ∃ detail, fault = .invalidInput detail) ∨
          (signingKey ≠ [] ∧ IsStructured bytes ∧ fault = .authenticationFailed))) ∧
    (∀ e : Bytes, unwrap codec e signingKey bytes = .error .decryptionFailed ∨
        (∃ detail, unwrap codec e signingKey bytes = .error (.serialization detail)) ∨
        (∃ a, unwrap codec e signingKey bytes = .ok a) → IsSigned signingKey bytes) ∧
    (∀ e : Bytes, e.length = 32 → signingKey ≠ [] → IsSigned signingKey bytes →
      ∃ q, Holds bytes q ∧ unwrap codec e signingKey bytes = decipher codec e q) ∧
    (∀ e : Bytes, e.length ≠ 32 →
      unwrap codec e signingKey bytes = .error (.invalidKey "expected 32 bytes for AES key")) ∧
    (∀ e : Bytes, e.length = 32 → signingKey = [] →
      unwrap codec e signingKey bytes = .error (.invalidKey "HMAC key cannot be empty")) := by
  have hrefused : ∀ e : Bytes, e.length = 32 → ∀ fault, verify signingKey bytes = .error fault →
      unwrap codec e signingKey bytes = .error fault := by
    intro e hsize fault hverify
    rw [unwrap_eq_verify codec hsize, hverify]
    rfl
  refine ⟨fun e₁ e₂ h₁ h₂ hunsigned => ?_, fun e hanswer => ?_, fun e hsize hkey hsigned => ?_,
    fun e hsize => unwrap_wrong_size codec hsize signingKey bytes, fun e hsize hempty => ?_⟩
  · obtain ⟨fault, hverify⟩ := verify_unsigned hunsigned
    exact ⟨fault, hrefused e₁ h₁ fault hverify, hrefused e₂ h₂ fault hverify, verify_error hverify⟩
  · by_contra hunsigned
    by_cases hsize : e.length = 32
    · obtain ⟨fault, hverify⟩ := verify_unsigned hunsigned
      rw [hrefused e hsize fault hverify] at hanswer
      rcases verify_error hverify with ⟨-, rfl⟩ | ⟨-, -, detail, rfl⟩ | ⟨-, -, rfl⟩ <;> simp at hanswer
    · rw [unwrap_wrong_size codec hsize] at hanswer
      simp at hanswer
  · obtain ⟨nonce, ciphertext, hholds⟩ := hsigned
    refine ⟨_, hholds, ?_⟩
    rw [unwrap_eq_verify codec hsize, verify_eq_ok.2 ⟨hkey, hholds, rfl⟩]
    rfl
  · refine hrefused e hsize _ ?_
    rw [verify, if_pos hempty]

/-- a payload signed with a single octet, under keys of zeros and of ones -/
theorem unwrap_unverified_octet :
    let bytes := Utf8.encode (Payload.codec.write ⟨some (List.replicate 12 0), some [0], some [0]⟩)
    unwrap .free (List.replicate 32 0) [1] bytes = .error .authenticationFailed ∧
      unwrap .free (List.replicate 32 1) [1] bytes = .error .authenticationFailed := by
  intro bytes
  have hread : Payload.codec.read bytes = .ok ⟨some (List.replicate 12 0), some [0], some [0]⟩ := Payload.read_write _
  have hunsigned : ¬ IsSigned [1] bytes := by
    rintro ⟨nonce, ciphertext, hholds, -⟩
    rw [hread] at hholds
    simp only [Except.ok.injEq, Payload.mk.injEq, Option.some.injEq] at hholds
    have hlength := Hmac.length_sign [1] (nonce ++ ciphertext)
    rw [← hholds.2.2] at hlength
    cases hlength
  have hstructured : IsStructured bytes := ⟨⟨_, _, _⟩, hread, by decide, by decide, by decide⟩
  obtain ⟨fault, hzeros, hones, hwhy⟩ :=
    (unwrap_unverified .free [1] bytes).1 (List.replicate 32 0) (List.replicate 32 1) (by decide) (by decide) hunsigned
  rcases hwhy with ⟨hempty, -⟩ | ⟨-, hnone, -⟩ | ⟨-, -, rfl⟩
  · cases hempty
  · exact absurd hstructured hnone
  · exact ⟨hzeros, hones⟩

end ToolGateway.Envelope
