import ToolGateway.Proofs.Bytes.Base64
import ToolGateway.Proofs.Crypto.Gcm
import ToolGateway.Proofs.Crypto.Hmac
import ToolGateway.Proofs.Document.ReadBack
import ToolGateway.Proofs.Json.Reading
import ToolGateway.Envelope

/-!
Payloads on the wire, and what becomes of one that is opened.

- `Payload.read_write`: a payload is read back from what was written of it, whichever fields are missing or empty.
- `parts_eq_ok`: a payload has parts if all three fields are there and not empty, and the nonce has its size.
- `unwrap_cases`: so a payload that is opened is refused for its structure, or for its signature, or its signature is
  the one of its nonce and its ciphertext and it is deciphered.
-/

namespace ToolGateway

open Utf8 Json

namespace Envelope

variable {α : Type}

/-! ## The wire -/

/-- octets are read back from base 64, and missing ones from `null` -/
theorem octets_readsBack (field : Option Bytes) (depth : Nat) : octets.ReadsBack depth field field := by
  cases field with
  | none => exact Codec.through_readsBack (Codec.optional_of_null rfl) rfl
  | some bytes =>
    refine Codec.through_readsBack (Codec.optional_some (Codec.text_readsBack (Base64.encode bytes) depth) rfl) ?_
    simp only [Base64.decode_encode]

theorem Payload.readsBack (p : Payload) (depth : Nat) : Payload.codec.ReadsBack (depth + 1) p p := by
  refine Codec.record_readsBack ?_ (p.nonce, p.ciphertext, p.signature, ()) rfl ?_
  · simp [Fields.names]
  · exact ⟨octets_readsBack _ _, octets_readsBack _ _, octets_readsBack _ _, trivial⟩

/-- **A payload is read back**, whichever fields it lacks. -/
theorem Payload.read_write (p : Payload) : Payload.codec.read (Utf8.encode (Payload.codec.write p)) = .ok p :=
  Codec.read_write (p.readsBack _)

/-- the empty text holds no payload -/
theorem ne_nil_of_read {bytes : Bytes} {p : Payload} (h : Payload.codec.read bytes = .ok p) : bytes ≠ [] := by
  rintro rfl
  cases h

/-! ## Structure -/

theorem present_eq_ok {field : Option Bytes} {detail : String} {bytes : Bytes} :
    present field detail = .ok bytes ↔ field = some bytes ∧ bytes ≠ [] := by
  match field with
  | none => simp [present]
  | some [] =>
    simp only [present, reduceCtorEq, Option.some.injEq, false_iff, not_and, not_not]
    exact fun h => h.symm
  | some (b :: rest) =>
    simp only [present, Except.ok.injEq, Option.some.injEq]
    constructor
    · rintro rfl
      exact ⟨rfl, List.cons_ne_nil _ _⟩
    · exact fun h => h.1

theorem present_error {field : Option Bytes} {detail : String} {e : Fault} (h : present field detail = .error e) :
    e = incomplete detail := by
  match field with
  | none => exact (Except.error.inj h).symm
  | some [] => exact (Except.error.inj h).symm
  | some (b :: rest) => cases h

/-- **Parts are all there**, and the nonce has its size. -/
theorem parts_eq_ok {p : Payload} {q : Parts} : p.parts = .ok q ↔
    p = ⟨some q.nonce, some q.ciphertext, some q.signature⟩ ∧ q.nonce.length = nonceSize ∧ q.ciphertext ≠ [] ∧
      q.signature ≠ [] := by
  constructor
  · intro h
    rw [Payload.parts] at h
    obtain ⟨nonce, hnonce, h⟩ := ok_of_bind h
    by_cases hsize : nonce.length = nonceSize
    · rw [if_neg (not_not_intro hsize)] at h
      obtain ⟨ciphertext, hciphertext, h⟩ := ok_of_bind h
      obtain ⟨signature, hsignature, h⟩ := ok_of_bind h
      cases h
      obtain ⟨hn, -⟩ := present_eq_ok.1 hnonce
      obtain ⟨hc, hcne⟩ := present_eq_ok.1 hciphertext
      obtain ⟨hs, hsne⟩ := present_eq_ok.1 hsignature
      refine ⟨?_, hsize, hcne, hsne⟩
      rw [← hn, ← hc, ← hs]
    · rw [if_pos hsize] at h
      cases h
  · rintro ⟨rfl, hsize, hcne, hsne⟩
    have hnne : q.nonce ≠ [] := by
      intro hempty
      rw [hempty] at hsize
      cases hsize
    have hnonce : present (some q.nonce) "nonce missing" = .ok q.nonce := present_eq_ok.2 ⟨rfl, hnne⟩
    have hciphertext : present (some q.ciphertext) "ciphertext missing" = .ok q.ciphertext :=
      present_eq_ok.2 ⟨rfl, hcne⟩
    have hsignature : present (some q.signature) "signature missing" = .ok q.signature := present_eq_ok.2 ⟨rfl, hsne⟩
    simp only [Payload.parts, hnonce, hciphertext, hsignature, hsize, bind, Except.bind]
    rfl

/-- a payload without parts is refused for its structure -/
theorem parts_error {p : Payload} {e : Fault} (h : p.parts = .error e) : ∃ detail, e = incomplete detail := by
  rw [Payload.parts] at h
  rcases error_of_bind h with hnonce | ⟨nonce, -, h⟩
  · exact ⟨_, present_error hnonce⟩
  by_cases hsize : nonce.length = nonceSize
  · rw [if_neg (not_not_intro hsize)] at h
    rcases error_of_bind h with hciphertext | ⟨ciphertext, -, h⟩
    · exact ⟨_, present_error hciphertext⟩
    rcases error_of_bind h with hsignature | ⟨signature, -, h⟩
    · exact ⟨_, present_error hsignature⟩
    · cases h
  · rw [if_pos hsize] at h
    cases h
    exact ⟨_, rfl⟩

/-- a signed payload has parts: no signature is empty -/
theorem parts_signed (signingKey : Bytes) {nonce ciphertext : Bytes} (hnonce : nonce.length = nonceSize)
    (hciphertext : ciphertext ≠ []) :
    Payload.parts ⟨some nonce, some ciphertext, some (signature signingKey nonce ciphertext)⟩ =
      .ok ⟨nonce, ciphertext, signature signingKey nonce ciphertext⟩ := by
  have hlength : (signature signingKey nonce ciphertext).length = 32 := Hmac.length_sign signingKey _
  have hsignature : signature signingKey nonce ciphertext ≠ [] := List.ne_nil_of_length_pos (by rw [hlength]; decide)
  exact parts_eq_ok.2 ⟨rfl, hnonce, hciphertext, hsignature⟩

/-! ## Opening -/

variable {encryptionKey signingKey : Bytes}

theorem checkKeys_eq_ok :
    checkKeys encryptionKey signingKey = .ok () ↔ encryptionKey.length = keySize ∧ signingKey ≠ [] := by
  rw [checkKeys]
  by_cases hsize : encryptionKey.length = keySize
  · by_cases hempty : signingKey = []
    · simp [hsize, hempty]
    · simp [hsize, hempty]
  · simp [hsize]

/-- with good keys, what is opened is taken apart, then its signature is compared, then it is deciphered -/
theorem unwrap_eq (codec : Codec α) (hkeys : checkKeys encryptionKey signingKey = .ok ()) {bytes : Bytes} {p : Payload}
    (hread : Payload.codec.read bytes = .ok p) : unwrap codec encryptionKey signingKey bytes =
      p.parts.bind fun q =>
        if signature signingKey q.nonce q.ciphertext = q.signature then decipher codec encryptionKey q
        else .error .authenticationFailed := by
  have hparts : readParts bytes = p.parts := by
    rw [readParts, if_neg (ne_nil_of_read hread), hread]
  rw [unwrap, hkeys, hparts]
  rfl

/-- a signed payload is deciphered -/
theorem unwrap_signed (codec : Codec α) (hkeys : checkKeys encryptionKey signingKey = .ok ())
    {bytes nonce ciphertext : Bytes} (hread : Payload.codec.read bytes =
      .ok ⟨some nonce, some ciphertext, some (signature signingKey nonce ciphertext)⟩)
    (hnonce : nonce.length = nonceSize) (hciphertext : ciphertext ≠ []) :
    unwrap codec encryptionKey signingKey bytes =
      decipher codec encryptionKey ⟨nonce, ciphertext, signature signingKey nonce ciphertext⟩ := by
  rw [unwrap_eq codec hkeys hread, parts_signed signingKey hnonce hciphertext]
  exact if_pos rfl

/-- **What can become of a payload that is opened.** -/
theorem unwrap_cases (codec : Codec α) (hkeys : checkKeys encryptionKey signingKey = .ok ()) {bytes : Bytes}
    {p : Payload} (hread : Payload.codec.read bytes = .ok p) :
    (∃ detail, p.parts = .error (incomplete detail) ∧
      unwrap codec encryptionKey signingKey bytes = .error (incomplete detail)) ∨
    ∃ q, p.parts = .ok q ∧
      ((signature signingKey q.nonce q.ciphertext ≠ q.signature ∧
        unwrap codec encryptionKey signingKey bytes = .error .authenticationFailed) ∨
      (signature signingKey q.nonce q.ciphertext = q.signature ∧
        unwrap codec encryptionKey signingKey bytes = decipher codec encryptionKey q)) := by
  have hunwrap := unwrap_eq codec hkeys hread
  cases hparts : p.parts with
  | error e =>
    obtain ⟨detail, rfl⟩ := parts_error hparts
    rw [hparts] at hunwrap
    exact .inl ⟨detail, rfl, hunwrap⟩
  | ok q =>
    rw [hparts] at hunwrap
    refine .inr ⟨q, rfl, ?_⟩
    by_cases hsignature : signature signingKey q.nonce q.ciphertext = q.signature
    · refine .inr ⟨hsignature, hunwrap.trans ?_⟩
      exact if_pos hsignature
    · refine .inl ⟨hsignature, hunwrap.trans ?_⟩
      exact if_neg hsignature

/-- deciphering fails in its own ways -/
theorem decipher_cases (codec : Codec α) (encryptionKey : Bytes) (q : Parts) :
    (∃ a, decipher codec encryptionKey q = .ok a) ∨ decipher codec encryptionKey q = .error .decryptionFailed ∨
      ∃ detail, decipher codec encryptionKey q = .error (.serialization detail) := by
  rw [decipher]
  split
  · exact .inr (.inl rfl)
  · split
    · exact .inr (.inr ⟨_, rfl⟩)
    · exact .inl ⟨_, rfl⟩

/-! ## Sealing -/

/-- what is sealed under a nonce -/
def sealedPayload (codec : Codec α) (nonce encryptionKey signingKey : Bytes) (a : α) : Payload :=
  let ciphertext := Gcm.encrypt encryptionKey nonce (Utf8.encode (codec.write a))
  ⟨some nonce, some ciphertext, some (signature signingKey nonce ciphertext)⟩

/-- **Sealing succeeds exactly with good keys**, and writes the sealed payload. -/
theorem wrap_eq_ok {codec : Codec α} {nonce bytes : Bytes} {a : α} :
    wrap codec nonce encryptionKey signingKey a = .ok bytes ↔ checkKeys encryptionKey signingKey = .ok () ∧
      bytes = Utf8.encode (Payload.codec.write (sealedPayload codec nonce encryptionKey signingKey a)) := by
  rw [wrap]
  constructor
  · intro h
    obtain ⟨_, hkeys, h⟩ := ok_of_bind h
    exact ⟨hkeys, (Except.ok.inj h).symm⟩
  · rintro ⟨hkeys, hbytes⟩
    rw [hkeys, hbytes]
    rfl

end Envelope

end ToolGateway
