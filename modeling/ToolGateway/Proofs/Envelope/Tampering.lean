import ToolGateway.Proofs.Envelope.RoundTrip

/-!
Edited payloads.

Someone edits the payload of a sealed document in any way: fields are dropped, emptied, cut, extended, exchanged, or
octets are moved from one to another. The signing key stays the same, the encryption key need not.

- `not_refused_iff`: what gets past the signature is exactly what has the right signature for its own nonce and
  ciphertext, and a nonce of its size.
- `unwrap_spliced`: so these two cannot be cut elsewhere in the same octets.
- `unwrap_forged`: an edit of the signature alone is always found out.
- `unwrap_edited`: an edit of nonce or ciphertext under the old signature is found out, or else it is a collision.
- `unwrap_tampered`: the three together.
-/

namespace ToolGateway.Envelope

variable {α β : Type}

/-- refused for the structure of the payload or for its signature, before anything is deciphered -/
def IsRefused (answer : Except Fault α) : Prop :=
  (∃ detail, answer = .error (.invalidInput detail)) ∨ answer = .error .authenticationFailed

/-- what is deciphered is not refused -/
theorem decipher_not_refused (codec : Codec α) (encryptionKey : Bytes) (q : Parts) :
    ¬ IsRefused (decipher codec encryptionKey q) := by
  intro h
  rcases decipher_cases codec encryptionKey q with ⟨a, hd⟩ | hd | ⟨why, hd⟩
  all_goals
    rw [hd] at h
    rcases h with ⟨detail, h⟩ | h <;> cases h

/-- **What gets past the signature**: exactly the payloads whose parts are all there, with a nonce of its size and the
right signature. -/
theorem not_refused_iff (codec : Codec α) {encryptionKey signingKey bytes : Bytes} {p : Payload}
    (hkeys : checkKeys encryptionKey signingKey = .ok ()) (hread : Payload.codec.read bytes = .ok p) :
    ¬ IsRefused (unwrap codec encryptionKey signingKey bytes) ↔
      ∃ nonce ciphertext, p = ⟨some nonce, some ciphertext, some (signature signingKey nonce ciphertext)⟩ ∧
        nonce.length = nonceSize ∧ ciphertext ≠ [] := by
  constructor
  · intro h
    rcases unwrap_cases codec hkeys hread with ⟨detail, -, hanswer⟩ | ⟨q, hparts, ⟨-, hanswer⟩ | ⟨hsignature, -⟩⟩
    · exact absurd (.inl ⟨_, hanswer⟩) h
    · exact absurd (.inr hanswer) h
    · obtain ⟨hp, hsize, hpresent, -⟩ := parts_eq_ok.1 hparts
      refine ⟨q.nonce, q.ciphertext, ?_, hsize, hpresent⟩
      rw [hp, hsignature]
  · rintro ⟨nonce, ciphertext, rfl, hsize, hpresent⟩
    rw [unwrap_signed codec hkeys hread hsize hpresent]
    exact decipher_not_refused codec encryptionKey _

/-! ## Edits of one payload -/

section Edited

variable {codec : Codec α} {encryptionKey signingKey bytes n c s : Bytes} {p : Payload}

/-- **Nothing is cut elsewhere**: an accepted payload that has the same octets in nonce and ciphertext is the same. -/
theorem unwrap_spliced (hn : n.length = nonceSize) (hs : s = Hmac.sign signingKey (n ++ c))
    (hkeys : checkKeys encryptionKey signingKey = .ok ()) (hread : Payload.codec.read bytes = .ok p)
    (h : ¬ IsRefused (unwrap codec encryptionKey signingKey bytes)) :
    ∃ n' c', p = ⟨some n', some c', some (Hmac.sign signingKey (n' ++ c'))⟩ ∧ n'.length = nonceSize ∧
      (n' ++ c' = n ++ c → p = ⟨some n, some c, some s⟩) := by
  obtain ⟨n', c', rfl, hn', -⟩ := (not_refused_iff codec hkeys hread).1 h
  refine ⟨n', c', rfl, hn', fun hsame => ?_⟩
  -- both nonces have the same length, so the octets are cut at the same place
  obtain ⟨rfl, rfl⟩ := List.append_inj hsame (hn'.trans hn.symm)
  rw [hs]
  rfl

/-- **A forged signature is found out**, whatever its length; a missing or empty one is a fault of the structure. -/
theorem unwrap_forged (hn : n.length = nonceSize) (hc : c ≠ []) (hs : s = Hmac.sign signingKey (n ++ c))
    (hkeys : checkKeys encryptionKey signingKey = .ok ()) {s' : Option Bytes}
    (hread : Payload.codec.read bytes = .ok ⟨some n, some c, s'⟩) (hne : s' ≠ some s) :
    if s' = none ∨ s' = some [] then
      ∃ detail, unwrap codec encryptionKey signingKey bytes = .error (.invalidInput detail)
    else unwrap codec encryptionKey signingKey bytes = .error .authenticationFailed := by
  rcases unwrap_cases codec hkeys hread with ⟨detail, hparts, hanswer⟩ | ⟨q, hparts, hverdict⟩
  · -- nonce and ciphertext are there, so it is the signature that is not
    have hmissing : s' = none ∨ s' = some [] := by
      match s' with
      | none => exact .inl rfl
      | some [] => exact .inr rfl
      | some (b :: rest) =>
        have hthere := (parts_eq_ok (q := ⟨n, c, b :: rest⟩)).2 ⟨rfl, hn, hc, List.cons_ne_nil _ _⟩
        rw [hthere] at hparts
        cases hparts
    rw [if_pos hmissing]
    exact ⟨_, hanswer⟩
  · obtain ⟨hp, -, -, hpresent⟩ := parts_eq_ok.1 hparts
    simp only [Payload.mk.injEq, Option.some.injEq] at hp
    obtain ⟨rfl, rfl, rfl⟩ := hp
    rcases hverdict with ⟨-, hanswer⟩ | ⟨hsignature, -⟩
    · rw [if_neg (by simpa using hpresent)]
      exact hanswer
    · refine absurd ?_ hne
      rw [hs, ← hsignature]
      rfl

/-- **Another nonce or ciphertext under the same signature is found out**, or the key does not tell the two apart. -/
theorem unwrap_edited (hn : n.length = nonceSize) (hs : s = Hmac.sign signingKey (n ++ c))
    (hkeys : checkKeys encryptionKey signingKey = .ok ()) (hread : Payload.codec.read bytes = .ok p)
    (hne : p ≠ ⟨some n, some c, some s⟩) (hsame : p.signature = some s) :
    IsRefused (unwrap codec encryptionKey signingKey bytes) ∨
      ∃ n' c', p = ⟨some n', some c', some s⟩ ∧ Hmac.Collide signingKey (n ++ c) (n' ++ c') := by
  by_cases h : IsRefused (unwrap codec encryptionKey signingKey bytes)
  · exact .inl h
  · obtain ⟨n', c', hp, -, hcut⟩ := unwrap_spliced hn hs hkeys hread h
    have hsign : Hmac.sign signingKey (n' ++ c') = s := by
      rw [hp] at hsame
      exact Option.some.inj hsame
    refine .inr ⟨n', c', ?_, fun heq => hne (hcut heq.symm), ?_⟩
    · rw [hp, hsign]
    · rw [← hs, hsign]

end Edited

/-- what sealing gives: a nonce of its size, a ciphertext, and their signature -/
theorem sealed_parts {codec : Codec α} {nonce encryptionKey signingKey bytes : Bytes} {a : α} {n c s : Bytes}
    (hnonce : nonce.length = nonceSize) (hseal : wrap codec nonce encryptionKey signingKey a = .ok bytes)
    (hread : Payload.codec.read bytes = .ok ⟨some n, some c, some s⟩) :
    signingKey ≠ [] ∧ n.length = nonceSize ∧ c ≠ [] ∧ s = Hmac.sign signingKey (n ++ c) := by
  obtain ⟨hkeys, -⟩ := wrap_eq_ok.1 hseal
  obtain ⟨hkey, hsigning⟩ := checkKeys_eq_ok.1 hkeys
  rw [read_wrap hseal] at hread
  simp only [Except.ok.injEq, sealedPayload, Payload.mk.injEq, Option.some.injEq] at hread
  obtain ⟨rfl, rfl, rfl⟩ := hread
  exact ⟨hsigning, hnonce, Gcm.encrypt_ne_nil hkey hnonce _, rfl⟩

/-! ## Main result -/

/-- **No edit of a sealed payload goes unnoticed.** Take any payload that was sealed under a signing key, and any
payload at all, opened under the same signing key and any encryption key of the right size.

- If it differs in nonce or ciphertext and has the same signature, it is refused, or the signing key does not tell two
  distinct octet strings apart.
- If it differs in the signature only, it is refused: for its structure if the signature is missing or empty, else for
  the signature.
- Whatever is not refused has the signature of its own nonce and ciphertext, and a nonce of twelve octets: if it has the
  same octets in both together, it is the sealed payload itself. -/
theorem unwrap_tampered (codec : Codec α) (codec' : Codec β) {nonce encryptionKey encryptionKey' signingKey : Bytes}
    {a : α} {bytes bytes' n c s : Bytes} {p : Payload} (hnonce : nonce.length = 12)
    (hseal : wrap codec nonce encryptionKey signingKey a = .ok bytes)
    (hread : Payload.codec.read bytes = .ok ⟨some n, some c, some s⟩) (hkey : encryptionKey'.length = 32)
    (hread' : Payload.codec.read bytes' = .ok p) :
    let answer := unwrap codec' encryptionKey' signingKey bytes'
    (p ≠ ⟨some n, some c, some s⟩ → p.signature = some s →
      IsRefused answer ∨ ∃ n' c', p = ⟨some n', some c', some s⟩ ∧ Hmac.Collide signingKey (n ++ c) (n' ++ c')) ∧
    (∀ s', s' ≠ some s → p = ⟨some n, some c, s'⟩ →
      if s' = none ∨ s' = some [] then ∃ detail, answer = .error (.invalidInput detail)
      else answer = .error .authenticationFailed) ∧
    (¬ IsRefused answer →
      ∃ n' c', p = ⟨some n', some c', some (Hmac.sign signingKey (n' ++ c'))⟩ ∧ n'.length = 12 ∧
        (n' ++ c' = n ++ c → p = ⟨some n, some c, some s⟩)) := by
  intro answer
  obtain ⟨hsigning, hn, hc, hs⟩ := sealed_parts hnonce hseal hread
  have hkeys : checkKeys encryptionKey' signingKey = .ok () := checkKeys_eq_ok.2 ⟨hkey, hsigning⟩
  refine ⟨unwrap_edited hn hs hkeys hread', ?_, unwrap_spliced hn hs hkeys hread'⟩
  rintro s' hne rfl
  exact unwrap_forged hn hc hs hkeys hread' hne

/-- a sealed `null` whose signature is cut to one octet -/
theorem unwrap_tampered_cut :
    let key : Bytes := List.replicate 32 0
    let nonce : Bytes := List.replicate 12 0
    let p := sealedPayload .free nonce key [1] .null
    let cut : Payload := { p with signature := some [0] }
    unwrap .free key [1] (Utf8.encode (Payload.codec.write cut)) = .error .authenticationFailed := by
  intro key nonce p cut
  have hseal : wrap .free nonce key [1] .null = .ok (Utf8.encode (Payload.codec.write p)) :=
    wrap_eq_ok.2 ⟨by decide, rfl⟩
  have hother : some [0] ≠ p.signature := by
    intro heq
    have hlength : ([0] : Bytes).length = 32 := by
      rw [Option.some.inj heq]
      exact Hmac.length_sign _ _
    cases hlength
  have hkey : key.length = 32 := by decide
  have hnonce : nonce.length = 12 := by decide
  have hall := unwrap_tampered .free .free hnonce hseal (read_wrap hseal) hkey (Payload.read_write cut)
  exact hall.2.1 (some [0]) hother rfl

end ToolGateway.Envelope
