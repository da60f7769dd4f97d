import ToolGateway.Proofs.Envelope.Opening

/-!
What was sealed is opened.

Four codes lie over one another: the compact text of the document, the cipher with its tag, base 64 for three octet
strings, and the document of the payload. Opening undoes them from the outside in, and the signature that it computes is
the one that sealing has computed, of the same octets.

- `unwrap_wrap`: for documents of every type that are read back from their texts.
- `open_sealed`: for every JSON value that a text can stand for, with the lengths of what is sent.
-/

namespace ToolGateway.Envelope

open Json

variable {α : Type} {codec : Codec α} {nonce encryptionKey signingKey bytes : Bytes}

/-- the payload of a sealed document is read back -/
theorem read_wrap {a : α} (hseal : wrap codec nonce encryptionKey signingKey a = .ok bytes) :
    Payload.codec.read bytes = .ok (sealedPayload codec nonce encryptionKey signingKey a) := by
  obtain ⟨-, hbytes⟩ := wrap_eq_ok.1 hseal
  rw [hbytes]
  exact Payload.read_write _

/-- **Opening undoes sealing**, for a document that is read back from its text. -/
theorem unwrap_wrap {a b : α} (hback : codec.ReadsBack nestingLimit a b) (hnonce : nonce.length = nonceSize)
    (hseal : wrap codec nonce encryptionKey signingKey a = .ok bytes) :
    unwrap codec encryptionKey signingKey bytes = .ok b := by
  obtain ⟨hkeys, -⟩ := wrap_eq_ok.1 hseal
  obtain ⟨hkey, -⟩ := checkKeys_eq_ok.1 hkeys
  have hplain := Gcm.decrypt_encrypt hkey hnonce (Utf8.encode (codec.write a))
  rw [unwrap_signed codec hkeys (read_wrap hseal) hnonce (Gcm.encrypt_ne_nil hkey hnonce _)]
  simp only [decipher, hplain, Codec.read_write hback]

/-! ## Main result -/

/-- **A sealed value whose doubles are read back is opened**, under every pair of keys that can seal it and every nonce:
sealing succeeds, opening under the same keys gives back exactly this value, and the payload in between has a nonce of
twelve octets, a ciphertext sixteen octets longer than the compact text of the value, and a signature of thirty-two
octets. -/
theorem open_sealed {v : Json} (hv : v.Readable) (hdoubles : v.DoublesReread) (hdepth : v.depth ≤ 127)
    (hkey : encryptionKey.length = 32) (hsigning : signingKey ≠ []) (hnonce : nonce.length = 12) :
    ∃ bytes, wrap .free nonce encryptionKey signingKey v = .ok bytes ∧
      unwrap .free encryptionKey signingKey bytes = .ok v ∧
      ∃ ciphertext signature, Payload.codec.read bytes = .ok ⟨some nonce, some ciphertext, some signature⟩ ∧
        ciphertext.length = (Utf8.encode v.compact).length + 16 ∧ signature.length = 32 := by
  obtain ⟨bytes, hseal⟩ : ∃ bytes, wrap .free nonce encryptionKey signingKey v = .ok bytes :=
    ⟨_, wrap_eq_ok.2 ⟨checkKeys_eq_ok.2 ⟨hkey, hsigning⟩, rfl⟩⟩
  refine ⟨bytes, hseal, ?_, _, _, read_wrap hseal, ?_, ?_⟩
  · exact unwrap_wrap (Codec.free_readsBack hv hdoubles hdepth) hnonce hseal
  · exact Gcm.length_encrypt hkey hnonce (Utf8.encode v.compact)
  · exact Hmac.length_sign _ _

/-- an array in an object, sealed under keys of zeros -/
theorem open_sealed_array :
    let v : Json := .object [("a", .array [.number (.int 1), .null])]
    ∃ bytes, wrap .free (List.replicate 12 0) (List.replicate 32 0) [1] v = .ok bytes ∧
      unwrap .free (List.replicate 32 0) [1] bytes = .ok v := by
  intro v
  have hv : v.Readable := by
    rw [readable_object]
    refine ⟨List.pairwise_singleton _ _, fun m hm => ?_⟩
    rw [List.mem_singleton.1 hm, readable_array]
    intro j hj
    rcases List.mem_pair.1 hj with rfl | rfl
    · exact readable_number.2 (by decide)
    · simp [Readable, Everywhere]
  have hdoubles : v.DoublesReread := by simp [v, DoublesReread, Everywhere, EverywhereItems, EverywhereMembers]
  have hkey : (List.replicate 32 0 : Bytes).length = 32 := by decide
  have hsigning : ([1] : Bytes) ≠ [] := by decide
  have hnonce : (List.replicate 12 0 : Bytes).length = 12 := by decide
  obtain ⟨bytes, hseal, hopen, -⟩ := open_sealed hv hdoubles (by decide) hkey hsigning hnonce
  exact ⟨bytes, hseal, hopen⟩

end ToolGateway.Envelope
