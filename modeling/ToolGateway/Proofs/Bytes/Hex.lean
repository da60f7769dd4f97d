import ToolGateway.Proofs.Bytes.Utf8
import ToolGateway.Bytes.Hex

/-!
Hexadecimal digits tell the octets they stand for.

- `decode_encode`: what `encode` writes is decoded to the octets it was written from.
- `encode_injective`: distinct octet strings have distinct digits, so equal hexadecimal digests are equal digests.
-/

namespace ToolGateway.Hex

open Utf8

/-- a digit is an octet of its own, and that octet has the value of the digit -/
theorem value?_digit {n : Nat} (h : n < 16) : ∃ b, encodeChar (digit n) = [b] ∧ value? b = some n := by
  have hall : ∀ n < 16, encodeChar (digit n) = [(digit n).toNat.toUInt8] ∧
      value? (digit n).toNat.toUInt8 = some n := by decide
  exact ⟨_, hall n h⟩

theorem octets_pair (b : UInt8) : ∃ high low, octets (pair b) = [high, low] ∧
    value? high = some (b.toNat / 16) ∧ value? low = some (b.toNat % 16) := by
  have hb := b.toNat_lt
  obtain ⟨high, hhigh, hhighv⟩ := value?_digit (show b.toNat / 16 < 16 by omega)
  obtain ⟨low, hlow, hlowv⟩ := value?_digit (show b.toNat % 16 < 16 by omega)
  refine ⟨high, low, ?_, hhighv, hlowv⟩
  simp [pair, hhigh, hlow]

theorem decodePairs_octets (bytes : Bytes) (offset : Nat) :
    decodePairs offset (octets (bytes.flatMap pair)) = .ok bytes := by
  induction bytes generalizing offset with
  | nil => rfl
  | cons b bytes ih =>
    obtain ⟨high, low, hpair, hhigh, hlow⟩ := octets_pair b
    rw [List.flatMap_cons, octets_append, hpair, List.cons_append, List.cons_append, List.nil_append, decodePairs]
    simp only [hhigh, hlow, ih, bind, Except.bind, pure, Except.pure]
    have hvalue : b.toNat / 16 * 16 + b.toNat % 16 = b.toNat := by omega
    rw [hvalue]
    simp [Nat.toUInt8]

theorem length_octets_pairs (bytes : Bytes) : (octets (bytes.flatMap pair)).length = 2 * bytes.length := by
  induction bytes with
  | nil => rfl
  | cons b bytes ih =>
    obtain ⟨high, low, hpair, -, -⟩ := octets_pair b
    rw [List.flatMap_cons, octets_append, hpair, List.length_append, ih, List.length_cons]
    simp only [List.length_cons, List.length_nil]
    omega

/-- **Decoding undoes encoding.** -/
theorem decode_encode (bytes : Bytes) : decode (encode bytes) = .ok bytes := by
  unfold decode encode
  simp only [encode_ofList]
  rw [length_octets_pairs, if_neg (by omega), decodePairs_octets]

/-- **Digits tell the octets.** -/
theorem encode_injective {a b : Bytes} (h : encode a = encode b) : a = b := by
  have ha := decode_encode a
  rw [h, decode_encode] at ha
  exact (Except.ok.inj ha).symm

end ToolGateway.Hex
