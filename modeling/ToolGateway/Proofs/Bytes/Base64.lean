import ToolGateway.Proofs.Bytes.Utf8
import ToolGateway.Bytes.Base64

/-!
A text in base 64 tells the octets it stands for.

The written form is the letters of the six-bit values of the octets (`sextets`), filled up with padding. Reading takes
the two apart again at the first padding sign, since no letter is one.

- `decode_encode`: what `encode` writes is decoded to the octets it was written from, however many they are.
-/

namespace ToolGateway.Base64

open Utf8 hiding octets

/-- the six-bit values of an octet string; the last one has zeros for the bits that are missing -/
def sextets : Bytes → List Nat
  | [] => []
  | [a] => [a.toNat / 4, a.toNat % 4 * 16]
  | [a, b] => [a.toNat / 4, a.toNat % 4 * 16 + b.toNat / 16, b.toNat % 16 * 4]
  | a :: b :: c :: rest =>
    a.toNat / 4 :: (a.toNat % 4 * 16 + b.toNat / 16) :: (b.toNat % 16 * 4 + c.toNat / 64) :: c.toNat % 64 ::
      sextets rest

/-- how many padding signs fill up the last group -/
def padSize (bytes : Bytes) : Nat :=
  (3 - bytes.length % 3) % 3

/-- the written form is letters and padding -/
theorem letters_eq (bytes : Bytes) :
    letters bytes = (sextets bytes).map letter ++ List.replicate (padSize bytes) '=' := by
  induction bytes using letters.induct with
  | case1 => rfl
  | case2 a => rfl
  | case3 a b => rfl
  | case4 a b c rest ih =>
    have hpad : padSize (a :: b :: c :: rest) = padSize rest := by
      simp only [padSize, List.length_cons]
      omega
    rw [letters, ih, hpad]
    rfl

/-! ## Values -/

theorem sextets_lt (bytes : Bytes) : ∀ n ∈ sextets bytes, n < 64 := by
  induction bytes using letters.induct with
  | case1 => simp [sextets]
  | case2 a =>
    have ha := a.toNat_lt
    simp only [sextets, List.mem_cons, List.not_mem_nil, or_false, forall_eq_or_imp, forall_eq]
    omega
  | case3 a b =>
    have ha := a.toNat_lt
    have hb := b.toNat_lt
    simp only [sextets, List.mem_cons, List.not_mem_nil, or_false, forall_eq_or_imp, forall_eq]
    omega
  | case4 a b c rest ih =>
    have ha := a.toNat_lt
    have hb := b.toNat_lt
    have hc := c.toNat_lt
    simp only [sextets, List.mem_cons, forall_eq_or_imp]
    exact ⟨by omega, by omega, by omega, by omega, ih⟩

/-- with padding, every three octets and what is left of them make a group of four -/
theorem length_sextets (bytes : Bytes) : (sextets bytes).length + padSize bytes = 4 * ((bytes.length + 2) / 3) := by
  induction bytes using letters.induct with
  | case1 => rfl
  | case2 a => simp [sextets, padSize]
  | case3 a b => simp [sextets, padSize]
  | case4 a b c rest ih =>
    simp only [sextets, padSize, List.length_cons] at ih ⊢
    omega

/-- **Octets are found in their six-bit values**, and no bits are left over. -/
theorem octets_sextets (bytes : Bytes) : octets (sextets bytes) = (bytes, 0) := by
  induction bytes using letters.induct with
  | case1 => rfl
  | case2 a =>
    have ha := a.toNat_lt
    have hfirst : a.toNat / 4 * 4 + a.toNat % 4 * 16 / 16 = a.toNat := by omega
    have hspare : a.toNat % 4 * 16 % 16 = 0 := by omega
    rw [sextets, octets, hfirst, hspare, toUInt8_toNat]
  | case3 a b =>
    have ha := a.toNat_lt
    have hb := b.toNat_lt
    have hfirst : a.toNat / 4 * 4 + (a.toNat % 4 * 16 + b.toNat / 16) / 16 = a.toNat := by omega
    have hsecond : (a.toNat % 4 * 16 + b.toNat / 16) % 16 * 16 + b.toNat % 16 * 4 / 4 = b.toNat := by omega
    have hspare : b.toNat % 16 * 4 % 4 = 0 := by omega
    rw [sextets, octets, hfirst, hsecond, hspare, toUInt8_toNat, toUInt8_toNat]
  | case4 a b c rest ih =>
    have ha := a.toNat_lt
    have hb := b.toNat_lt
    have hc := c.toNat_lt
    have hfirst : a.toNat / 4 * 4 + (a.toNat % 4 * 16 + b.toNat / 16) / 16 = a.toNat := by omega
    have hsecond : (a.toNat % 4 * 16 + b.toNat / 16) % 16 * 16 + (b.toNat % 16 * 4 + c.toNat / 64) / 4 = b.toNat := by
      omega
    have hthird : (b.toNat % 16 * 4 + c.toNat / 64) % 4 * 64 + c.toNat % 64 = c.toNat := by omega
    rw [sextets, octets, ih, hfirst, hsecond, hthird, toUInt8_toNat, toUInt8_toNat, toUInt8_toNat]

/-! ## Letters -/

/-- the octet of a letter -/
def octet (n : Nat) : UInt8 :=
  (letter n).toNat.toUInt8

/-- a letter is an octet of its own, which has the value of the letter and is no padding -/
theorem letter_octet {n : Nat} (h : n < 64) :
    encodeChar (letter n) = [octet n] ∧ value? (octet n) = some n ∧ octet n ≠ pad := by
  have hall : ∀ n < 64, encodeChar (letter n) = [octet n] ∧ value? (octet n) = some n ∧ octet n ≠ pad := by decide
  exact hall n h

theorem octets_letters {ns : List Nat} (h : ∀ n ∈ ns, n < 64) : Utf8.octets (ns.map letter) = ns.map octet := by
  induction ns with
  | nil => rfl
  | cons n ns ih =>
    obtain ⟨hletter, -, -⟩ := letter_octet (h n List.mem_cons_self)
    rw [List.map_cons, octets_cons, hletter, ih fun m hm => h m (List.mem_cons_of_mem _ hm)]
    rfl

theorem values_octets {ns : List Nat} (h : ∀ n ∈ ns, n < 64) (offset : Nat) :
    values offset (ns.map octet) = .ok ns := by
  induction ns generalizing offset with
  | nil => rfl
  | cons n ns ih =>
    obtain ⟨-, hvalue, -⟩ := letter_octet (h n List.mem_cons_self)
    rw [List.map_cons, values, hvalue]
    simp only [ih fun m hm => h m (List.mem_cons_of_mem _ hm)]
    rfl

theorem octets_padding (n : Nat) : Utf8.octets (List.replicate n '=') = List.replicate n pad := by
  induction n with
  | zero => rfl
  | succ n ih =>
    rw [List.replicate_succ, octets_cons, ih, List.replicate_succ]
    rfl

/-! ## Main result -/

/-- **Decoding undoes encoding.** -/
theorem decode_encode (bytes : Bytes) : decode (encode bytes) = .ok bytes := by
  obtain ⟨data, hdata⟩ : ∃ data, data = (sextets bytes).map octet := ⟨_, rfl⟩
  have htext : Utf8.encode (encode bytes) = data ++ List.replicate (padSize bytes) pad := by
    rw [encode, encode_ofList, letters_eq, octets_append, octets_padding, hdata, octets_letters (sextets_lt bytes)]
  have hclean : ∀ b ∈ data, decide (b ≠ pad) = true := by
    intro b hb
    rw [hdata] at hb
    obtain ⟨n, hn, rfl⟩ := List.mem_map.1 hb
    exact decide_eq_true (letter_octet (sextets_lt bytes n hn)).2.2
  have htake : (data ++ List.replicate (padSize bytes) pad).takeWhile (· ≠ pad) = data := by
    rw [List.takeWhile_append_of_pos hclean]
    simp
  have hdrop :
      (data ++ List.replicate (padSize bytes) pad).dropWhile (· ≠ pad) = List.replicate (padSize bytes) pad := by
    rw [List.dropWhile_append_of_pos hclean]
    simp
  have hlength : data.length + padSize bytes = 4 * ((bytes.length + 2) / 3) := by
    rw [hdata, List.length_map]
    exact length_sextets bytes
  have hpad : padSize bytes ≤ 2 := by
    rw [padSize]
    omega
  have hvalues : values 0 data = .ok (sextets bytes) := by
    rw [hdata]
    exact values_octets (sextets_lt bytes) 0
  have hplaced : ¬ (List.replicate (padSize bytes) pad ≠ [] ∧ (data.length % 4 < 2 ∨
      4 < data.length % 4 + (List.replicate (padSize bytes) pad).length ∨
      (List.replicate (padSize bytes) pad).any (· ≠ pad))) := by
    rintro ⟨hne, hplace⟩
    have hpos : padSize bytes ≠ 0 := fun hzero => hne (by rw [hzero]; rfl)
    have hall : (List.replicate (padSize bytes) pad).any (· ≠ pad) = false := by simp
    rw [hall, List.length_replicate] at hplace
    simp only [Bool.false_eq_true, or_false] at hplace
    omega
  rw [decode, htext, decodeOctets, if_neg (by simp; omega)]
  simp only [htake, hdrop, hvalues, if_neg hplaced, octets_sextets]
  rw [if_neg (by simp; omega)]
  rfl

end ToolGateway.Base64
