import Mathlib.Tactic
import ToolGateway.Bytes

/-!
The UTF-8 form of texts as a code.

- `next?_encodeChar`: the octets of a character, whatever follows them, are read back as that character.
- `encode_injective`, `decode?_encode`: a text is known from its octets.
- `encode_lt_encode`: the order of octet strings is the order of texts, so keys in octets stand in the order of names.
-/

namespace ToolGateway.Utf8

/-- the octets of some characters -/
def octets (cs : List Char) : Bytes :=
  cs.flatMap encodeChar

theorem encode_eq_octets (s : String) : encode s = octets s.toList := rfl

@[simp] theorem octets_nil : octets [] = [] := rfl

@[simp] theorem octets_cons (c : Char) (cs : List Char) : octets (c :: cs) = encodeChar c ++ octets cs := rfl

@[simp] theorem octets_append (a b : List Char) : octets (a ++ b) = octets a ++ octets b := by
  simp [octets]

@[simp] theorem encode_ofList (cs : List Char) : encode (String.ofList cs) = octets cs := by
  simp [encode_eq_octets]

/-- a character of ASCII is its own octet -/
theorem encodeChar_ascii {c : Char} (h : c.toNat < 0x80) : encodeChar c = [c.toNat.toUInt8] := by
  simp [encodeChar, h]

theorem toNat_toUInt8 {n : Nat} (h : n < 256) : n.toUInt8.toNat = n := by
  simp only [Nat.toUInt8, UInt8.toNat_ofNat']
  omega

theorem toUInt8_toNat (b : UInt8) : b.toNat.toUInt8 = b := by
  simp [Nat.toUInt8]

theorem scalar?_toNat (c : Char) {low high : Nat} (hl : low ≤ c.toNat) (hh : c.toNat ≤ high) :
    scalar? low high c.toNat = some c := by
  have hv : c.toNat.isValidChar := c.valid
  rw [scalar?, if_pos ⟨hl, hh⟩, dif_pos hv]
  rfl

theorem isTail_toUInt8 {n : Nat} (h : n < 64) : isTail (0x80 + n).toUInt8 = true := by
  simp only [isTail, toNat_toUInt8 (show 0x80 + n < 256 by omega), Bool.and_eq_true, decide_eq_true_eq]
  omega

theorem toNat_lt_max (c : Char) : c.toNat < 0x110000 := by
  have := c.valid
  simp only [UInt32.isValidChar, Nat.isValidChar] at this
  simp only [Char.toNat]
  omega

/-- **Reading a character undoes writing it**, whatever follows. -/
theorem next?_encodeChar (c : Char) (rest : Bytes) : next? (encodeChar c ++ rest) = some (c, rest) := by
  have hmax := toNat_lt_max c
  unfold encodeChar
  simp only
  split_ifs with h1 h2 h3
  · have hn : c.toNat.toUInt8.toNat = c.toNat := toNat_toUInt8 (by omega)
    simp [next?, hn, h1, scalar?_toNat c (show 0 ≤ c.toNat by omega) (show c.toNat ≤ 0x7F by omega)]
  · have ha : (0xC0 + c.toNat / 64).toUInt8.toNat = 0xC0 + c.toNat / 64 := toNat_toUInt8 (by omega)
    have hb : (0x80 + c.toNat % 64).toUInt8.toNat = 0x80 + c.toNat % 64 := toNat_toUInt8 (by omega)
    simp only [next?, List.cons_append, List.nil_append, ha, hb, isTail_toUInt8 (Nat.mod_lt _ (by decide)), if_true]
    rw [if_neg (by omega), if_neg (by omega), if_pos (by omega),
      show (0xC0 + c.toNat / 64 - 0xC0) * 64 + (0x80 + c.toNat % 64 - 0x80) = c.toNat by omega,
      scalar?_toNat c (by omega) (by omega)]
    rfl
  · have ha : (0xE0 + c.toNat / 4096).toUInt8.toNat = 0xE0 + c.toNat / 4096 := toNat_toUInt8 (by omega)
    have hb : (0x80 + c.toNat / 64 % 64).toUInt8.toNat = 0x80 + c.toNat / 64 % 64 := toNat_toUInt8 (by omega)
    have hc : (0x80 + c.toNat % 64).toUInt8.toNat = 0x80 + c.toNat % 64 := toNat_toUInt8 (by omega)
    simp only [next?, List.cons_append, List.nil_append, ha, hb, hc, isTail_toUInt8 (Nat.mod_lt _ (by decide)),
      Bool.and_self, if_true]
    rw [if_neg (by omega), if_neg (by omega), if_neg (by omega), if_pos (by omega),
      show (0xE0 + c.toNat / 4096 - 0xE0) * 4096 + (0x80 + c.toNat / 64 % 64 - 0x80) * 64 +
        (0x80 + c.toNat % 64 - 0x80) = c.toNat by omega,
      scalar?_toNat c (by omega) (by omega)]
    rfl
  · have ha : (0xF0 + c.toNat / 262144).toUInt8.toNat = 0xF0 + c.toNat / 262144 := toNat_toUInt8 (by omega)
    have hb : (0x80 + c.toNat / 4096 % 64).toUInt8.toNat = 0x80 + c.toNat / 4096 % 64 := toNat_toUInt8 (by omega)
    have hc : (0x80 + c.toNat / 64 % 64).toUInt8.toNat = 0x80 + c.toNat / 64 % 64 := toNat_toUInt8 (by omega)
    have hd : (0x80 + c.toNat % 64).toUInt8.toNat = 0x80 + c.toNat % 64 := toNat_toUInt8 (by omega)
    simp only [next?, List.cons_append, List.nil_append, ha, hb, hc, hd, isTail_toUInt8 (Nat.mod_lt _ (by decide)),
      Bool.and_self, if_true]
    rw [if_neg (by omega), if_neg (by omega), if_neg (by omega), if_neg (by omega), if_pos (by omega),
      show (0xF0 + c.toNat / 262144 - 0xF0) * 262144 + (0x80 + c.toNat / 4096 % 64 - 0x80) * 4096 +
        (0x80 + c.toNat / 64 % 64 - 0x80) * 64 + (0x80 + c.toNat % 64 - 0x80) = c.toNat by omega,
      scalar?_toNat c (by omega) (by omega)]
    rfl

/-- the first octet of a character is the character itself in ASCII, and no octet of ASCII otherwise -/
theorem encodeChar_head (c : Char) :
    ∃ b tail, encodeChar c = b :: tail ∧ (b.toNat = c.toNat ∨ 0x80 ≤ b.toNat) := by
  have hmax := toNat_lt_max c
  unfold encodeChar
  simp only
  split_ifs with h1 h2 h3
  · exact ⟨_, _, rfl, .inl (toNat_toUInt8 (by omega))⟩
  · exact ⟨_, _, rfl, .inr (by rw [toNat_toUInt8 (by omega)]; omega)⟩
  · exact ⟨_, _, rfl, .inr (by rw [toNat_toUInt8 (by omega)]; omega)⟩
  · exact ⟨_, _, rfl, .inr (by rw [toNat_toUInt8 (by omega)]; omega)⟩

theorem encodeChar_ne_nil (c : Char) : encodeChar c ≠ [] := by
  intro h
  have := next?_encodeChar c []
  simp [h, next?] at this

theorem length_encodeChar (c : Char) : (encodeChar c).length = c.utf8Size := by
  have h1 : c.val ≤ 0x7F ↔ c.toNat < 0x80 := by
    rw [UInt32.le_iff_toNat_le]
    exact Nat.lt_succ_iff.symm
  have h2 : c.val ≤ 0x7FF ↔ c.toNat < 0x800 := by
    rw [UInt32.le_iff_toNat_le]
    exact Nat.lt_succ_iff.symm
  have h3 : c.val ≤ 0xFFFF ↔ c.toNat < 0x10000 := by
    rw [UInt32.le_iff_toNat_le]
    exact Nat.lt_succ_iff.symm
  unfold encodeChar Char.utf8Size
  simp only [UInt32.reduceOfNatLT, h1, h2, h3]
  split_ifs <;> rfl

/-! ## Texts -/

/-- the size of a text is the number of its octets -/
theorem length_encode (s : String) : (encode s).length = s.utf8ByteSize := by
  have hlist : ∀ cs : List Char, (octets cs).length = (String.ofList cs).utf8ByteSize := by
    intro cs
    induction cs with
    | nil => rfl
    | cons c cs ih =>
      have hsplit : String.ofList (c :: cs) = String.singleton c ++ String.ofList cs := by
        apply String.toList_inj.1
        simp
      rw [octets_cons, List.length_append, length_encodeChar, ih, hsplit, String.utf8ByteSize_append,
        String.utf8ByteSize_singleton]
  rw [encode_eq_octets, hlist, String.ofList_toList]

/-- the octets of a text begin with those of its first character -/
theorem next?_octets_cons (c : Char) (cs : List Char) :
    ∃ a tail, octets (c :: cs) = a :: tail ∧ next? (a :: tail) = some (c, octets cs) := by
  obtain ⟨a, tail, hb⟩ := List.exists_cons_of_ne_nil (encodeChar_ne_nil c)
  refine ⟨a, tail ++ octets cs, by rw [octets_cons, hb, List.cons_append], ?_⟩
  rw [← List.cons_append, ← hb]
  exact next?_encodeChar c (octets cs)

theorem decodeChars?_octets (cs : List Char) : decodeChars? (octets cs) = some cs := by
  induction cs with
  | nil => simp [decodeChars?]
  | cons c cs ih =>
    obtain ⟨a, tail, hb, hn⟩ := next?_octets_cons c cs
    rw [hb, decodeChars?]
    split
    · rename_i h; rw [hn] at h; exact absurd h (by simp)
    · rename_i d rest h
      rw [hn] at h
      cases h
      simp [ih]

theorem decodeCharsLossy_octets (cs : List Char) : decodeCharsLossy (octets cs) = cs := by
  induction cs with
  | nil => simp [decodeCharsLossy]
  | cons c cs ih =>
    obtain ⟨a, tail, hb, hn⟩ := next?_octets_cons c cs
    rw [hb, decodeCharsLossy]
    split
    · rename_i h; rw [hn] at h; exact absurd h (by simp)
    · rename_i d rest h
      rw [hn] at h
      cases h
      simp [ih]

theorem octets_injective {a b : List Char} (h : octets a = octets b) : a = b := by
  have := congrArg decodeChars? h
  simpa [decodeChars?_octets] using this

/-- a text is read back from its octets -/
theorem decode?_encode (s : String) : decode? (encode s) = some s := by
  simp [decode?, encode_eq_octets, decodeChars?_octets]

/-- nothing is lost of octets that are those of a text -/
theorem decodeLossy_encode (s : String) : decodeLossy (encode s) = s := by
  simp [decodeLossy, encode_eq_octets, decodeCharsLossy_octets]

theorem encode_injective {a b : String} (h : encode a = encode b) : a = b :=
  String.toList_inj.1 (octets_injective h)

/-! ## The order of octets -/

theorem toUInt8_lt_toUInt8 {m n : Nat} (hm : m < 256) (hn : n < 256) : m.toUInt8 < n.toUInt8 ↔ m < n := by
  rw [UInt8.lt_iff_toNat_lt, toNat_toUInt8 hm, toNat_toUInt8 hn]

theorem toUInt8_inj {m n : Nat} (hm : m < 256) (hn : n < 256) : m.toUInt8 = n.toUInt8 ↔ m = n := by
  rw [← UInt8.toNat_inj, toNat_toUInt8 hm, toNat_toUInt8 hn]

/-- of two characters the one with the smaller code point has the smaller octets, whatever follows them -/
theorem encodeChar_lt {c d : Char} (h : c.toNat < d.toNat) (x y : Bytes) :
    encodeChar c ++ x < encodeChar d ++ y := by
  have hd := toNat_lt_max d
  unfold encodeChar
  simp only
  -- the octets in front tell how long a character is; among characters of one length the digits to base 64 decide
  split_ifs <;> simp (disch := omega) only [List.cons_append, List.nil_append, List.cons_lt_cons_iff,
    toUInt8_lt_toUInt8, toUInt8_inj]
  all_goals omega

theorem octets_lt_octets {a b : List Char} (h : a < b) : octets a < octets b := by
  induction a generalizing b with
  | nil =>
    cases b with
    | nil => exact absurd h (List.not_lt_nil _)
    | cons d b =>
      cases hd : encodeChar d with
      | nil => exact absurd hd (encodeChar_ne_nil d)
      | cons _ _ => simp [hd]
  | cons c a ih =>
    cases b with
    | nil => exact absurd h (List.not_lt_nil _)
    | cons d b =>
      rcases List.cons_lt_cons_iff.1 h with hc | ⟨rfl, hab⟩
      · exact encodeChar_lt (UInt32.lt_iff_toNat_lt.1 hc) _ _
      · exact List.append_left_lt (ih hab)

/-- **Octets stand in the order of texts.** -/
theorem encode_lt_encode {a b : String} : encode a < encode b ↔ a < b := by
  refine ⟨fun h => ?_, octets_lt_octets⟩
  rcases Std.lt_trichotomy a b with hab | rfl | hba
  · exact hab
  · exact absurd h Std.lt_irrefl
  · exact absurd (Std.lt_trans h (octets_lt_octets hba)) Std.lt_irrefl

end ToolGateway.Utf8
