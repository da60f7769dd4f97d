import ToolGateway.Proofs.Json.Cursor
import ToolGateway.Proofs.Bytes.Hex

/-!
Texts in quotes.

- `readString_quoted`: behind the opening quote of a quoted text, the text is read back, whatever comes behind it.
- `quotedChars_append_inj`: a quoted text ends by itself, and distinct texts are quoted differently.
-/

namespace ToolGateway.Cursor

open Utf8 Json

variable {c : Cursor} {char : Char} {more : List Char} {rest : Bytes}

/-! ## One character -/

/-- what is read at `c` is the character, then what is read at `past` -/
def ReadsOne (c : Cursor) (char : Char) (past : Cursor) : Prop :=
  ∀ fuel, readChars (fuel + 1) none c = (do
    let (chars, c) ← readChars fuel none past
    return (char :: chars, c))

/-- an escape takes the characters behind the backslash -/
theorem readsOne_escape {past : Cursor} (h : c.At ('\\' :: more) rest)
    (hread : c.step.readEscape = .ok (char, past)) : c.ReadsOne char past := by
  intro fuel
  have hc := h.head (show encodeChar '\\' = [0x5C] by decide)
  rw [readChars, hc]
  simp only
  rw [if_neg (by decide), if_pos trivial, hread]
  rfl

theorem readsOne_letter {letter : Char} {b : UInt8} (h : c.At ('\\' :: letter :: more) rest)
    (hb : encodeChar letter = [b]) (hne : b ≠ 0x75) (hletter : escapeLetter? b = some char) :
    ∃ past : Cursor, past.At more rest ∧ c.ReadsOne char past := by
  have hstep : c.step.At (letter :: more) rest := h.step (b := 0x5C) (by decide)
  refine ⟨c.step.step, hstep.step hb, readsOne_escape h ?_⟩
  rw [readEscape, hstep.peek hb]
  split
  · contradiction
  · rename_i heq
    exact absurd (Option.some.inj heq) hne
  · rename_i heq
    cases heq
    rw [hletter]

theorem readsOne_quad (h : c.At ('\\' :: 'u' :: '0' :: '0' :: Hex.digit (char.toNat / 16) ::
    Hex.digit (char.toNat % 16) :: more) rest) (hlow : char.toNat < 0x20) :
    ∃ past : Cursor, past.At more rest ∧ c.ReadsOne char past := by
  obtain ⟨high, hhigh, hhighv⟩ := Hex.value?_digit (show char.toNat / 16 < 16 by omega)
  obtain ⟨low, hlow', hlowv⟩ := Hex.value?_digit (show char.toNat % 16 < 16 by omega)
  have h1 := h.step (b := 0x5C) (by decide)
  have h2 := h1.step (b := 0x75) (by decide)
  have h3 := h2.step (b := 0x30) (by decide)
  have h4 := h3.step (b := 0x30) (by decide)
  have h5 := h4.step hhigh
  have h6 := h5.step hlow'
  refine ⟨_, h6, readsOne_escape h ?_⟩
  rw [readEscape, h1.peek (b := 0x75) (by decide)]
  simp only [readUnicodeEscape, readHexQuad]
  have hrest : c.step.step.rest = 0x30 :: 0x30 :: high :: low :: (octets more ++ rest) := by
    rw [h2.head (b := 0x30) (by decide)]
    simp [hhigh, hlow', show encodeChar '0' = [0x30] by decide]
  have hzero : Hex.value? 0x30 = some 0 := by decide
  rw [hrest]
  simp only [hzero, hhighv, hlowv, bind, Except.bind, pure, Except.pure, steps]
  rw [if_neg (by omega), if_pos (by omega)]
  have hvalue : 0 * 4096 + 0 * 256 + char.toNat / 16 * 16 + char.toNat % 16 = char.toNat := by omega
  rw [hvalue, Char.ofNat_toNat]

theorem readsOne_plain (h : c.At (char :: more) rest) (hquote : char ≠ '"') (hback : char ≠ '\\')
    (hhigh : 0x20 ≤ char.toNat) : ∃ past : Cursor, past.At more rest ∧ c.ReadsOne char past := by
  refine ⟨⟨octets more ++ rest, c.line, c.column + char.utf8Size⟩, rfl, fun fuel => ?_⟩
  have hc : c.rest = encodeChar char ++ (octets more ++ rest) := by
    rw [h, octets_cons, List.append_assoc]
  have hnext := next?_encodeChar char (octets more ++ rest)
  rw [readChars, hc, hnext]
  obtain ⟨b, tail, hb, hvalue⟩ := encodeChar_head char
  rw [hb]
  have h22 : b ≠ 0x22 := by
    rintro rfl
    rcases hvalue with hv | hv
    · exact hquote (Char.toNat_inj.1 hv.symm)
    · exact absurd hv (by decide)
  have h5c : b ≠ 0x5C := by
    rintro rfl
    rcases hvalue with hv | hv
    · exact hback (Char.toNat_inj.1 hv.symm)
    · exact absurd hv (by decide)
  simp only [List.cons_append]
  rw [if_neg h22, if_neg h5c, if_neg (by omega)]

/-- **A character is read back from its escaped form.** -/
theorem readsOne_escapeChar (h : c.At (escapeChar char ++ more) rest) :
    ∃ past : Cursor, past.At more rest ∧ c.ReadsOne char past := by
  unfold escapeChar at h
  split_ifs at h with h1 h2 h3 h4 h5 h6 h7 h8
  · exact readsOne_letter (b := 0x22) h (by decide) (by decide) (h1 ▸ rfl)
  · exact readsOne_letter (b := 0x5C) h (by decide) (by decide) (h2 ▸ rfl)
  · exact readsOne_letter (b := 0x62) h (by decide) (by decide) (h3 ▸ rfl)
  · exact readsOne_letter (b := 0x66) h (by decide) (by decide) (h4 ▸ rfl)
  · exact readsOne_letter (b := 0x6E) h (by decide) (by decide) (h5 ▸ rfl)
  · exact readsOne_letter (b := 0x72) h (by decide) (by decide) (h6 ▸ rfl)
  · exact readsOne_letter (b := 0x74) h (by decide) (by decide) (h7 ▸ rfl)
  · exact readsOne_quad h h8
  · exact readsOne_plain h h1 h2 (by omega)

/-! ## Texts -/

theorem readChars_escaped {chars : List Char} (h : c.At (chars.flatMap escapeChar ++ ['"']) rest) {fuel : Nat}
    (hfuel : chars.length < fuel) :
    ∃ past : Cursor, past.rest = rest ∧ readChars fuel none c = .ok (chars, past) := by
  induction chars generalizing c fuel with
  | nil =>
    obtain ⟨fuel, rfl⟩ := Nat.exists_eq_add_of_lt hfuel
    have hquote : encodeChar '"' = [0x22] := by decide
    refine ⟨c.step, h.step hquote, ?_⟩
    rw [List.length_nil, Nat.zero_add, readChars, h.head hquote]
    rfl
  | cons char chars ih =>
    obtain ⟨fuel, rfl⟩ : ∃ n, fuel = n + 1 := ⟨fuel - 1, by omega⟩
    rw [List.flatMap_cons, List.append_assoc] at h
    obtain ⟨next, hnext, hone⟩ := readsOne_escapeChar h
    obtain ⟨past, hpast, hread⟩ := ih hnext (by simpa using hfuel)
    refine ⟨past, hpast, ?_⟩
    rw [hone, hread]
    rfl

theorem length_le_octets (cs : List Char) : cs.length ≤ (octets cs).length := by
  induction cs with
  | nil => simp
  | cons c cs ih =>
    have := List.length_pos_iff.2 (encodeChar_ne_nil c)
    simp only [octets_cons, List.length_append, List.length_cons]
    omega

theorem length_le_escaped (cs : List Char) : cs.length ≤ (cs.flatMap escapeChar).length := by
  induction cs with
  | nil => simp
  | cons c cs ih =>
    have hpos : 0 < (escapeChar c).length := by
      unfold escapeChar
      split_ifs <;> simp
    simp only [List.flatMap_cons, List.length_append, List.length_cons]
    omega

/-- **A quoted text is read back.** -/
theorem readString_quoted {text : String} (h : c.At (quotedChars text) rest) :
    ∃ past : Cursor, past.rest = rest ∧ c.step.readString = .ok (text, past) := by
  have hstep : c.step.At (text.toList.flatMap escapeChar ++ ['"']) rest := h.step (b := 0x22) (by decide)
  have hfuel : text.toList.length < c.step.rest.length + 1 := by
    have h1 := length_le_escaped text.toList
    have h2 := length_le_octets (text.toList.flatMap escapeChar ++ ['"'])
    rw [hstep]
    simp only [List.length_append] at *
    omega
  obtain ⟨past, hpast, hread⟩ := readChars_escaped hstep hfuel
  refine ⟨past, hpast, ?_⟩
  rw [readString, hread]
  simp [bind, Except.bind, pure, Except.pure]

end ToolGateway.Cursor

namespace ToolGateway.Json

open Utf8

/-- a name in quotes and a text -/
def memberText (m : String × List Char) : List Char :=
  quotedChars m.1 ++ ':' :: m.2

/-- **A quoted text ends by itself**, and distinct texts are quoted differently. -/
theorem quotedChars_append_inj {s t : String} {r r' : List Char} (h : quotedChars s ++ r = quotedChars t ++ r') :
    s = t ∧ r = r' := by
  have hs : (Cursor.start (octets (quotedChars s ++ r))).At (quotedChars s) (octets r) := by
    simp [Cursor.At, Cursor.start]
  have ht : (Cursor.start (octets (quotedChars s ++ r))).At (quotedChars t) (octets r') := by
    simp [Cursor.At, Cursor.start, h]
  obtain ⟨p, hp, hps⟩ := Cursor.readString_quoted hs
  obtain ⟨q, hq, hqt⟩ := Cursor.readString_quoted ht
  rw [hps] at hqt
  obtain ⟨rfl, rfl⟩ := Prod.mk.inj (Except.ok.inj hqt)
  exact ⟨rfl, octets_injective (hp.symm.trans hq)⟩

end ToolGateway.Json
