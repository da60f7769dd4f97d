import ToolGateway.Proofs.Bytes.Utf8
import ToolGateway.Json.Reader

/-!
Where a cursor stands.

`c.At text rest` says that the octets left at `c` are those of the characters `text` and then `rest`. The lemmas say how
the readers of signs, words and runs of digits move a cursor past the text in front of it; lines and columns, which only
faults show, are left open.
-/

namespace ToolGateway.Cursor

open Utf8

/-- what is left at the cursor is `text`, then `rest` -/
def At (c : Cursor) (text : List Char) (rest : Bytes) : Prop :=
  c.rest = octets text ++ rest

variable {c : Cursor} {char : Char} {text more : List Char} {rest : Bytes} {b : UInt8}

theorem at_append : c.At (text ++ more) rest ↔ c.At text (octets more ++ rest) := by
  simp [At]

theorem at_start (text : List Char) : (start (octets text)).At text [] := by
  simp [At, start]

theorem At.head (h : c.At (char :: text) rest) (hb : encodeChar char = [b]) : c.rest = b :: (octets text ++ rest) := by
  rw [h, octets_cons, hb]
  rfl

theorem At.peek (h : c.At (char :: text) rest) (hb : encodeChar char = [b]) : c.peek? = some b := by
  rw [peek?, h.head hb]
  rfl

theorem At.step (h : c.At (char :: text) rest) (hb : encodeChar char = [b]) : c.step.At text rest := by
  have hc := h.head hb
  unfold Cursor.step
  rw [hc]
  simp only [At]
  split_ifs <;> rfl

/-- blanks in JSON -/
def isBlank (b : UInt8) : Bool :=
  b = 0x0A || b = 0x20 || b = 0x09 || b = 0x0D

theorem skipBlanks_self (h : c.peek? = some b) (hb : isBlank b = false) : c.skipBlanks = c := by
  obtain ⟨octets, line, column⟩ := c
  cases octets with
  | nil => simp [peek?] at h
  | cons a octets =>
    obtain rfl : a = b := by simpa [peek?] using h
    simp only [isBlank, Bool.or_eq_false_iff, decide_eq_false_iff_not] at hb
    obtain ⟨⟨⟨h1, h2⟩, h3⟩, h4⟩ := hb
    simp [skipBlanks, pastBlanks, h1, h2, h3, h4]

theorem pastBlanks_peek {line column : Nat} {bytes : Bytes} (h : (pastBlanks line column bytes).peek? = some b) :
    isBlank b = false := by
  induction bytes generalizing line column with
  | nil => cases h
  | cons a bytes ih =>
    rw [pastBlanks] at h
    split_ifs at h with hfeed hblank
    · exact ih h
    · exact ih h
    · cases h
      simp only [not_or] at hblank
      simp [isBlank, hfeed, hblank]

/-- past blanks there are none -/
theorem skipBlanks_skipBlanks (c : Cursor) : c.skipBlanks.skipBlanks = c.skipBlanks := by
  cases hpeek : c.skipBlanks.peek? with
  | some b => exact skipBlanks_self hpeek (pastBlanks_peek hpeek)
  | none =>
    have hrest : c.skipBlanks.rest = [] := List.head?_eq_none_iff.1 hpeek
    generalize c.skipBlanks = past at hrest
    obtain ⟨octets, line, column⟩ := past
    cases hrest
    rfl

theorem At.skipBlanks (h : c.At (char :: text) rest) (hb : encodeChar char = [b]) (hn : isBlank b = false) :
    c.skipBlanks = c :=
  skipBlanks_self (h.peek hb) hn

/-! ## Digits -/

theorem isDigit_toUInt8 {char : Char} (h : char.isDigit = true) :
    encodeChar char = [char.toNat.toUInt8] ∧ char.toNat.toUInt8.toNat = char.toNat ∧
      0x30 ≤ char.toNat ∧ char.toNat ≤ 0x39 := by
  obtain ⟨h1, h2⟩ := Char.isDigit_iff_toNat.1 h
  have h1 : 0x30 ≤ char.toNat := h1
  have h2 : char.toNat ≤ 0x39 := h2
  exact ⟨encodeChar_ascii (by omega), toNat_toUInt8 (by omega), h1, h2⟩

/-- the octet in front, if there is one, is no digit -/
def NoDigit (rest : Bytes) : Prop :=
  ∀ b ∈ rest.head?, isDigit b = false

theorem takeDigits_at {digits : List Char} (h : c.At digits rest) (hd : ∀ d ∈ digits, d.isDigit = true)
    (hr : NoDigit rest) : ∃ past : Cursor, c.takeDigits = (octets digits, past) ∧ past.rest = rest := by
  have hall : ∀ b ∈ octets digits, isDigit b = true := by
    intro b hb
    obtain ⟨d, hmem, hbd⟩ := List.mem_flatMap.1 hb
    obtain ⟨he, hn, hl, hh⟩ := isDigit_toUInt8 (hd d hmem)
    rw [he, List.mem_singleton] at hbd
    subst hbd
    simp [isDigit, hn, hl, hh]
  have hnone : rest.takeWhile isDigit = [] ∧ rest.dropWhile isDigit = rest := by
    cases rest with
    | nil => simp
    | cons b rest => simp [hr b rfl]
  have htake : c.rest.takeWhile isDigit = octets digits := by
    rw [h, List.takeWhile_append_of_pos hall, hnone.1, List.append_nil]
  have hdrop : c.rest.dropWhile isDigit = rest := by
    rw [h, List.dropWhile_append_of_pos hall, hnone.2]
  unfold takeDigits
  rw [htake, hdrop]
  exact ⟨_, rfl, rfl⟩

theorem digitsValue_octets {digits : List Char} (hd : ∀ d ∈ digits, d.isDigit = true) (acc : Nat) :
    digitsValue acc (octets digits) = Nat.ofDigitChars 10 digits acc := by
  induction digits generalizing acc with
  | nil => simp [digitsValue]
  | cons d digits ih =>
    obtain ⟨he, hn, -, -⟩ := isDigit_toUInt8 (hd d List.mem_cons_self)
    have := ih (fun e he => hd e (List.mem_cons_of_mem _ he)) (10 * acc + (d.toNat - '0'.toNat))
    rw [Nat.ofDigitChars_cons, ← this, octets_cons, he]
    simp only [digitsValue, List.cons_append, List.nil_append, List.foldl_cons, hn]
    rw [Nat.mul_comm acc]
    rfl

theorem length_octets_digits {digits : List Char} (hd : ∀ d ∈ digits, d.isDigit = true) :
    (octets digits).length = digits.length := by
  induction digits with
  | nil => rfl
  | cons d digits ih =>
    obtain ⟨he, -⟩ := isDigit_toUInt8 (hd d List.mem_cons_self)
    simp [he, ih fun e he => hd e (List.mem_cons_of_mem _ he)]

/-- digits only make a number greater -/
theorem le_ofDigitChars (digits : List Char) (acc : Nat) : acc ≤ Nat.ofDigitChars 10 digits acc := by
  rw [Nat.ofDigitChars_eq_ofDigitChars_zero]
  exact Nat.le_trans (Nat.le_mul_of_pos_left _ (Nat.pow_pos (by decide))) (Nat.le_add_right _ _)

/-- one more digit, as the readers count it -/
theorem next_eq_ofDigitChars {d : Char} {acc : Nat} :
    acc * 10 + (d.toNat - 0x30) = 10 * acc + (d.toNat - '0'.toNat) := by
  rw [Nat.mul_comm]
  rfl

end ToolGateway.Cursor
