import ToolGateway.HiddenText
import ToolGateway.Proofs.Bytes.Utf8
import ToolGateway.Text.CharSet

/-!
Findings as a function of the text.

The scan goes through the characters of a text with the offset in octets as its state. `findingsFrom` is what it finds
from any offset on, so that a text can be cut anywhere: what is found behind the cut is what is found in the second part
alone, moved by the octets of the first (`findings_append`).

- `mem_findings`: a finding is a hidden character that stands in the text at its offset (`StandsAt`).
- `filter_findings`: at each offset at which a character stands there is one finding if it is hidden, and else none.
- `findings_ascending`: the offsets ascend strictly, so no character is reported twice.
- `writesCodePoint_codePoint`: the hexadecimal form of a code point is read back as the code point.
- `findings_positional`: all of it, for the report and for the screen.
-/

namespace ToolGateway.HiddenText

open Utf8

/-! ## The scan -/

/-- the findings of some characters, the first of which stands at this offset -/
def findingsFrom (offset : Nat) : List Char → List Finding
  | [] => []
  | c :: cs => (finding? offset c).toList ++ findingsFrom (offset + (encodeChar c).length) cs

/-- the finding for the same character this many octets further on -/
def Finding.shifted (n : Nat) (f : Finding) : Finding :=
  { f with index := f.index + n }

variable {offset index n : Nat} {c d : Char} {cs ds : List Char} {f : Finding} {text : String}

/-- the scan keeps its findings last first, in front of those that it began with -/
theorem foldl_scanStep (cs : List Char) (offset : Nat) (seen : List Finding) :
    cs.foldl scanStep (offset, seen) = (offset + (octets cs).length, (findingsFrom offset cs).reverse ++ seen) := by
  induction cs generalizing offset seen with
  | nil => simp [findingsFrom]
  | cons c cs ih =>
    have hone : (finding? offset c).toList.reverse = (finding? offset c).toList := by
      cases finding? offset c <;> rfl
    rw [List.foldl_cons, scanStep, ih, findingsFrom, octets_cons, List.length_append, length_encodeChar,
      List.reverse_append, hone]
    simp only [Nat.add_assoc, List.append_assoc]

theorem findings_eq (text : String) : findings text = findingsFrom 0 text.toList := by
  rw [findings, foldl_scanStep, List.append_nil, List.reverse_reverse]

theorem finding?_eq_some : finding? index c = some f ↔
    ∃ hazard meaning, classify c = some (hazard, meaning) ∧ f = ⟨c, codePoint c.toNat, index, hazard, meaning⟩ := by
  rw [finding?, Option.map_eq_some_iff]
  constructor
  · rintro ⟨⟨hazard, meaning⟩, hclass, rfl⟩
    exact ⟨hazard, meaning, hclass, rfl⟩
  · rintro ⟨hazard, meaning, hclass, rfl⟩
    exact ⟨(hazard, meaning), hclass, rfl⟩

/-- a finding says where it was made and of which character -/
theorem finding?_self (h : finding? index c = some f) : f.index = index ∧ f.char = c := by
  obtain ⟨hazard, meaning, -, rfl⟩ := finding?_eq_some.1 h
  exact ⟨rfl, rfl⟩

theorem finding?_isSome (index : Nat) (c : Char) : (finding? index c).isSome = (classify c).isSome := by
  rw [finding?, Option.isSome_map]

theorem finding?_add (index n : Nat) (c : Char) :
    finding? (index + n) c = (finding? index c).map (Finding.shifted n) := by
  rw [finding?, finding?, Option.map_map]
  rfl

/-! ## Cutting a text -/

theorem findingsFrom_append (offset : Nat) (cs ds : List Char) :
    findingsFrom offset (cs ++ ds) = findingsFrom offset cs ++ findingsFrom (offset + (octets cs).length) ds := by
  induction cs generalizing offset with
  | nil => rfl
  | cons c cs ih =>
    rw [List.cons_append, findingsFrom, ih, findingsFrom, List.append_assoc, octets_cons, List.length_append,
      Nat.add_assoc]

/-- what is found does not depend on where the first character stands, but for the offsets -/
theorem findingsFrom_add (offset n : Nat) (cs : List Char) :
    findingsFrom (offset + n) cs = (findingsFrom offset cs).map (Finding.shifted n) := by
  induction cs generalizing offset with
  | nil => rfl
  | cons c cs ih =>
    have hone : (finding? (offset + n) c).toList = (finding? offset c).toList.map (Finding.shifted n) := by
      rw [finding?_add]
      cases finding? offset c <;> rfl
    rw [findingsFrom, findingsFrom, List.map_append, ← ih, hone, Nat.add_right_comm]

/-- **Behind a cut is found what is found in the second part alone**, moved by the octets of the first. -/
theorem findings_append (a b : String) :
    findings (a ++ b) = findings a ++ (findings b).map (Finding.shifted (encode a).length) := by
  calc findings (a ++ b)
      = findingsFrom 0 (a.toList ++ b.toList) := by rw [findings_eq, String.toList_append]
    _ = findingsFrom 0 a.toList ++ findingsFrom (0 + (encode a).length) b.toList := findingsFrom_append 0 _ _
    _ = findings a ++ (findings b).map (Finding.shifted (encode a).length) := by
      rw [findingsFrom_add, ← findings_eq, ← findings_eq]

theorem findings_singleton (c : Char) : findings (String.singleton c) = (finding? 0 c).toList := by
  rw [findings_eq, String.toList_singleton, findingsFrom, findingsFrom, List.append_nil]

theorem findings_singleton_eq_iff :
    (∃ f, findings (String.singleton c) = [f] ∧ f.index = 0 ∧ f.char = c) ↔ (classify c).isSome = true := by
  rw [findings_singleton, ← finding?_isSome 0]
  constructor
  · rintro ⟨f, hf, -⟩
    cases hfound : finding? 0 c with
    | none => simp [hfound] at hf
    | some g => rfl
  · intro hsome
    obtain ⟨f, hf⟩ := Option.isSome_iff_exists.1 hsome
    rw [hf]
    exact ⟨f, rfl, finding?_self hf⟩

/-! ## Places -/

/-- the character stands in the text at this offset -/
def StandsAt (text : String) (index : Nat) (c : Char) : Prop :=
  ∃ before after : String, text = before ++ String.singleton c ++ after ∧ (encode before).length = index

/-- at the offset at which a character stands the octets of the text begin with its own -/
theorem StandsAt.encode_drop (h : StandsAt text index c) :
    encode (String.singleton c) <+: (encode text).drop index := by
  obtain ⟨before, after, rfl, rfl⟩ := h
  have hcut : encode (before ++ String.singleton c ++ after) =
      encode before ++ (encode (String.singleton c) ++ encode after) := by
    simp only [encode_eq_octets, String.toList_append, octets_append, List.append_assoc]
  rw [hcut, List.drop_left]
  exact List.prefix_append _ _

theorem index_bounds (h : f ∈ findingsFrom offset cs) :
    offset ≤ f.index ∧ f.index < offset + (octets cs).length := by
  induction cs generalizing offset with
  | nil => simp [findingsFrom] at h
  | cons c cs ih =>
    have hpos : 0 < (encodeChar c).length := List.length_pos_iff.2 (encodeChar_ne_nil c)
    rw [octets_cons, List.length_append]
    rw [findingsFrom, List.mem_append] at h
    rcases h with h | h
    · obtain ⟨hindex, -⟩ := finding?_self (Option.mem_toList.1 h)
      omega
    · obtain ⟨hlow, hhigh⟩ := ih h
      omega

theorem findingsFrom_ascending (offset : Nat) (cs : List Char) :
    (findingsFrom offset cs).Pairwise fun f g => f.index < g.index := by
  induction cs generalizing offset with
  | nil => exact List.Pairwise.nil
  | cons c cs ih =>
    have hpos : 0 < (encodeChar c).length := List.length_pos_iff.2 (encodeChar_ne_nil c)
    rw [findingsFrom]
    refine List.pairwise_append.2 ⟨?_, ih _, ?_⟩
    · cases finding? offset c with
      | none => exact List.Pairwise.nil
      | some f => exact List.pairwise_singleton _ f
    · intro f hf g hg
      obtain ⟨hindex, -⟩ := finding?_self (Option.mem_toList.1 hf)
      obtain ⟨hlow, -⟩ := index_bounds hg
      omega

/-- **The offsets ascend strictly.** -/
theorem findings_ascending (text : String) : (findings text).Pairwise fun f g => f.index < g.index := by
  rw [findings_eq]
  exact findingsFrom_ascending 0 _

/-- what is found around a character that stands somewhere -/
theorem findings_around (before after : String) (c : Char) :
    findings (before ++ String.singleton c ++ after) =
      findings before ++ (finding? (encode before).length c).toList ++
        findingsFrom ((encode before).length + (encodeChar c).length) after.toList := by
  rw [findings_eq, findings_eq, String.toList_append, String.toList_append, String.toList_singleton, List.append_assoc,
    List.singleton_append, findingsFrom_append, findingsFrom, Nat.zero_add, ← encode_eq_octets, List.append_assoc]

/-- **A character is reported once if it is hidden, and else not at all**: nothing else is found at its offset. -/
theorem filter_findings (h : StandsAt text index c) :
    (findings text).filter (fun f => f.index = index) = (finding? index c).toList := by
  obtain ⟨before, after, rfl, rfl⟩ := h
  have hpos : 0 < (encodeChar c).length := List.length_pos_iff.2 (encodeChar_ne_nil c)
  have hbefore : (findings before).filter (fun f => f.index = (encode before).length) = [] := by
    refine List.filter_eq_nil_iff.2 fun f hf => ?_
    rw [findings_eq] at hf
    obtain ⟨-, hhigh⟩ := index_bounds hf
    rw [encode_eq_octets]
    simp only [decide_eq_true_eq]
    omega
  have hafter : (findingsFrom ((encode before).length + (encodeChar c).length) after.toList).filter
      (fun f => f.index = (encode before).length) = [] := by
    refine List.filter_eq_nil_iff.2 fun f hf => ?_
    obtain ⟨hlow, -⟩ := index_bounds hf
    simp only [decide_eq_true_eq]
    omega
  have hself : (finding? (encode before).length c).toList.filter (fun f => f.index = (encode before).length) =
      (finding? (encode before).length c).toList := by
    refine List.filter_eq_self.2 fun f hf => ?_
    simpa using (finding?_self (Option.mem_toList.1 hf)).1
  rw [findings_around, List.filter_append, List.filter_append, hbefore, hafter, hself, List.nil_append, List.append_nil]

theorem exists_standsAt (h : f ∈ findingsFrom offset cs) :
    ∃ before after, cs = before ++ f.char :: after ∧ f.index = offset + (octets before).length ∧
      finding? f.index f.char = some f := by
  induction cs generalizing offset with
  | nil => simp [findingsFrom] at h
  | cons c cs ih =>
    rw [findingsFrom, List.mem_append] at h
    rcases h with h | h
    · have hfound : finding? offset c = some f := Option.mem_toList.1 h
      obtain ⟨hindex, hchar⟩ := finding?_self hfound
      refine ⟨[], cs, by rw [hchar]; rfl, hindex, ?_⟩
      rw [hindex, hchar]
      exact hfound
    · obtain ⟨before, after, rfl, hindex, hfound⟩ := ih h
      refine ⟨c :: before, after, rfl, ?_, hfound⟩
      rw [octets_cons, List.length_append, hindex, Nat.add_assoc]

/-- **A finding is a hidden character that stands in the text at its offset.** -/
theorem mem_findings : f ∈ findings text ↔ StandsAt text f.index f.char ∧ finding? f.index f.char = some f := by
  constructor
  · intro h
    rw [findings_eq] at h
    obtain ⟨before, after, htext, hindex, hfound⟩ := exists_standsAt h
    refine ⟨⟨String.ofList before, String.ofList after, ?_, ?_⟩, hfound⟩
    · apply String.toList_inj.1
      simp [htext]
    · rw [encode_ofList, hindex, Nat.zero_add]
  · rintro ⟨hstands, hfound⟩
    have hmem : f ∈ (findings text).filter fun g => g.index = f.index := by
      rw [filter_findings hstands, hfound]
      exact List.mem_singleton_self f
    exact (List.mem_filter.1 hmem).1

/-! ## Hexadecimal forms -/

/-- a decimal digit or a capital letter up to `F` -/
def IsCapitalDigit (c : Char) : Prop :=
  ('0' ≤ c ∧ c ≤ '9') ∨ ('A' ≤ c ∧ c ≤ 'F')

instance (c : Char) : Decidable (IsCapitalDigit c) :=
  inferInstanceAs (Decidable (_ ∨ _))

/-- the number that digits of base sixteen stand for -/
def hexValue (digits : List Char) : Nat :=
  digits.foldl (fun value d => 16 * value + CharSet.digitValue d) 0

/-- the text is `U+` and at least four capital digits, which are read as this number -/
def WritesCodePoint (text : String) (n : Nat) : Prop :=
  ∃ digits, text.toList = 'U' :: '+' :: digits ∧ 4 ≤ digits.length ∧ (∀ d ∈ digits, IsCapitalDigit d) ∧
    hexValue digits = n

theorem capital_digitChar (h : n < 16) :
    IsCapitalDigit n.digitChar.toUpper ∧ CharSet.digitValue n.digitChar.toUpper = n := by
  have hall : ∀ n < 16, IsCapitalDigit n.digitChar.toUpper ∧ CharSet.digitValue n.digitChar.toUpper = n := by decide
  exact hall n h

theorem hexValue_append_singleton (digits : List Char) (d : Char) :
    hexValue (digits ++ [d]) = 16 * hexValue digits + CharSet.digitValue d := by
  rw [hexValue, List.foldl_append]
  rfl

/-- zeros in front do not count -/
theorem hexValue_filled (k : Nat) (digits : List Char) :
    hexValue (List.replicate k '0' ++ digits) = hexValue digits := by
  have hzeros : ∀ k, hexValue (List.replicate k '0') = 0 := by
    intro k
    induction k with
    | zero => rfl
    | succ k ih =>
      rw [List.replicate_succ', hexValue_append_singleton, ih]
      decide
  rw [hexValue, List.foldl_append, ← hexValue, hzeros, ← hexValue]

theorem capital_toDigits (n : Nat) : (∀ d ∈ (Nat.toDigits 16 n).map Char.toUpper, IsCapitalDigit d) ∧
    hexValue ((Nat.toDigits 16 n).map Char.toUpper) = n := by
  -- the last digit is the remainder, and those in front of it are the digits of the quotient
  induction n using Nat.strong_induction_on with
  | _ n ih =>
    rcases Nat.lt_or_ge n 16 with hlt | hge
    · obtain ⟨hcapital, hvalue⟩ := capital_digitChar hlt
      rw [Nat.toDigits_of_lt_base hlt]
      refine ⟨by simpa using hcapital, ?_⟩
      have hone := hexValue_append_singleton [] n.digitChar.toUpper
      rw [hvalue] at hone
      simpa [hexValue] using hone
    · obtain ⟨hcapital, hvalue⟩ := capital_digitChar (Nat.mod_lt n (show 0 < 16 by decide))
      obtain ⟨hdigits, hquotient⟩ := ih (n / 16) (by omega)
      rw [Nat.toDigits_of_base_le (by decide) hge, List.map_append, List.map_singleton]
      refine ⟨fun d hd => ?_, ?_⟩
      · rcases List.mem_append.1 hd with hd | hd
        · exact hdigits d hd
        · rw [List.mem_singleton.1 hd]
          exact hcapital
      · rw [hexValue_append_singleton, hquotient, hvalue]
        omega

/-- **The hexadecimal form of a code point is read back as the code point.** -/
theorem writesCodePoint_codePoint (n : Nat) : WritesCodePoint (codePoint n) n := by
  obtain ⟨hcapital, hvalue⟩ := capital_toDigits n
  refine ⟨List.replicate (4 - ((Nat.toDigits 16 n).map Char.toUpper).length) '0' ++
    (Nat.toDigits 16 n).map Char.toUpper, ?_, ?_, ?_, ?_⟩
  · rw [codePoint, String.toList_ofList]
  · rw [List.length_append, List.length_replicate]
    omega
  · intro d hd
    rcases List.mem_append.1 hd with hd | hd
    · rw [List.eq_of_mem_replicate hd]
      decide
    · exact hcapital d hd
  · rw [hexValue_filled, hvalue]

theorem hex_of_mem (h : f ∈ findings text) : WritesCodePoint f.hex f.char.toNat := by
  obtain ⟨hazard, meaning, -, hf⟩ := finding?_eq_some.1 (mem_findings.1 h).2
  rw [hf]
  exact writesCodePoint_codePoint _

/-! ## The screen -/

theorem screen_eq_ok_iff : screen text = .ok () ↔ findings text = [] := by
  rw [screen]
  simp only [List.length_eq_zero_iff]
  split_ifs with hnone
  · exact iff_of_true rfl hnone
  · exact iff_of_false nofun hnone

/-- a refusal says how many findings there are, and nothing else of them -/
theorem screen_of_findings (h : findings text ≠ []) : screen text = .error (.hidden (findings text).length) := by
  rw [screen]
  simp only [List.length_eq_zero_iff]
  rw [if_neg h]

/-! ## Main result -/

/-- **The report is made of the characters of a text and of where they stand.**

- A text that is put together of two is reported as the first part, then as the second with its offsets moved by the
  octets of the first; one character alone is one finding, at the offset zero, exactly if it is classified as hidden.
- So in every text the offsets ascend strictly; the octets at each of them begin with those of the character reported;
  at the offset of any character of the text there is its one finding if it is hidden, and else none; and nothing is
  reported but such characters.
- The hexadecimal form is `U+` and at least four capital digits that are read back as the code point.
- The screen lets a text pass exactly if nothing is reported, and otherwise says how many findings there are. -/
theorem findings_positional :
    (∀ a b, findings (a ++ b) = findings a ++ (findings b).map (Finding.shifted (encode a).length)) ∧
    (∀ c, findings (String.singleton c) = (finding? 0 c).toList ∧
      ((∃ f, findings (String.singleton c) = [f] ∧ f.index = 0 ∧ f.char = c) ↔ (classify c).isSome = true)) ∧
    ∀ text,
      (findings text).Pairwise (fun f g => f.index < g.index) ∧
      (∀ f ∈ findings text, encode (String.singleton f.char) <+: (encode text).drop f.index) ∧
      (∀ index c, StandsAt text index c →
        (findings text).filter (fun f => f.index = index) = (finding? index c).toList) ∧
      (∀ f ∈ findings text, StandsAt text f.index f.char ∧ (classify f.char).isSome = true) ∧
      (∀ f ∈ findings text, WritesCodePoint f.hex f.char.toNat) ∧
      (screen text = .ok () ↔ findings text = []) ∧
      (findings text ≠ [] → screen text = .error (.hidden (findings text).length)) := by
  refine ⟨findings_append, fun c => ⟨findings_singleton c, findings_singleton_eq_iff⟩, fun text => ?_⟩
  refine ⟨findings_ascending text, ?_, fun index c hstands => filter_findings hstands, ?_, fun f hf => hex_of_mem hf,
    screen_eq_ok_iff, screen_of_findings⟩
  · intro f hf
    exact (mem_findings.1 hf).1.encode_drop
  · intro f hf
    obtain ⟨hstands, hfound⟩ := mem_findings.1 hf
    refine ⟨hstands, ?_⟩
    rw [← finding?_isSome f.index, hfound]
    rfl

/-- a blank without width behind a character of two octets -/
theorem findings_positional_behind_accent :
    let text := "aé" ++ "\u200b" ++ "b"
    let hidden : Finding := ⟨'\u200b', "U+200B", 3, .invisible, "[ZWSP]"⟩
    hidden ∈ findings text ∧ StandsAt text 3 '\u200b' ∧
      encode (String.singleton '\u200b') <+: (encode text).drop 3 ∧
      (findings text).filter (fun f => f.index = 3) = [hidden] ∧ screen text = .error (.hidden 1) := by
  intro text hidden
  obtain ⟨-, -, hall⟩ := findings_positional
  obtain ⟨-, hoctets, honce, -, -, -, hrefused⟩ := hall text
  have hfindings : findings text = [hidden] := by decide
  have hmem : hidden ∈ findings text := by
    rw [hfindings]
    exact List.mem_singleton_self hidden
  have hstands : StandsAt text 3 '\u200b' := ⟨"aé", "b", rfl, by decide⟩
  refine ⟨hmem, hstands, hoctets hidden hmem, (honce 3 '\u200b' hstands).trans (by decide), ?_⟩
  rw [hrefused (by rw [hfindings]; exact List.cons_ne_nil _ _), hfindings]
  rfl

end ToolGateway.HiddenText
