import ToolGateway.Gateway
import ToolGateway.Proofs.HiddenText.Findings
import ToolGateway.Text.Category

/-!
What cleaning a text takes out.

The screen and the cleaning are two separate passes over the characters: the screen asks `classify` alone, the cleaning
lets three controls pass first, then takes out the other controls, and only then asks `classify`. `IsSafe` says without
an order of questions which characters are to stay, with the controls read from the table of categories.

- `isKept_iff`: the cleaning leaves a character in exactly if it is safe.
- `findings_eq_nil_iff`: nothing is found in a text exactly if none of its characters is classified.
- `clean_eq_ok_iff`: only the size of a text keeps it from being cleaned, and what is left is the safe characters.
- `register_described`: the gateway refuses a description only if the screen does.
- `clean_keeps_safe`: cleaning takes out what is not safe and nothing else.
-/

namespace ToolGateway.HiddenText

open Utf8 Text

variable {text cleaned : String} {c : Char}

/-! ## Safe characters -/

/-- a control character, by the table of categories -/
def IsControl (c : Char) : Prop :=
  (Category.ofCode "Cc").holds c = true

/-- a line feed, a carriage return or a tab -/
def IsLayout (c : Char) : Prop :=
  c = '\n' ∨ c = '\r' ∨ c = '\t'

/-- a character that may stand in a description: one of layout, or neither a control nor hidden -/
def IsSafe (c : Char) : Prop :=
  IsLayout c ∨ (¬ IsControl c ∧ classify c = none)

instance (c : Char) : Decidable (IsControl c) :=
  inferInstanceAs (Decidable (_ = true))

instance (c : Char) : Decidable (IsLayout c) :=
  inferInstanceAs (Decidable (_ ∨ _))

instance (c : Char) : Decidable (IsSafe c) :=
  inferInstanceAs (Decidable (_ ∨ _))

/-- the table has two ranges of controls -/
theorem controls_eq : Category.ofCode "Cc" = ⟨[(0, 0x1F), (0x7F, 0x9F)]⟩ := by
  have hlines : Category.ranges.lookup "Cc" = some ["0-1F 7F-9F"] := by rfl
  rw [Category.ofCode, hlines, Option.getD_some]
  cbv

theorem isControl_iff : isControl c = true ↔ IsControl c := by
  rw [IsControl, controls_eq, isControl]
  simp only [CharSet.holds, List.any_cons, List.any_nil, Bool.or_false, Bool.or_eq_true, Bool.and_eq_true,
    decide_eq_true_eq]
  omega

theorem classify_of_isLayout (h : IsLayout c) : classify c = none := by
  rcases h with rfl | rfl | rfl <;> decide

/-- **The cleaning leaves in what is safe.** -/
theorem isKept_iff : isKept c = true ↔ IsSafe c := by
  have hasked : (decide (c = '\n') || decide (c = '\r') || decide (c = '\t')) = true ↔ IsLayout c := by
    simp only [Bool.or_eq_true, decide_eq_true_eq, or_assoc, IsLayout]
  rw [isKept, if_congr hasked rfl rfl, IsSafe, ← isControl_iff]
  by_cases hlayout : IsLayout c
  · rw [if_pos hlayout]
    exact iff_of_true rfl (.inl hlayout)
  · rw [if_neg hlayout, or_iff_right hlayout, ← Option.isNone_iff_eq_none]
    cases isControl c with
    | true => exact iff_of_false nofun fun h => h.1 rfl
    | false => exact (and_iff_right nofun).symm

theorem classify_of_isSafe (h : IsSafe c) : classify c = none := by
  rcases h with hlayout | ⟨-, hshown⟩
  · exact classify_of_isLayout hlayout
  · exact hshown

theorem isSafe_iff : IsSafe c ↔ classify c = none ∧ (IsControl c → IsLayout c) := by
  constructor
  · intro hsafe
    refine ⟨classify_of_isSafe hsafe, fun hcontrol => ?_⟩
    rcases hsafe with hlayout | ⟨hnot, -⟩
    · exact hlayout
    · exact absurd hcontrol hnot
  · rintro ⟨hshown, hlayout⟩
    by_cases hcontrol : IsControl c
    · exact .inl (hlayout hcontrol)
    · exact .inr ⟨hcontrol, hshown⟩

/-! ## Texts -/

theorem findingsFrom_eq_nil_iff (offset : Nat) (cs : List Char) :
    findingsFrom offset cs = [] ↔ ∀ c ∈ cs, classify c = none := by
  induction cs generalizing offset with
  | nil => simp [findingsFrom]
  | cons c cs ih =>
    have hone : (finding? offset c).toList = [] ↔ classify c = none := by
      rw [Option.toList_eq_nil_iff, finding?, Option.map_eq_none_iff]
    rw [findingsFrom, List.append_eq_nil_iff, hone, ih, List.forall_mem_cons]

theorem findings_eq_nil_iff : findings text = [] ↔ ∀ c ∈ text.toList, classify c = none := by
  rw [findings_eq, findingsFrom_eq_nil_iff]

theorem filter_isKept (cs : List Char) : cs.filter isKept = cs.filter fun c => IsSafe c := by
  refine List.filter_congr fun c _ => ?_
  rw [Bool.eq_iff_iff, isKept_iff, decide_eq_true_eq]

/-- **Only the size of a text keeps it from being cleaned**, and the safe characters are what is left. -/
theorem clean_eq_ok_iff : clean text = .ok cleaned ↔
    (encode text).length ≤ 1048576 ∧ cleaned.toList = text.toList.filter fun c => IsSafe c := by
  rw [clean, ← length_encode, sizeLimit, filter_isKept]
  split_ifs with hlarge
  · exact iff_of_false nofun fun h => absurd h.1 (by omega)
  · rw [Except.ok.injEq, ← String.toList_inj, String.toList_ofList, and_iff_right (by omega)]
    exact eq_comm

theorem clean_eq_error_iff {alarm : Alarm} : clean text = .error alarm ↔
    1048576 < (encode text).length ∧ alarm = .tooLarge (encode text).length := by
  rw [clean, ← length_encode, sizeLimit]
  split_ifs with hlarge
  · rw [Except.error.injEq, and_iff_right hlarge]
    exact eq_comm
  · exact iff_of_false nofun fun h => hlarge h.1

theorem isSafe_of_clean (h : clean text = .ok cleaned) : ∀ c ∈ cleaned.toList, IsSafe c := by
  intro c hc
  rw [(clean_eq_ok_iff.1 h).2] at hc
  exact of_decide_eq_true (List.mem_filter.1 hc).2

/-- the octets of what is left are octets of the text, in order -/
theorem length_clean_le (h : clean text = .ok cleaned) : (encode cleaned).length ≤ (encode text).length := by
  have hleft : cleaned.toList.Sublist text.toList := by
    rw [(clean_eq_ok_iff.1 h).2]
    exact List.filter_sublist
  rw [encode_eq_octets, encode_eq_octets]
  exact (hleft.flatMap encodeChar).length_le

theorem screen_clean (h : clean text = .ok cleaned) : screen cleaned = .ok () := by
  refine screen_eq_ok_iff.2 (findings_eq_nil_iff.2 fun c hc => ?_)
  exact classify_of_isSafe (isSafe_of_clean h c hc)

theorem clean_clean (h : clean text = .ok cleaned) : clean cleaned = .ok cleaned := by
  refine clean_eq_ok_iff.2 ⟨(length_clean_le h).trans (clean_eq_ok_iff.1 h).1, ?_⟩
  exact (List.filter_eq_self.2 fun c hc => decide_eq_true (isSafe_of_clean h c hc)).symm

/-- nothing is taken out of a text without hidden characters and without controls but those of layout -/
theorem clean_self_iff (h : clean text = .ok cleaned) :
    cleaned = text ↔ ∀ c ∈ text.toList, classify c = none ∧ (IsControl c → IsLayout c) := by
  rw [← String.toList_inj, (clean_eq_ok_iff.1 h).2, List.filter_eq_self]
  simp only [decide_eq_true_eq, isSafe_iff]

/-! ## Registration -/

/-- **The gateway refuses a description only if the screen does.** -/
theorem register_described {g : Gateway} {t : Tool} {alarm : Alarm}
    (h : (g.register t).1 = .error (.description alarm)) : screen t.description = .error alarm := by
  have hscreen : g.screen t = .error (.description alarm) := by
    rw [Gateway.register] at h
    cases hchecked : g.screen t with
    | error fault =>
      rw [hchecked] at h
      exact h
    | ok _ =>
      -- the faults of the registry are passed on as such
      rw [hchecked] at h
      simp only [Gateway.onRegistry] at h
      cases hanswer : (g.registry.register t).1 <;> simp [hanswer, Except.mapError] at h
  rw [Gateway.screen] at hscreen
  split_ifs at hscreen
  · cases hscreen
  · cases hfound : screen t.description with
    | error found =>
      rw [hfound] at hscreen
      exact congrArg Except.error (GatewayFault.description.inj (Except.error.inj hscreen))
    | ok _ =>
      rw [hfound] at hscreen
      cases hscreen

/-! ## Main result -/

/-- **Cleaning takes out what is not safe and nothing else.**

- A text is refused exactly if it has more than 1048576 octets, and the refusal says how many it has.
- Otherwise the result is the safe characters of the text: line feeds, carriage returns, tabs, and whatever is neither
  a control nor hidden, in order and as often as they stand there.
- So the result has no more octets than the text, passes the screen, and is cleaned to itself; it is the text itself
  exactly if nothing in the text is hidden or a control other than those three.
- No gateway refuses a tool with this description for the description. -/
theorem clean_keeps_safe (text : String) :
    ((∃ alarm, clean text = .error alarm) ↔ 1048576 < (encode text).length) ∧
    (∀ alarm, clean text = .error alarm → alarm = .tooLarge (encode text).length) ∧
    ∀ cleaned, clean text = .ok cleaned →
      cleaned.toList = text.toList.filter (fun c => IsSafe c) ∧
      (encode cleaned).length ≤ (encode text).length ∧
      screen cleaned = .ok () ∧
      clean cleaned = .ok cleaned ∧
      (cleaned = text ↔ ∀ c ∈ text.toList, classify c = none ∧ (IsControl c → IsLayout c)) ∧
      ∀ (g : Gateway) (t : Tool), t.description = cleaned →
        ∀ alarm, (g.register t).1 ≠ .error (.description alarm) := by
  refine ⟨⟨?_, fun hlarge => ⟨_, clean_eq_error_iff.2 ⟨hlarge, rfl⟩⟩⟩, fun alarm h => (clean_eq_error_iff.1 h).2, ?_⟩
  · rintro ⟨alarm, h⟩
    exact (clean_eq_error_iff.1 h).1
  · intro cleaned h
    refine ⟨(clean_eq_ok_iff.1 h).2, length_clean_le h, screen_clean h, clean_clean h, clean_self_iff h, ?_⟩
    intro g t hdescription alarm hrefused
    have hscreen : screen cleaned = .error alarm := by
      rw [← hdescription]
      exact register_described hrefused
    rw [screen_clean h] at hscreen
    cases hscreen

/-- an escape, a blank without width and an override are taken out, a tab and a letter with an accent stay -/
theorem clean_keeps_safe_mixed :
    let text := "a\x1b\u200bé\t\u202e."
    clean text = .ok "aé\t." ∧ screen "aé\t." = .ok () ∧ clean "aé\t." = .ok "aé\t." ∧ "aé\t." ≠ text ∧
      (encode text).length = 12 ∧ (encode "aé\t.").length ≤ 12 := by
  intro text
  have hclean : clean text = .ok "aé\t." := by
    decide
  obtain ⟨-, -, hcleaned⟩ := clean_keeps_safe text
  obtain ⟨-, hlength, hscreen, hagain, -, -⟩ := hcleaned "aé\t." hclean
  have hoctets : (encode text).length = 12 := by
    decide
  exact ⟨hclean, hscreen, hagain, by decide, hoctets, hoctets ▸ hlength⟩

end ToolGateway.HiddenText
