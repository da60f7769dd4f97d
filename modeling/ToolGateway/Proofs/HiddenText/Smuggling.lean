import ToolGateway.Proofs.HiddenText.Findings

/-!
The message that the tag characters of a text spell.

Tag characters copy printable ASCII and are not drawn, so a message written in them can stand between the characters of
any other text. Decoding goes through the findings of the text. `spelled` says what a single character adds to the
message: nothing, unless it stands in the tags block.

- `smuggled_append`: two texts one behind the other spell what each of them spells, one behind the other.
- `smuggled_eq_spelled`: so the message is known character by character, and only from those in the tags block.
- `smuggled_lossless`: a message of printable ASCII is read back from every text in which it is hidden.
-/

namespace ToolGateway.HiddenText

variable {c : Char} {cs : List Char}

/-! ## The tags block -/

/-- a character of the tags block -/
def InTagsBlock (c : Char) : Prop :=
  0xE0000 ≤ c.toNat ∧ c.toNat ≤ 0xE007F

/-- printable ASCII, from the blank to the tilde -/
def IsPrintable (c : Char) : Prop :=
  0x20 ≤ c.toNat ∧ c.toNat ≤ 0x7E

instance (c : Char) : Decidable (InTagsBlock c) :=
  inferInstanceAs (Decidable (_ ∧ _))

instance (c : Char) : Decidable (IsPrintable c) :=
  inferInstanceAs (Decidable (_ ∧ _))

/-- the tag character that copies a character of printable ASCII -/
def tagOf (c : Char) : Char :=
  Char.ofNat (c.toNat + 0xE0000)

/-- the tag characters of a text, in order -/
def tags (text : String) : List Char :=
  text.toList.filter fun c => InTagsBlock c

/-- what a character adds to the message -/
def spelled (c : Char) : String :=
  if InTagsBlock c then tagMeaning c.toNat else ""

theorem isTag_iff : isTag c.toNat = true ↔ InTagsBlock c := by
  simp [isTag, InTagsBlock]

theorem toNat_tagOf (h : IsPrintable c) : (tagOf c).toNat = c.toNat + 0xE0000 := by
  obtain ⟨hlow, hhigh⟩ := h
  have hvalid : (c.toNat + 0xE0000).isValidChar := by
    right
    omega
  rw [tagOf, Char.ofNat, dif_pos hvalid]
  rfl

/-- a copy stands in the block, and is read as what it copies -/
theorem spelled_tagOf (h : IsPrintable c) : spelled (tagOf c) = String.singleton c := by
  have hcopy := toNat_tagOf h
  obtain ⟨hlow, hhigh⟩ := h
  have hblock : InTagsBlock (tagOf c) := by
    constructor <;> omega
  have hcopies : (decide (0xE0020 ≤ (tagOf c).toNat) && decide ((tagOf c).toNat ≤ 0xE007E)) = true := by
    simp only [Bool.and_eq_true, decide_eq_true_eq]
    omega
  rw [spelled, if_pos hblock, tagMeaning, if_pos hcopies, hcopy, Nat.add_sub_cancel, Char.ofNat_toNat]

/-! ## The message -/

/-- **Two texts one behind the other spell what each of them spells.** -/
theorem smuggled_append (a b : String) : smuggled (a ++ b) = smuggled a ++ smuggled b := by
  -- moving a finding changes its offset only
  have hmoved : ∀ (n : Nat) (fs : List Finding), ((fs.map (Finding.shifted n)).filter fun f => f.hazard == .tag).map
      (·.meaning) = (fs.filter fun f => f.hazard == .tag).map (·.meaning) := by
    intro n fs
    rw [List.filter_map, List.map_map]
    rfl
  rw [smuggled, findings_append, List.filter_append, List.map_append, hmoved, String.join_append]
  rfl

theorem smuggled_singleton (c : Char) : smuggled (String.singleton c) = spelled c := by
  rw [smuggled, findings_singleton, spelled, finding?, classify]
  simp only
  by_cases htag : InTagsBlock c
  · rw [if_pos htag, if_pos (isTag_iff.2 htag)]
    simp
  · rw [if_neg htag, if_neg (mt isTag_iff.1 htag)]
    -- no other class counts for the message
    split_ifs <;> rfl

/-- **The message is known character by character.** -/
theorem smuggled_eq_spelled (text : String) : smuggled text = String.join (text.toList.map spelled) := by
  have hchars : ∀ cs : List Char, smuggled (String.ofList cs) = String.join (cs.map spelled) := by
    intro cs
    induction cs with
    | nil => rfl
    | cons c cs ih =>
      have hcut : String.ofList (c :: cs) = String.singleton c ++ String.ofList cs := by
        apply String.toList_inj.1
        simp
      rw [hcut, smuggled_append, smuggled_singleton, ih, List.map_cons, String.join_cons]
  rw [← hchars, String.ofList_toList]

/-- only the tags block counts -/
theorem smuggled_eq_tags (text : String) : smuggled text = String.join ((tags text).map spelled) := by
  rw [smuggled_eq_spelled, tags]
  induction text.toList with
  | nil => rfl
  | cons c cs ih =>
    rw [List.map_cons, String.join_cons, ih, List.filter_cons]
    by_cases htag : InTagsBlock c
    · rw [if_pos (by simpa using htag), List.map_cons, String.join_cons]
    · rw [if_neg (by simpa using htag), spelled, if_neg htag, String.empty_append]

theorem join_spelled_tagOf (h : ∀ c ∈ cs, IsPrintable c) :
    String.join ((cs.map tagOf).map spelled) = String.ofList cs := by
  induction cs with
  | nil => rfl
  | cons c cs ih =>
    rw [List.forall_mem_cons] at h
    rw [List.map_cons, List.map_cons, String.join_cons, spelled_tagOf h.1, ih h.2]
    apply String.toList_inj.1
    simp

/-! ## Main result -/

/-- **A message of printable ASCII is read back from every text in which it is hidden.** Whatever stands between,
before and behind its tag characters: they alone are read, in order, and each as the character that it copies. And what
a text of two parts spells is what the first spells and then what the second spells, whatever tags they hold. -/
theorem smuggled_lossless :
    (∀ message text, (∀ c ∈ message.toList, IsPrintable c) → tags text = message.toList.map tagOf →
      smuggled text = message) ∧
    ∀ a b, smuggled (a ++ b) = smuggled a ++ smuggled b := by
  refine ⟨?_, smuggled_append⟩
  intro message text hprintable htags
  calc smuggled text
      = String.join ((message.toList.map tagOf).map spelled) := by rw [smuggled_eq_tags, htags]
    _ = message := by rw [join_spelled_tagOf hprintable, String.ofList_toList]

/-- a blank and a tilde, the ends of the range, hidden among letters, an override and a blank of no width -/
theorem smuggled_lossless_among_others :
    let text := "é" ++ String.singleton (tagOf ' ') ++ "\u202eLists\u200b" ++ String.singleton (tagOf '~') ++ " files"
    tags text = " ~".toList.map tagOf ∧ smuggled text = " ~" ∧ smuggled (text ++ text) = " ~" ++ " ~" := by
  intro text
  obtain ⟨hread, hparts⟩ := smuggled_lossless
  have hprintable : ∀ c ∈ " ~".toList, IsPrintable c := by
    intro c hc
    have hends : c = ' ' ∨ c = '~' := by simpa using hc
    rcases hends with rfl | rfl <;> decide
  have htags : tags text = " ~".toList.map tagOf := by
    decide
  have hmessage : smuggled text = " ~" := hread " ~" text hprintable htags
  refine ⟨htags, hmessage, ?_⟩
  rw [hparts, hmessage]

end ToolGateway.HiddenText
