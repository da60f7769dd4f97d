import Mathlib.Data.List.TakeWhile
import ToolGateway.Proofs.Configuration.Loading

/-!
A key for the catalog, given by a variable.

The value of a variable is read by its look before anyone asks which field it is for. So a key of letters and digits is
taken as it is, unless it looks like something else than a text (`Variable.LooksTyped`): a truth value, or a number of
64 bits. Such a key is refused, with the field at fault, and so is the whole configuration.
-/

namespace ToolGateway

namespace Variable

variable {c : Char} {s : String} {text : List Char}

/-! ## Letters and digits -/

theorem alphanum_range (h : c.isAlphanum = true) :
    (48 ≤ c.toNat ∧ c.toNat ≤ 57) ∨ (65 ≤ c.toNat ∧ c.toNat ≤ 90) ∨ (97 ≤ c.toNat ∧ c.toNat ≤ 122) := by
  have hranges : (decide (65 ≤ c.val ∧ c.val ≤ 90) || (decide (97 ≤ c.val) && decide (c.val ≤ 122)) ||
      (decide (48 ≤ c.val) && decide (c.val ≤ 57))) = true := h
  simp only [Bool.or_eq_true, Bool.and_eq_true, decide_eq_true_eq, UInt32.le_iff_toNat_le] at hranges
  have hnat : c.toNat = c.val.toNat := rfl
  rw [hnat]
  rcases hranges with (⟨hlow, hhigh⟩ | ⟨hlow, hhigh⟩) | ⟨hlow, hhigh⟩
  · exact .inr (.inl ⟨hlow, hhigh⟩)
  · exact .inr (.inr ⟨hlow, hhigh⟩)
  · exact .inl ⟨hlow, hhigh⟩

/-- a letter or digit is not one of the characters that mean something in a value -/
theorem ne_of_alphanum (h : c.isAlphanum = true) {d : Char} (hd : d.isAlphanum = false) : c ≠ d := by
  rintro rfl
  rw [h] at hd
  cases hd

theorem trim_blank_of_alphanum (h : c.isAlphanum = true) : Text.isBlank c = false := by
  have hrange := alphanum_range h
  simp [Text.isBlank, Text.blankRanges]
  omega

theorem isBlank_of_alphanum (h : c.isAlphanum = true) : isBlank c = false := by
  simp [isBlank, ne_of_alphanum h (d := ' ') (by decide), ne_of_alphanum h (d := '\t') (by decide),
    ne_of_alphanum h (d := '\n') (by decide), ne_of_alphanum h (d := '\r') (by decide),
    ne_of_alphanum h (d := '\x0c') (by decide)]

theorem isSeparator_of_alphanum (h : c.isAlphanum = true) : isSeparator c = false := by
  simp [isSeparator, ne_of_alphanum h (d := ',') (by decide), ne_of_alphanum h (d := '\x7b') (by decide),
    ne_of_alphanum h (d := '\x7d') (by decide), ne_of_alphanum h (d := '[') (by decide),
    ne_of_alphanum h (d := ']') (by decide)]

/-! ## Values of letters and digits -/

/-- a value that is read as something else than a text: a truth value, or a number of 64 bits -/
def LooksTyped (s : String) : Prop :=
  s = "true" ∨ s = "false" ∨ ∃ n < 0x10000000000000000, digitsNumber? s.toList = some n

theorem digitsNumber?_eq_none (hc : c ∈ text) (hdigit : c.isDigit = false) : digitsNumber? text = none := by
  rw [digitsNumber?, if_neg]
  rintro ⟨-, hall⟩
  rw [List.all_eq_true.1 hall c hc] at hdigit
  cases hdigit

/-- without a point and a sign, a plain value is a number if it is of digits and fits, else a text -/
theorem plain_alphanum (h : ∀ c ∈ text, c.isAlphanum = true) :
    plain text =
      match digitsNumber? text with
      | some n => if n < 0x10000000000000000 then .natural n else .text (String.ofList text)
      | none => .text (String.ofList text) := by
  have hpoint : text.contains '.' = false := by
    simp only [List.contains_eq_mem, decide_eq_false_iff_not]
    intro hmem
    cases h '.' hmem
  have hnegative : negative? text = none := by
    rw [negative?.eq_def]
    split
    · cases h '-' List.mem_cons_self
    · rfl
  have hnatural : natural? text =
      match digitsNumber? text with
      | some n => if n < 0x10000000000000000 then some (.natural n) else none
      | none => none := by
    have hunsigned : ∀ rest, text = '+' :: rest → False := by
      rintro rest rfl
      cases h '+' List.mem_cons_self
    rw [natural?]
    all_goals first | rfl | exact hunsigned
  rw [plain, hpoint, if_neg Bool.false_ne_true, hnegative, hnatural]
  cases digitsNumber? text with
  | none => rfl
  | some n =>
    dsimp only
    split_ifs <;> rfl

/-- what is read of letters and digits -/
theorem readValue?_alphanum (fuel : Nat) (h : ∀ c ∈ text, c.isAlphanum = true) :
    (∃ rest, text = 't' :: 'r' :: 'u' :: 'e' :: rest ∧ readValue? (fuel + 1) text = some (.flag true, rest)) ∨
      (∃ rest, text = 'f' :: 'a' :: 'l' :: 's' :: 'e' :: rest ∧
        readValue? (fuel + 1) text = some (.flag false, rest)) ∨
      (text ≠ ['t', 'r', 'u', 'e'] ∧ text ≠ ['f', 'a', 'l', 's', 'e'] ∧
        readValue? (fuel + 1) text = some (plain text, [])) := by
  have hdrop : text.dropWhile isBlank = text := by
    cases text with
    | nil => rfl
    | cons c cs => rw [List.dropWhile_cons, isBlank_of_alphanum (h c List.mem_cons_self), if_neg Bool.false_ne_true]
  have hinside : ∀ c ∈ text, (!isSeparator c) = true := fun c hc => by
    rw [isSeparator_of_alphanum (h c hc)]
    rfl
  rw [readValue?.eq_def]
  dsimp only
  rw [hdrop]
  split
  · exact .inl ⟨_, rfl, rfl⟩
  · exact .inr (.inl ⟨_, rfl, rfl⟩)
  · cases h '[' List.mem_cons_self
  · cases h '\x7b' List.mem_cons_self
  · cases h '"' List.mem_cons_self
  · cases h '\x27' List.mem_cons_self
  · rename_i htrue hfalse _ _ _ _
    refine .inr (.inr ⟨fun heq => htrue [] heq, fun heq => hfalse [] heq, ?_⟩)
    rw [List.takeWhile_eq_self_iff.2 hinside, List.dropWhile_eq_nil_iff.2 hinside,
      trim_eq_self fun c hc => trim_blank_of_alphanum (h c hc)]

theorem all_isBlank_of_alphanum (h : ∀ c ∈ text, c.isAlphanum = true) (hne : text ≠ []) :
    ¬ text.all isBlank = true := by
  obtain ⟨c, cs, rfl⟩ := List.exists_cons_of_ne_nil hne
  have hc := isBlank_of_alphanum (h c List.mem_cons_self)
  intro hall
  rw [List.all_eq_true.1 hall c List.mem_cons_self] at hc
  cases hc

theorem setting_eq_text (h : ∀ c ∈ s.toList, c.isAlphanum = true) (htyped : ¬ LooksTyped s) : setting s = .text s := by
  have htrim := trim_eq_self fun c hc => trim_blank_of_alphanum (h c hc)
  rw [setting, htrim]
  rcases readValue?_alphanum (2 * s.toList.length + 1) h with ⟨rest, htext, hread⟩ | ⟨rest, htext, hread⟩ |
    ⟨-, -, hread⟩
  · have hrest : rest ≠ [] := by
      rintro rfl
      exact htyped (.inl (String.toList_injective htext))
    have hblank := all_isBlank_of_alphanum (fun c hc => h c (by simp [htext, hc])) hrest
    simp only [hread, if_neg hblank, String.ofList_toList]
  · have hrest : rest ≠ [] := by
      rintro rfl
      exact htyped (.inr (.inl (String.toList_injective htext)))
    have hblank := all_isBlank_of_alphanum (fun c hc => h c (by simp [htext, hc])) hrest
    simp only [hread, if_neg hblank, String.ofList_toList]
  · simp only [hread, List.all_nil, if_true]
    rw [plain_alphanum h]
    cases hnumber : digitsNumber? s.toList with
    | none => rw [String.ofList_toList]
    | some n =>
      have hlarge : ¬ n < 0x10000000000000000 := fun hn => htyped (.inr (.inr ⟨n, hn, hnumber⟩))
      dsimp only
      rw [if_neg hlarge, String.ofList_toList]

theorem setting_of_looksTyped (h : ∀ c ∈ s.toList, c.isAlphanum = true) (htyped : LooksTyped s) :
    (∃ b, setting s = .flag b) ∨ ∃ n, setting s = .natural n := by
  rcases htyped with rfl | rfl | ⟨n, hn, hnumber⟩
  · exact .inl ⟨true, by cbv⟩
  · exact .inl ⟨false, by cbv⟩
  · refine .inr ⟨n, ?_⟩
    have htrim := trim_eq_self fun c hc => trim_blank_of_alphanum (h c hc)
    rw [setting, htrim]
    rcases readValue?_alphanum (2 * s.toList.length + 1) h with ⟨rest, htext, -⟩ | ⟨rest, htext, -⟩ | ⟨-, -, hread⟩
    · rw [digitsNumber?_eq_none (htext ▸ List.mem_cons_self) (by decide)] at hnumber
      cases hnumber
    · rw [digitsNumber?_eq_none (htext ▸ List.mem_cons_self) (by decide)] at hnumber
      cases hnumber
    · simp only [hread, List.all_nil, if_true]
      rw [plain_alphanum h, hnumber]
      exact if_pos hn

end Variable

namespace Configuration

/-- the variable for the key of the catalog -/
def keyVariable : String := "WARDEN_CATALOG__API_KEY"

theorem path?_keyVariable : Variable.path? variableStart keyVariable = some Field.apiKey.path := by
  decide +kernel

theorem merged_keyVariable (s : String) (h : ¬ (Variable.setting s).IsGroup) :
    Sources.merged { environment := [(keyVariable, s)] } =
      .group [("catalog", .group [("api_key", Variable.setting s)])] := by
  rw [Sources.merged, Sources.fromVariables, Variable.settings]
  simp only [List.foldl_cons, List.foldl_nil, path?_keyVariable]
  simp [Field.path, Field.sectionName, Field.name, Setting.nest, Setting.merge, Setting.mergeEntries, Setting.alter,
    Setting.merge_of_single _ h]

/-- a key that is read as a text is taken -/
theorem load_key_of_text {s : String} (h : Variable.setting s = .text s) :
    load none variableStart [(keyVariable, s)] = .ok { catalog := { apiKey := some s } } := by
  have hfits : ∀ v ∈ [(keyVariable, s)], VariableFits variableStart v := by
    intro v hv
    cases List.mem_singleton.1 hv
    refine variableFits_of_field .apiKey path?_keyVariable (a := some s) ?_
    rw [h]
    rfl
  have hcontent : FileFits (.group []) := ⟨fun f s => nofun, fun f s => nofun⟩
  have hfile : Holds none (.group []) := rfl
  have hgiven : ∀ {α : Type} (f : Field α), given (.group []) variableStart [(keyVariable, s)] f.path =
      if Field.apiKey.path = f.path then some (.text s) else none := by
    intro α f
    rw [given, ← List.nil_append [(keyVariable, s)], Variable.lastValue?_concat, path?_keyVariable]
    by_cases heq : Field.apiKey.path = f.path
    · rw [if_pos heq, if_pos (congrArg some heq), Option.map_some, h]
      rfl
    · rw [if_neg heq, if_neg fun hsome => heq (Option.some.inj hsome)]
      rfl
  have hconfiguration : ofGiven (given (.group []) variableStart [(keyVariable, s)]) =
      ofGiven fun path => if Field.apiKey.path = path then some (.text s) else none := ofGiven_congr hgiven
  rw [load_eq hfile hcontent hfits, hconfiguration]
  rfl

/-- a key that is read as something else is refused; the fault names the field and shows what the key is read as -/
theorem load_key_of_typed {s : String} (h : (∃ b, Variable.setting s = .flag b) ∨ ∃ n, Variable.setting s = .natural n) :
    ∃ place, load none variableStart [(keyVariable, s)] =
      .error (.unfit ["catalog", "api_key"]
        ("invalid type: found " ++ (Variable.setting s).describe ++ ", expected " ++ "a string") place) := by
  have hsingle : ¬ (Variable.setting s).IsGroup := by
    rintro ⟨entries, hentries⟩
    rcases h with ⟨b, h⟩ | ⟨n, h⟩ <;> rw [h] at hentries <;> cases hentries
  have hmerged := merged_keyVariable s hsingle
  have hread : ∃ found, codec.fromJson (Sources.merged { environment := [(keyVariable, s)] }).toJson =
      .error ⟨["catalog", "api_key"], .wrongType found "a string"⟩ := by
    rw [hmerged]
    rcases h with ⟨b, h⟩ | ⟨n, h⟩
    · rw [h]
      exact ⟨.flag b, rfl⟩
    · rw [h]
      exact ⟨.integer n, rfl⟩
  obtain ⟨found, hread⟩ := hread
  have hfind : (Sources.merged { environment := [(keyVariable, s)] }).find? ["catalog", "api_key"] =
      some (Variable.setting s) := by
    rw [hmerged]
    rfl
  refine ⟨Sources.place { environment := [(keyVariable, s)] } ["catalog", "api_key"], ?_⟩
  rw [load, ofSources, hread]
  dsimp only
  rw [hfind]
  rfl

/-- **A key of letters and digits is taken as it is exactly if it does not look like something else than a text.** One
that does refuses the configuration: the fault names the field, and shows what the key is read as. -/
theorem load_key_iff {s : String} (h : ∀ c ∈ s.toList, c.isAlphanum = true) :
    (load none variableStart [(keyVariable, s)] = .ok { catalog := { apiKey := some s } } ↔
      ¬ Variable.LooksTyped s) ∧
    (Variable.LooksTyped s → ∃ place, load none variableStart [(keyVariable, s)] =
      .error (.unfit ["catalog", "api_key"]
        ("invalid type: found " ++ (Variable.setting s).describe ++ ", expected " ++ "a string") place)) := by
  have hrefused := fun htyped => load_key_of_typed (Variable.setting_of_looksTyped h htyped)
  refine ⟨⟨fun hload htyped => ?_, fun htyped => load_key_of_text (Variable.setting_eq_text h htyped)⟩, hrefused⟩
  obtain ⟨place, hload'⟩ := hrefused htyped
  rw [hload] at hload'
  cases hload'

/-- A key of digits and a letter is taken. -/
theorem load_key_mixed :
    (∀ c ∈ "12a".toList, c.isAlphanum = true) ∧
      load none variableStart [(keyVariable, "12a")] = .ok { catalog := { apiKey := some "12a" } } := by
  have halphanum : ∀ c ∈ "12a".toList, c.isAlphanum = true := List.all_eq_true.1 (by decide)
  refine ⟨halphanum, (load_key_iff halphanum).1.2 ?_⟩
  rintro (h | h | ⟨n, -, h⟩)
  · exact absurd h (by decide)
  · exact absurd h (by decide)
  · have hnone : Variable.digitsNumber? "12a".toList = none := by decide
    rw [hnone] at h
    cases h

/-- A key of digits is refused. -/
theorem load_key_digits :
    (∀ c ∈ "12".toList, c.isAlphanum = true) ∧ "12" ≠ "" ∧
      load none variableStart [(keyVariable, "12")] ≠ .ok { catalog := { apiKey := some "12" } } := by
  refine ⟨List.all_eq_true.1 (by decide), by decide, fun hload => ?_⟩
  have htyped : Variable.setting "12" = .natural 12 := by cbv
  obtain ⟨place, hrefused⟩ := load_key_of_typed (.inr ⟨12, htyped⟩)
  rw [hload] at hrefused
  cases hrefused

end Configuration

end ToolGateway
