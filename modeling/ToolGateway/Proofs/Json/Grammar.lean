import ToolGateway.Proofs.Json.Canonical

/-!
The canonical form is a JSON text.

The grammar of JSON texts (RFC 8259) is written down here without the reader: `IsNumber`, `IsString` and `IsValue` say
which characters may stand in a number, a string and a value. Blanks between the signs are left out, since the
canonical form has none.

- `isNumber_chars`: the text of a number, an integer of any size or a double, is a number of the grammar.
- `isString_quotedChars`: a text in quotes is a string of the grammar.
- `isValue_canonicalChars`: the canonical form of a value is a value of the grammar, at any depth.
-/

namespace ToolGateway

open Cursor

namespace Json.Grammar

/-! ## The grammar -/

/-- one digit or more -/
def IsDigits (text : List Char) : Prop :=
  text ≠ [] ∧ ∀ d ∈ text, d.isDigit = true

/-- the part of a number behind its point, with the point -/
inductive IsFraction : List Char → Prop
  | absent : IsFraction []
  | present {digits : List Char} (h : IsDigits digits) : IsFraction ('.' :: digits)

/-- the exponent of a number, with its letter and its sign -/
inductive IsExponent : List Char → Prop
  | absent : IsExponent []
  | present {letter : Char} {sign digits : List Char} (hl : letter = 'e' ∨ letter = 'E')
      (hs : sign = [] ∨ sign = ['+'] ∨ sign = ['-']) (h : IsDigits digits) : IsExponent (letter :: (sign ++ digits))

/-- a number without its sign -/
inductive IsMagnitude : List Char → Prop
  | mk {whole fraction exponent : List Char} (hw : WholeDigits whole) (hf : IsFraction fraction)
      (he : IsExponent exponent) : IsMagnitude (whole ++ (fraction ++ exponent))

/-- a number -/
inductive IsNumber : List Char → Prop
  | plain {text : List Char} (h : IsMagnitude text) : IsNumber text
  | signed {text : List Char} (h : IsMagnitude text) : IsNumber ('-' :: text)

/-- a digit in base sixteen, of either case -/
def IsHexDigit (c : Char) : Prop :=
  c.isDigit = true ∨ ('a' ≤ c ∧ c ≤ 'f') ∨ ('A' ≤ c ∧ c ≤ 'F')

instance (c : Char) : Decidable (IsHexDigit c) :=
  inferInstanceAs (Decidable (_ ∨ _))

/-- what stands for one character, or for half a pair of surrogates, in a string -/
inductive IsCharacter : List Char → Prop
  | plain {c : Char} (hcontrol : 0x20 ≤ c.toNat) (hquote : c ≠ '"') (hback : c ≠ '\\') : IsCharacter [c]
  | letter {c : Char} (h : c ∈ ['"', '\\', '/', 'b', 'f', 'n', 'r', 't']) : IsCharacter ['\\', c]
  | unit {p q r s : Char} (hp : IsHexDigit p) (hq : IsHexDigit q) (hr : IsHexDigit r) (hs : IsHexDigit s) :
      IsCharacter ['\\', 'u', p, q, r, s]

/-- a string, with its quotes -/
inductive IsString : List Char → Prop
  | mk {pieces : List (List Char)} (h : ∀ piece ∈ pieces, IsCharacter piece) :
      IsString ('"' :: (pieces.flatten ++ ['"']))

/-- a value without blanks between its signs -/
inductive IsValue : List Char → Prop
  | null : IsValue ['n', 'u', 'l', 'l']
  | true : IsValue ['t', 'r', 'u', 'e']
  | false : IsValue ['f', 'a', 'l', 's', 'e']
  | number {text : List Char} (h : IsNumber text) : IsValue text
  | string {text : List Char} (h : IsString text) : IsValue text
  | array {items : List (List Char)} (h : ∀ item ∈ items, IsValue item) :
      IsValue ('[' :: ([','].intercalate items ++ [']']))
  | object {members : List (List Char × List Char)} (hnames : ∀ m ∈ members, IsString m.1)
      (hvalues : ∀ m ∈ members, IsValue m.2) :
      IsValue ('\x7b' :: ([','].intercalate (members.map fun m => m.1 ++ ':' :: m.2) ++ ['\x7d']))

/-! ## Numbers -/

variable {whole fraction : List Char}

theorem isDigits_toDigits (n : Nat) : IsDigits (Nat.toDigits 10 n) :=
  ⟨Nat.toDigits_ne_nil, toDigits_isDigit n⟩

/-- whole digits and digits behind the point -/
theorem isMagnitude_point (hw : WholeDigits whole) (hf : IsDigits fraction) :
    IsMagnitude (whole ++ '.' :: fraction) := by
  have h := IsMagnitude.mk hw (.present hf) .absent
  rwa [List.append_nil] at h

theorem isMagnitude_whole (hw : WholeDigits whole) : IsMagnitude whole := by
  have h := IsMagnitude.mk hw .absent .absent
  rwa [List.append_nil, List.append_nil] at h

theorem isMagnitude_positional {layout : Layout} {n : Nat} {lead : Int} (hzero : n = 0 → lead = 0) :
    IsMagnitude (layout.positional (Nat.toDigits 10 n) lead) := by
  obtain ⟨hne, hall⟩ := isDigits_toDigits n
  have hpos := List.length_pos_iff.2 hne
  have hfill : n = 0 → lead.toNat + 1 - (Nat.toDigits 10 n).length = 0 := by
    intro h
    rw [hzero h]
    exact Nat.sub_eq_zero_of_le hpos
  unfold Layout.positional
  simp only
  split_ifs with hlead hlen hpoint
  · -- the digits stand behind the point
    refine isMagnitude_point ⟨by simp, .inl rfl⟩ ⟨fun h => hne (List.append_eq_nil_iff.1 h).2, fun d hd => ?_⟩
    exact (List.mem_append.1 hd).elim isDigit_of_mem_replicate (hall d)
  · exact isMagnitude_point (wholeDigits_filled hfill) ⟨by simp, by simp⟩
  · rw [List.append_nil]
    exact isMagnitude_whole (wholeDigits_filled hfill)
  · -- the point stands inside the digits
    refine isMagnitude_point (wholeDigits_take (by omega)) ⟨fun h => ?_, fun d hd => hall d (List.mem_of_mem_drop hd)⟩
    have := List.drop_eq_nil_iff.1 h
    omega

theorem isExponent_signed (lead : Int) :
    IsExponent ('e' :: ((if lead < 0 then ['-'] else ['+']) ++ Nat.toDigits 10 lead.natAbs)) := by
  refine .present (.inl rfl) ?_ (isDigits_toDigits _)
  split_ifs
  · exact .inr (.inr rfl)
  · exact .inr (.inl rfl)

theorem isMagnitude_scientific (n : Nat) (lead : Int) : IsMagnitude (Layout.scientific (Nat.toDigits 10 n) lead) := by
  have hexponent := isExponent_signed lead
  have hfirst : WholeDigits ((Nat.toDigits 10 n).take 1) := wholeDigits_take (by decide)
  obtain ⟨hne, hall⟩ := isDigits_toDigits n
  unfold Layout.scientific
  generalize Nat.toDigits 10 n = digits at *
  match digits with
  | [] => exact absurd rfl hne
  | [d] => exact .mk hfirst .absent hexponent
  | d :: e :: rest =>
    exact .mk hfirst (.present ⟨List.cons_ne_nil e rest, fun a ha => hall a (List.mem_cons_of_mem _ ha)⟩) hexponent

theorem isMagnitude_body (n : Number) : IsMagnitude n.body := by
  cases n with
  | int i => exact isMagnitude_whole (wholeDigits_toDigits _)
  | real x =>
    unfold Number.body Layout.body
    simp only
    split_ifs
    · refine isMagnitude_positional fun h0 => ?_
      rw [Binary64.shortest_eq_zero h0]
      rfl
    · exact isMagnitude_scientific _ _

/-- **The text of a number is a number of the grammar.** -/
theorem isNumber_chars (n : Number) : IsNumber n.chars := by
  rw [Number.chars_eq]
  split_ifs
  · exact .signed (isMagnitude_body n)
  · exact .plain (isMagnitude_body n)

/-! ## Strings -/

theorem isHexDigit_digit {n : Nat} (h : n < 16) : IsHexDigit (Hex.digit n) := by
  interval_cases n <;> decide

theorem isCharacter_escapeChar (c : Char) : IsCharacter (escapeChar c) := by
  unfold escapeChar
  split_ifs with hquote hback _ _ _ _ _ hcontrol
  · exact .letter (by decide)
  · exact .letter (by decide)
  · exact .letter (by decide)
  · exact .letter (by decide)
  · exact .letter (by decide)
  · exact .letter (by decide)
  · exact .letter (by decide)
  · have hhigh : c.toNat / 16 < 16 := by omega
    exact .unit (by decide) (by decide) (isHexDigit_digit hhigh) (isHexDigit_digit (Nat.mod_lt _ (by decide)))
  · exact .plain (Nat.le_of_not_lt hcontrol) hquote hback

/-- **A text in quotes is a string of the grammar.** -/
theorem isString_quotedChars (s : String) : IsString (quotedChars s) := by
  have hpieces : ∀ piece ∈ s.toList.map escapeChar, IsCharacter piece := by
    intro piece hpiece
    obtain ⟨c, -, rfl⟩ := List.mem_map.1 hpiece
    exact isCharacter_escapeChar c
  exact .mk hpieces

/-! ## Values -/

theorem joinItems_eq_intercalate (texts : List (List Char)) : joinItems texts = [','].intercalate texts := by
  induction texts with
  | nil => rfl
  | cons text rest ih =>
    cases rest with
    | nil => simp [joinItems]
    | cons next rest =>
      rw [joinItems, ih, List.intercalate_cons_cons, List.append_assoc]
      · rfl
      · intro h
        cases h

/-- **The canonical form of a value is a JSON text**, however deep the value is. -/
theorem isValue_canonicalChars (j : Json) : IsValue (canonicalChars j) := by
  induction j with
  | null => exact .null
  | bool b =>
    cases b
    · exact .false
    · exact .true
  | number n => exact .number (isNumber_chars _)
  | string s => exact .string (isString_quotedChars s)
  | array items ih =>
    rw [canonicalChars, canonicalItems_eq_map, joinItems_eq_intercalate]
    refine .array fun item hitem => ?_
    obtain ⟨j, hj, rfl⟩ := List.mem_map.1 hitem
    exact ih j hj
  | object members ih =>
    rw [canonicalChars_object, joinMembers_eq, joinItems_eq_intercalate]
    -- the members of the text are those of the value, in another order
    let parts := (sortByUnits members).map fun m => (quotedChars m.1, canonicalChars m.2)
    have hparts : ∀ part ∈ parts, IsString part.1 ∧ IsValue part.2 := by
      intro part hpart
      obtain ⟨m, hm, rfl⟩ := List.mem_map.1 hpart
      exact ⟨isString_quotedChars m.1, ih m ((sortByUnits_perm members).mem_iff.1 hm)⟩
    have h := IsValue.object (fun part hpart => (hparts part hpart).1) (fun part hpart => (hparts part hpart).2)
    rw [List.map_map] at h
    rw [List.map_map]
    exact h

end Json.Grammar

end ToolGateway
