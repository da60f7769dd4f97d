import Mathlib.Tactic
import ToolGateway.Text.Utf16
import ToolGateway.Proofs.Bytes.Utf8

/-!
The order of texts by UTF-16 units is a linear order, and not the one of their octets.

- `units_injective`: a text is known from its code units, since no unit of a single is a surrogate.
- `compare_eq_eq`, `compare_swap`, `compare_isLE_trans`: `compare` is the lexicographic comparison of the units, so it
  finds only equal texts equal, it is antisymmetric and it is transitive.
- `compare_of_differAt`: the first characters that differ decide, and they decide by their code points, unless they are
  `Crossed`: a pair of surrogates comes before a single unit above the surrogates.
- `compare_lt_iff_encode_lt`: so crossed characters are all that tells this order from the order of octets.
-/

namespace ToolGateway.Utf16

/-! ## Code units -/

theorem toNat_not_surrogate (c : Char) : c.toNat < 0xD800 ∨ 0xE000 ≤ c.toNat ∧ c.toNat < 0x110000 := by
  have := c.valid
  simp only [UInt32.isValidChar, Nat.isValidChar] at this
  simp only [Char.toNat]
  omega

/-- the units of a character end by themselves -/
theorem unitsOf_append_inj {c d : Char} {us vs : List Nat} (h : unitsOf c ++ us = unitsOf d ++ vs) :
    c = d ∧ us = vs := by
  have hc := toNat_not_surrogate c
  have hd := toNat_not_surrogate d
  unfold unitsOf at h
  simp only at h
  have hsame : c.toNat = d.toNat ∧ us = vs := by
    split_ifs at h <;>
      simp only [List.cons_append, List.nil_append, List.cons.injEq] at h <;>
      refine ⟨by omega, ?_⟩
    · exact h.2
    · omega
    · omega
    · exact h.2.2
  exact ⟨Char.toNat_inj.1 hsame.1, hsame.2⟩

theorem unitsOf_ne_nil (c : Char) : unitsOf c ≠ [] := by
  unfold unitsOf
  simp only
  split_ifs <;> simp

theorem flatMap_unitsOf_injective {cs ds : List Char} (h : cs.flatMap unitsOf = ds.flatMap unitsOf) : cs = ds := by
  induction cs generalizing ds with
  | nil =>
    cases ds with
    | nil => rfl
    | cons d ds => simp [unitsOf_ne_nil] at h
  | cons c cs ih =>
    cases ds with
    | nil => simp [unitsOf_ne_nil] at h
    | cons d ds =>
      rw [List.flatMap_cons, List.flatMap_cons] at h
      obtain ⟨rfl, hrest⟩ := unitsOf_append_inj h
      rw [ih hrest]

theorem units_injective {a b : String} (h : units a = units b) : a = b :=
  String.toList_inj.1 (flatMap_unitsOf_injective h)

/-! ## The order -/

theorem compareUnits_eq_compare (us vs : List Nat) : compareUnits us vs = Ord.compare us vs := by
  induction us generalizing vs with
  | nil => cases vs <;> rfl
  | cons u us ih =>
    cases vs with
    | nil => rfl
    | cons v vs =>
      rw [List.compare_cons_cons, compareUnits, ih]
      split_ifs with hlt hgt
      · rw [Nat.compare_eq_lt.2 hlt]
        rfl
      · rw [Nat.compare_eq_gt.2 hgt]
        rfl
      · rw [Nat.compare_eq_eq.2 (by omega)]
        rfl

/-- only equal texts compare equal -/
theorem compare_eq_eq {a b : String} : compare a b = .eq ↔ a = b := by
  rw [compare, compareUnits_eq_compare, Std.LawfulEqOrd.compare_eq_iff_eq]
  exact ⟨units_injective, congrArg units⟩

theorem compare_swap (a b : String) : (compare a b).swap = compare b a := by
  simp only [compare, compareUnits_eq_compare]
  exact Std.OrientedCmp.eq_swap.symm

theorem compare_isLE_trans {a b c : String} (hab : (compare a b).isLE) (hbc : (compare b c).isLE) :
    (compare a c).isLE := by
  simp only [compare, compareUnits_eq_compare] at *
  exact Std.TransCmp.isLE_trans hab hbc

theorem compare_isLE_total (a b : String) : (compare a b).isLE ∨ (compare b a).isLE := by
  rw [← compare_swap a b]
  cases compare a b <;> simp

theorem compare_isLE_antisymm {a b : String} (hab : (compare a b).isLE) (hba : (compare b a).isLE) : a = b := by
  rw [← compare_swap a b] at hba
  rw [← compare_eq_eq]
  cases h : compare a b <;> simp_all

/-! ## Where two texts part -/

section Parting

variable {a b : String} {x y : Char}

/-- one of the characters is a pair of surrogates, the other a single unit above all surrogates -/
def Crossed (x y : Char) : Prop :=
  (0x10000 ≤ x.toNat ∧ 0xE000 ≤ y.toNat ∧ y.toNat < 0x10000) ∨
    (0x10000 ≤ y.toNat ∧ 0xE000 ≤ x.toNat ∧ x.toNat < 0x10000)

instance (x y : Char) : Decidable (Crossed x y) :=
  inferInstanceAs (Decidable (_ ∨ _))

/-- the texts are the same up to a place where one has `x` and the other has `y` -/
def DifferAt (a b : String) (x y : Char) : Prop :=
  x ≠ y ∧ ∃ common u v, a.toList = common ++ x :: u ∧ b.toList = common ++ y :: v

theorem crossed_comm : Crossed x y ↔ Crossed y x :=
  or_comm

theorem DifferAt.symm (h : DifferAt a b x y) : DifferAt b a y x := by
  obtain ⟨hne, common, u, v, ha, hb⟩ := h
  exact ⟨hne.symm, common, v, u, hb, ha⟩

theorem prefix_or_part (cs ds : List Char) :
    cs <+: ds ∨ ds <+: cs ∨ ∃ x y, x ≠ y ∧ ∃ common u v, cs = common ++ x :: u ∧ ds = common ++ y :: v := by
  induction cs generalizing ds with
  | nil => exact .inl List.nil_prefix
  | cons c cs ih =>
    cases ds with
    | nil => exact .inr (.inl List.nil_prefix)
    | cons d ds =>
      by_cases hcd : c = d
      · subst hcd
        rcases ih ds with h | h | ⟨x, y, hne, common, u, v, rfl, rfl⟩
        · exact .inl (List.cons_prefix_cons.2 ⟨rfl, h⟩)
        · exact .inr (.inl (List.cons_prefix_cons.2 ⟨rfl, h⟩))
        · exact .inr (.inr ⟨x, y, hne, c :: common, u, v, rfl, rfl⟩)
      · exact .inr (.inr ⟨c, d, hcd, [], cs, ds, rfl, rfl⟩)

/-- of two texts one goes on where the other ends, or they part at some characters -/
theorem prefix_or_differAt (a b : String) :
    a.toList <+: b.toList ∨ b.toList <+: a.toList ∨ ∃ x y, DifferAt a b x y :=
  prefix_or_part a.toList b.toList

@[simp] theorem compareUnits_append (common us vs : List Nat) :
    compareUnits (common ++ us) (common ++ vs) = compareUnits us vs := by
  induction common with
  | nil => rfl
  | cons n common ih => simp [compareUnits, ih]

/-- a text that is continued goes on with some character -/
theorem exists_continuation (h : a.toList <+: b.toList) (hne : a ≠ b) :
    ∃ c rest, b.toList = a.toList ++ c :: rest := by
  obtain ⟨rest, hrest⟩ := h
  cases rest with
  | nil =>
    rw [List.append_nil] at hrest
    exact absurd (String.toList_inj.1 hrest) hne
  | cons c rest => exact ⟨c, rest, hrest.symm⟩

/-- what ends first is less -/
theorem compare_of_shorter (h : a.toList <+: b.toList) (hne : a ≠ b) : compare a b = .lt := by
  obtain ⟨c, rest, hb⟩ := exists_continuation h hne
  obtain ⟨n, more, hc⟩ := List.exists_cons_of_ne_nil (unitsOf_ne_nil c)
  have hunits : units b = units a ++ n :: (more ++ rest.flatMap unitsOf) := by
    rw [units, hb, List.flatMap_append, List.flatMap_cons, hc]
    rfl
  have happend := compareUnits_append (units a) [] (n :: (more ++ rest.flatMap unitsOf))
  rw [List.append_nil, ← hunits] at happend
  exact happend

/-- the character whose units come first: the one with the lower code point, unless the two are crossed -/
def Before (x y : Char) : Prop :=
  (Crossed x y ∧ y.toNat < x.toNat) ∨ (¬ Crossed x y ∧ x.toNat < y.toNat)

theorem before_or_before (h : x ≠ y) : Before x y ∨ Before y x := by
  have hne : x.toNat ≠ y.toNat := Char.toNat_inj.ne.2 h
  unfold Before Crossed
  omega

/-- the units of two characters decide, whatever follows them -/
theorem compareUnits_of_before (h : Before x y) (us vs : List Nat) :
    compareUnits (unitsOf x ++ us) (unitsOf y ++ vs) = .lt := by
  have hx := toNat_not_surrogate x
  have hy := toNat_not_surrogate y
  unfold Before Crossed at h
  unfold unitsOf
  simp only
  split_ifs with hsingle hsingle' hsingle'
  · have hlt : x.toNat < y.toNat := by omega
    simp [compareUnits, hlt]
  · -- the first unit of `y` is a surrogate, and `x` is below all of them
    have hlt : x.toNat < 0xD800 + (y.toNat - 0x10000) / 0x400 := by omega
    simp [compareUnits, hlt]
  · have hlt : 0xD800 + (x.toNat - 0x10000) / 0x400 < y.toNat := by omega
    simp [compareUnits, hlt]
  · -- two pairs: the second units decide where the first are the same
    have hlt : x.toNat < y.toNat := by omega
    simp only [List.cons_append, compareUnits]
    split_ifs <;> first | rfl | omega

theorem compare_of_before (h : DifferAt a b x y) (hbefore : Before x y) :
    compare a b = .lt := by
  obtain ⟨-, common, u, v, ha, hb⟩ := h
  have hunits : ∀ (c : Char) (rest : List Char),
      (common ++ c :: rest).flatMap unitsOf = common.flatMap unitsOf ++ (unitsOf c ++ rest.flatMap unitsOf) := by
    simp
  rw [compare, units, units, ha, hb, hunits, hunits, compareUnits_append, compareUnits_of_before hbefore]

/-- **The first characters that differ decide**, by their code points unless they are crossed. -/
theorem compare_of_differAt (h : DifferAt a b x y) :
    compare a b = if Crossed x y then Ord.compare y.toNat x.toNat else Ord.compare x.toNat y.toNat := by
  rcases before_or_before h.1 with hbefore | hbefore
  · rw [compare_of_before h hbefore]
    rcases hbefore with ⟨hcrossed, hlt⟩ | ⟨hcrossed, hlt⟩
    · rw [if_pos hcrossed, Nat.compare_eq_lt.2 hlt]
    · rw [if_neg hcrossed, Nat.compare_eq_lt.2 hlt]
  · rw [← compare_swap b a, compare_of_before h.symm hbefore]
    rcases hbefore with ⟨hcrossed, hlt⟩ | ⟨hcrossed, hlt⟩
    · rw [if_pos (crossed_comm.1 hcrossed), Nat.compare_eq_gt.2 hlt]
      rfl
    · rw [if_neg (mt crossed_comm.1 hcrossed), Nat.compare_eq_gt.2 hlt]
      rfl

/-! ## Against the order of octets -/

theorem lt_of_shorter (h : a.toList <+: b.toList) (hne : a ≠ b) : a < b := by
  obtain ⟨c, rest, hb⟩ := exists_continuation h hne
  have happend : a.toList ++ [] < a.toList ++ c :: rest := List.append_left_lt (List.nil_lt_cons c rest)
  rwa [List.append_nil, ← hb] at happend

theorem lt_of_differAt (h : DifferAt a b x y) (hlt : x.toNat < y.toNat) : a < b := by
  obtain ⟨-, common, u, v, ha, hb⟩ := h
  rw [String.lt_iff, ha, hb]
  exact List.append_left_lt (List.cons_lt_cons_iff.2 (.inl hlt))

theorem lt_iff_of_differAt (h : DifferAt a b x y) : a < b ↔ x.toNat < y.toNat := by
  refine ⟨fun hab => ?_, lt_of_differAt h⟩
  by_contra hle
  have hne : x.toNat ≠ y.toNat := Char.toNat_inj.ne.2 h.1
  have hba : b < a := lt_of_differAt h.symm (by omega)
  exact Std.lt_irrefl (Std.lt_trans hab hba)

/-- **The order of units is that of octets, except for texts that part at crossed characters.** -/
theorem compare_lt_iff_encode_lt :
    (compare a b = .lt ↔ Utf8.encode a < Utf8.encode b) ↔ ¬ ∃ x y, DifferAt a b x y ∧ Crossed x y := by
  rw [Utf8.encode_lt_encode]
  constructor
  · rintro h ⟨x, y, hdiffer, hcrossed⟩
    rw [compare_of_differAt hdiffer, if_pos hcrossed, Nat.compare_eq_lt, lt_iff_of_differAt hdiffer] at h
    have hne : x.toNat ≠ y.toNat := Char.toNat_inj.ne.2 hdiffer.1
    omega
  · intro h
    by_cases hab : a = b
    · subst hab
      rw [compare_eq_eq.2 rfl]
      exact iff_of_false nofun Std.lt_irrefl
    · rcases prefix_or_differAt a b with hprefix | hprefix | ⟨x, y, hdiffer⟩
      · exact iff_of_true (compare_of_shorter hprefix hab) (lt_of_shorter hprefix hab)
      · have hba := lt_of_shorter hprefix (Ne.symm hab)
        rw [← compare_swap b a, compare_of_shorter hprefix (Ne.symm hab)]
        exact iff_of_false nofun fun hlt => Std.lt_irrefl (Std.lt_trans hlt hba)
      · rw [compare_of_differAt hdiffer, if_neg fun hcrossed => h ⟨x, y, hdiffer, hcrossed⟩, Nat.compare_eq_lt,
          lt_iff_of_differAt hdiffer]

end Parting

/-! ## Main result -/

/-- what there is to say of the order of texts by UTF-16 units -/
structure Orders (cmp : String → String → Ordering) : Prop where
  /-- only a text is equal to itself -/
  eq_iff : ∀ a b, cmp a b = .eq ↔ a = b
  swap : ∀ a b, cmp b a = (cmp a b).swap
  trans : ∀ a b c, (cmp a b).isLE → (cmp b c).isLE → (cmp a c).isLE
  /-- what ends first is less -/
  shorter : ∀ a b, a.toList <+: b.toList → a ≠ b → cmp a b = .lt
  /-- the first characters that differ decide, by their code points or the other way round -/
  differ : ∀ a b x y, DifferAt a b x y →
    cmp a b = if Crossed x y then Ord.compare y.toNat x.toNat else Ord.compare x.toNat y.toNat
  /-- so it is the order of octets up to crossed characters, and differs from it there -/
  octets : ∀ a b, (cmp a b = .lt ↔ Utf8.encode a < Utf8.encode b) ↔ ¬ ∃ x y, DifferAt a b x y ∧ Crossed x y

/-- **Comparing unit by unit is a linear order of texts**, by code points except at crossed characters. -/
theorem orders_compare : Orders compare where
  eq_iff _ _ := compare_eq_eq
  swap a b := (compare_swap a b).symm
  trans _ _ _ := compare_isLE_trans
  shorter _ _ := compare_of_shorter
  differ _ _ _ _ := compare_of_differAt
  octets _ _ := compare_lt_iff_encode_lt

end ToolGateway.Utf16
