import ToolGateway.Proofs.Json.Shape
import ToolGateway.Proofs.Number.Rounding
import ToolGateway.Json.Canonical

/-!
When two JSON values mean the same.

`Number.Alike` and `Json.Alike` say it without the canonical form: numbers are alike when they are one number or name
one integer, a double naming an integer only below 2^53 in magnitude; objects are alike when their members are, in some
order. A stamp is meant to be blind to exactly this.

- `collapse_eq_collapse`: the collapsed form of a number tells it up to likeness.
- `alike_array`, `alike_object`: likeness of containers through `List.Forall₂`.
-/

namespace ToolGateway

/-! ## Numbers -/

namespace Number

/-- the number is this integer: an integer is itself, a double is the integer that it equals if that is below 2^53 in
magnitude -/
def Names : Number → Int → Prop
  | int j, i => j = i
  | real x, i => x.signedUnits = i * Binary64.one ∧ i.natAbs < 0x20000000000000

/-- the numbers are the same, or both are the same integer -/
def Alike (m n : Number) : Prop :=
  m = n ∨ ∃ i, m.Names i ∧ n.Names i

theorem truncate_eq_iff {x : Binary64} {i : Int} :
    x.isIntegral = true ∧ x.truncate = i ↔ x.signedUnits = i * Binary64.one := by
  have hone : 0 < Binary64.one := Binary64.one_pos
  unfold Binary64.isIntegral Binary64.truncate Binary64.signedUnits
  generalize Binary64.one = one at hone
  generalize x.units = units
  simp only [decide_eq_true_eq]
  constructor
  · rintro ⟨hdvd, rfl⟩
    obtain ⟨q, rfl⟩ := Nat.dvd_of_mod_eq_zero hdvd
    rw [Nat.mul_div_cancel_left _ hone, Nat.mul_comm]
    split_ifs <;> simp
  · intro h
    have hunits : units = i.natAbs * one := by
      have := congrArg Int.natAbs h
      rw [Int.natAbs_mul, Int.natAbs_natCast] at this
      rw [← this]
      split_ifs <;> simp
    have hone' : (0 : Int) < one := by exact_mod_cast hone
    rw [hunits, Nat.mul_div_cancel _ hone]
    refine ⟨Nat.mul_mod_left _ _, ?_⟩
    split_ifs at h ⊢ with hneg
    · have : i * one ≤ 0 := by omega
      have : i ≤ 0 := by
        by_contra hi
        have := Int.mul_pos (by omega : 0 < i) hone'
        omega
      omega
    · have : 0 ≤ i * one := by omega
      have : 0 ≤ i := by
        by_contra hi
        have := Int.mul_neg_of_neg_of_pos (by omega : i < 0) hone'
        omega
      omega

/-- a number is an integer exactly when it collapses to it -/
theorem names_iff {n : Number} {i : Int} : n.Names i ↔ n.collapse = int i := by
  cases n with
  | int j => simp [Names, collapse]
  | real x =>
    rw [Names, collapse, ← truncate_eq_iff]
    split_ifs with h
    · simp only [Bool.and_eq_true, decide_eq_true_eq] at h
      simp only [int.injEq]
      exact ⟨fun ⟨hi, _⟩ => hi.2, fun hi => ⟨⟨h.1, hi⟩, hi ▸ h.2⟩⟩
    · simp only [Bool.and_eq_true, decide_eq_true_eq, not_and] at h
      simp only [iff_false]
      rintro ⟨⟨hint, rfl⟩, hlt⟩
      exact h hint hlt

theorem collapse_cases (n : Number) : (∃ i, n.collapse = int i) ∨ ∃ x, n = real x ∧ n.collapse = real x := by
  cases n with
  | int j => exact .inl ⟨j, rfl⟩
  | real x =>
    rw [collapse]
    split_ifs
    · exact .inl ⟨_, rfl⟩
    · exact .inr ⟨x, rfl, rfl⟩

/-- **The collapsed form of a number tells it up to likeness.** -/
theorem collapse_eq_collapse {m n : Number} : m.collapse = n.collapse ↔ m.Alike n := by
  constructor
  · intro h
    rcases m.collapse_cases with ⟨i, hm⟩ | ⟨x, rfl, hm⟩
    · exact .inr ⟨i, names_iff.2 hm, names_iff.2 (h ▸ hm)⟩
    · rcases n.collapse_cases with ⟨j, hn⟩ | ⟨y, rfl, hn⟩
      · rw [hm, hn] at h
        cases h
      · rw [hm, hn] at h
        exact .inl h
  · rintro (rfl | ⟨i, hm, hn⟩)
    · rfl
    · rw [names_iff.1 hm, names_iff.1 hn]

end Number

/-! ## Values -/

namespace Json

mutual

/-- the values are equal up to the order of members and to likeness of numbers -/
def Alike : Json → Json → Prop
  | null, null => True
  | bool a, bool b => a = b
  | number m, number n => m.Alike n
  | string s, string t => s = t
  | array us, array vs => AlikeItems us vs
  | object us, object vs => ∃ ws : List (String × Json), AlikeMembers us ws ∧ ws.Perm vs
  | _, _ => False

/-- `Alike`, item by item -/
def AlikeItems : List Json → List Json → Prop
  | [], [] => True
  | u :: us, v :: vs => Alike u v ∧ AlikeItems us vs
  | _, _ => False

/-- the same names in the same order, with values that are alike -/
def AlikeMembers : List (String × Json) → List (String × Json) → Prop
  | [], [] => True
  | (k, u) :: us, (l, v) :: vs => k = l ∧ Alike u v ∧ AlikeMembers us vs
  | _, _ => False

end

/-- members of one name with values that are alike -/
def AlikeMember (a b : String × Json) : Prop :=
  a.1 = b.1 ∧ a.2.Alike b.2

theorem alikeItems_iff {us vs : List Json} : AlikeItems us vs ↔ List.Forall₂ Alike us vs := by
  induction us generalizing vs with
  | nil => cases vs <;> simp [AlikeItems]
  | cons u us ih => cases vs <;> simp [AlikeItems, ih]

theorem alikeMembers_iff {us vs : List (String × Json)} :
    AlikeMembers us vs ↔ List.Forall₂ AlikeMember us vs := by
  induction us generalizing vs with
  | nil => cases vs <;> simp [AlikeMembers]
  | cons u us ih => cases vs <;> simp [AlikeMembers, AlikeMember, ih, and_assoc]

@[simp] theorem alike_array {us vs : List Json} : Alike (array us) (array vs) ↔ List.Forall₂ Alike us vs := by
  rw [Alike, alikeItems_iff]

@[simp] theorem alike_object {us vs : List (String × Json)} :
    Alike (object us) (object vs) ↔ ∃ ws : List (String × Json), List.Forall₂ AlikeMember us ws ∧ ws.Perm vs := by
  simp only [Alike, alikeMembers_iff]

/-- no object in the value, at any level, has two members of one name -/
def HasDistinctNames : Json → Prop :=
  Everywhere fun j => ∀ members, j = object members → (members.map (·.1)).Nodup

theorem hasDistinctNames_array {items : List Json} :
    HasDistinctNames (array items) ↔ ∀ j ∈ items, HasDistinctNames j := by
  simp [HasDistinctNames]

theorem hasDistinctNames_object {members : List (String × Json)} :
    HasDistinctNames (object members) ↔
      (members.map (·.1)).Nodup ∧ ∀ m ∈ members, HasDistinctNames m.2 := by
  simp [HasDistinctNames]

end Json

end ToolGateway
