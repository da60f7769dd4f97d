import ToolGateway.Proofs.Number.Rounding

/-!
The shortest decimal of a double reads back as it.

`covers_shortest`: whichever count of digits the search stops at, the decimal lies in the interval of the double. It
needs no law on where the search starts.
-/

namespace ToolGateway.Binary64

theorem covers_of_withDigits? {x : Binary64} {lead : Int} {count : Nat} {d : Decimal}
    (h : withDigits? x lead count = some d) : x.Covers d := by
  unfold withDigits? at h
  simp only [Nat.mul_assoc] at h
  split_ifs at h with hboth hnear hlow hhigh
  · cases h
    exact (Bool.and_eq_true_iff.1 hboth).1
  · cases h
    exact (Bool.and_eq_true_iff.1 hboth).2
  · cases h
    exact hlow
  · cases h
    exact hhigh

/-- the magnitude lies in the interval of the double -/
theorem holds_units (x : Binary64) : x.interval.holds (4 * x.units) 1 = true := by
  have hscale : 0 < 2 ^ x.scale := Nat.two_pow_pos _
  refine holds_iff.2 ?_
  simp only [interval, Nat.mul_one, Nat.shiftLeft_eq, one_mul, decide_eq_false_iff_not]
  refine ⟨⟨Nat.sub_le _ _, by omega⟩, fun hodd => ⟨?_, by omega⟩⟩
  have hpos : 0 < x.units := by
    rw [units, Nat.shiftLeft_eq]
    exact Nat.mul_pos (by omega) hscale
  split_ifs <;> omega

/-- so does it as a decimal, with as many places as one has halvings in units -/
theorem holds_places (x : Binary64) {n k : Nat} (hk : k = 2 ^ n) :
    x.interval.holds (4 * (x.units * Nat.pow 5 n * (1 * k))) (Nat.pow 10 n) = true := by
  have hten : Nat.pow 5 n * 2 ^ n = Nat.pow 10 n := (Nat.mul_pow 5 2 n).symm
  have hnum : 4 * (x.units * Nat.pow 5 n * (1 * k)) = 4 * x.units * Nat.pow 10 n := by
    rw [hk, Nat.one_mul, Nat.mul_assoc, hten, Nat.mul_assoc]
  have hpos : 0 < Nat.pow 10 n := Nat.pow_pos (show 0 < 10 by decide)
  have hholds := (holds_mul hpos).trans x.holds_units
  rw [Nat.one_mul] at hholds
  rwa [hnum]

theorem covers_exactDecimal (x : Binary64) : x.Covers x.exactDecimal := by
  have hnegative : ¬ (0 : Int) ≤ -1074 := by decide
  have hplaces : (-(-1074 : Int)).toNat = 1074 := rfl
  have hone := one_eq
  unfold Covers exactDecimal
  simp only [tenPower, if_neg hnegative, hplaces]
  generalize (1074 : Nat) = n at hone ⊢
  exact x.holds_places hone

theorem covers_trimZeros {x : Binary64} (fuel : Nat) (d : Decimal) : x.Covers (trimZeros fuel d) ↔ x.Covers d := by
  induction fuel generalizing d with
  | zero => rfl
  | succ fuel ih =>
    rw [trimZeros]
    split_ifs with h
    · rw [ih, ← covers_mul_ten, Nat.div_mul_cancel (Nat.dvd_of_mod_eq_zero h.2)]
    · rfl

/-- **The shortest decimal of a double lies in its interval.** -/
theorem covers_shortest (x : Binary64) : x.Covers x.shortest := by
  unfold shortest
  split_ifs with hx
  · rw [eq_zero_of_significand hx]
    simp [Covers, zero, interval, units, Interval.holds]
  · simp only [covers_trimZeros]
    cases hfound : (List.range 17).findSome? fun i => withDigits? x x.leadingExponent (i + 1) with
    | none => exact covers_exactDecimal x
    | some d =>
      obtain ⟨i, -, hi⟩ := List.exists_of_findSome?_eq_some hfound
      exact covers_of_withDigits? hi

theorem shortest_digits_ne_zero {x : Binary64} (h : x.significand ≠ 0) : x.shortest.digits ≠ 0 := by
  intro h0
  have := (covers_bounds (covers_shortest x)).2 h
  have := tenPower_pos x.shortest.exponent
  rw [h0] at *
  omega

theorem shortest_eq_zero {x : Binary64} (h : x.shortest.digits = 0) : x.shortest = ⟨0, 0⟩ := by
  have hsig : x.significand = 0 := by
    by_contra hne
    exact shortest_digits_ne_zero hne h
  rw [shortest, if_pos hsig]

end ToolGateway.Binary64
