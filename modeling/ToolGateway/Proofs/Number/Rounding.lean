import Mathlib.Tactic
import ToolGateway.Number.Shortest

/-!
Rounding to the nearest double.

The reals that round to a double `x` are its `interval`. Main statements, for a quotient or a decimal in that interval:
- `ofUnits?_of_holds`: rounding the quotient gives `x`;
- `ofDecimal?_of_rounds`: so does reading the decimal, whatever its exponent.
-/

namespace ToolGateway.Binary64

/-! ## Quotients -/

/-- a quotient no further than a half from `m`, and nearer when `m` is odd, is rounded to `m` -/
theorem roundDiv_eq {num den m : Nat} (hd : 0 < den) (hlow : 2 * (m * den) ≤ 2 * num + den)
    (hhigh : 2 * num ≤ 2 * (m * den) + den)
    (hodd : m % 2 = 1 → 2 * (m * den) < 2 * num + den ∧ 2 * num < 2 * (m * den) + den) :
    roundDiv num den = m := by
  have hnum : num = num / den * den + num % den := (Nat.div_add_mod' num den).symm
  have hr : num % den < den := Nat.mod_lt _ hd
  have hqm : num / den ≤ m := by
    by_contra hlt
    have : (m + 1) * den ≤ num / den * den := Nat.mul_le_mul_right _ (by omega)
    rw [Nat.add_mul] at this
    omega
  have hmq : m ≤ num / den + 1 := by
    by_contra hlt
    have : (num / den + 2) * den ≤ m * den := Nat.mul_le_mul_right _ (by omega)
    rw [Nat.add_mul] at this
    omega
  unfold roundDiv
  simp only
  generalize num / den = q at *
  generalize num % den = r at *
  rcases Nat.lt_or_ge q m with h | h
  · obtain rfl : m = q + 1 := by omega
    rw [Nat.add_mul] at *
    split_ifs <;> omega
  · obtain rfl : m = q := by omega
    split_ifs <;> omega

theorem holds_iff {i : Interval} {num den : Nat} :
    i.holds num den = true ↔ (i.low * den ≤ num ∧ num ≤ i.high * den) ∧
      (i.closed = false → i.low * den < num ∧ num < i.high * den) := by
  unfold Interval.holds
  cases i.closed <;> simp
  omega

/-- only the quotient counts -/
theorem holds_mul {i : Interval} {num den k : Nat} (hk : 0 < k) :
    i.holds (num * k) (den * k) = i.holds num den := by
  have hle : ∀ a b : Nat, a * k ≤ b * k ↔ a ≤ b := fun a b => Nat.mul_le_mul_right_iff hk
  have hlt : ∀ a b : Nat, a * k < b * k ↔ a < b := fun a b => Nat.mul_lt_mul_right hk
  simp only [Interval.holds, ← Nat.mul_assoc, hle, hlt]

/-- the interval of a double spelled out: `4 * num / den` quarter units lie within two quarters of a step of it, or
within one below a power of two, and an odd significand keeps off the ends -/
theorem holds_interval {x : Binary64} {num den : Nat} (h : x.interval.holds (4 * num) den = true) :
    let step := 2 ^ x.scale * den
    let below := if x.significand = 0x10000000000000 ∧ x.scale ≠ 0 then step else 2 * step
    4 * (x.significand * step) ≤ 4 * num + below ∧ 4 * num ≤ 4 * (x.significand * step) + 2 * step ∧
      (x.significand % 2 = 1 →
        4 * (x.significand * step) < 4 * num + below ∧ 4 * num < 4 * (x.significand * step) + 2 * step) := by
  obtain ⟨⟨hl, hh⟩, hs⟩ := holds_iff.1 h
  simp only [interval, units, Nat.shiftLeft_eq, one_mul, decide_eq_false_iff_not] at hl hh hs ⊢
  have e : x.significand * (2 ^ x.scale * den) = x.significand * 2 ^ x.scale * den := (Nat.mul_assoc _ _ _).symm
  rw [e]
  split_ifs at * with hm
  all_goals
    simp only [Nat.sub_mul, Nat.add_mul, Nat.mul_assoc] at *
    refine ⟨by omega, by omega, fun hodd => ?_⟩
    have := hs (by omega)
    omega

theorem ofParts?_self (x : Binary64) : ofParts? x.negative x.significand x.scale = some x := by
  rw [ofParts?, dif_pos x.isNormal]

/-- a power of two may come out of rounding as twice its significand one scale below -/
theorem ofParts?_carry {x : Binary64} (hm : x.significand = 0x10000000000000) (hs : x.scale ≠ 0) :
    ofParts? x.negative 0x20000000000000 (x.scale - 1) = some x := by
  obtain ⟨negative, significand, scale, isNormal⟩ := x
  simp only at hm hs
  subst hm
  have hle : scale ≤ 2045 := isNormal.2.2
  have e : scale - 1 + 1 = scale := by omega
  rw [ofParts?, dif_neg (by simp), if_pos rfl, dif_pos (show scale - 1 + 1 ≤ 2045 by omega)]
  simp [e]

/-- the scale that is tried for a quotient of this many steps -/
theorem log2_div_sub {num den s : Nat} (hd : 0 < den) (hhigh : num < 2 ^ s * den * 0x20000000000000)
    (hlow : s = 0 ∨ 2 ^ s * den * 0x10000000000000 ≤ num) : Nat.log2 (num / den) - 52 = s := by
  have hlt : num / den < 2 ^ (s + 53) := by
    rw [Nat.div_lt_iff_lt_mul hd, Nat.pow_add]
    calc num < 2 ^ s * den * 2 ^ 53 := hhigh
      _ = 2 ^ s * 2 ^ 53 * den := by ring
  rcases hlow with rfl | hlow
  · rcases Nat.eq_zero_or_pos (num / den) with h0 | hpos
    · rw [h0]; rfl
    · have := (Nat.log2_lt hpos.ne').2 hlt
      omega
  · have hge : 2 ^ (s + 52) ≤ num / den := by
      rw [Nat.le_div_iff_mul_le hd, Nat.pow_add]
      calc 2 ^ s * 2 ^ 52 * den = 2 ^ s * den * 2 ^ 52 := by ring
        _ ≤ num := hlow
    have hne : num / den ≠ 0 := fun h0 => by rw [h0] at hge; exact absurd hge (by simp)
    have h1 := (Nat.le_log2 hne).2 hge
    have h2 := (Nat.log2_lt hne).2 hlt
    omega

/-- **Rounding a quotient from the interval of a double gives the double.** -/
theorem ofUnits?_of_holds {x : Binary64} {num den : Nat} (hd : 0 < den)
    (h : x.interval.holds (4 * num) den = true) : ofUnits? x.negative num den = some x := by
  have hstep : 0 < 2 ^ x.scale * den := Nat.mul_pos (Nat.two_pow_pos _) hd
  obtain ⟨hlow, hhigh, hodd⟩ := holds_interval h
  obtain ⟨hm, hnormal, -⟩ := x.isNormal
  have hbound : num < 2 ^ x.scale * den * 0x20000000000000 := by
    have : x.significand * (2 ^ x.scale * den) ≤ 0x1fffffffffffff * (2 ^ x.scale * den) :=
      Nat.mul_le_mul_right _ (by omega)
    omega
  by_cases hcase : x.scale = 0 ∨ 2 ^ x.scale * den * 0x10000000000000 ≤ num
  · -- the quotient has the scale of `x`
    unfold ofUnits?
    simp only [log2_div_sub hd hbound hcase, Nat.shiftLeft_eq, Nat.mul_comm den]
    rw [roundDiv_eq hstep ?_ ?_ ?_, ofParts?_self]
    · split_ifs at hlow <;> omega
    · omega
    · intro hm1
      obtain ⟨h1, h2⟩ := hodd hm1
      split_ifs at h1 with hp
      · omega
      · omega
  · -- the quotient lies below the power of two `x`, where the scale is one less
    have hs : x.scale ≠ 0 := fun h0 => hcase (.inl h0)
    have hnum : num < 2 ^ x.scale * den * 0x10000000000000 := by
      by_contra hge
      exact hcase (.inr (by omega))
    have hpower : x.significand = 0x10000000000000 := by
      by_contra hne
      rw [if_neg (fun hp => hne hp.1)] at hlow
      have : 0x10000000000001 * (2 ^ x.scale * den) ≤ x.significand * (2 ^ x.scale * den) :=
        Nat.mul_le_mul_right _ (by omega)
      omega
    rw [if_pos ⟨hpower, hs⟩, hpower] at hlow
    have hhalf : 2 ^ x.scale * den = 2 * (2 ^ (x.scale - 1) * den) := by
      rw [← Nat.mul_assoc, ← Nat.pow_succ', Nat.succ_eq_add_one, Nat.sub_add_cancel (by omega)]
    rw [hhalf] at hlow hnum hstep
    generalize hhalfstep : 2 ^ (x.scale - 1) * den = half at hlow hnum hstep
    have hbelow : num < half * 0x20000000000000 := by linarith
    have habove : half * 0x10000000000000 ≤ num := by omega
    have hscale : Nat.log2 (num / den) - 52 = x.scale - 1 :=
      log2_div_sub hd (hhalfstep ▸ hbelow) (.inr (hhalfstep ▸ habove))
    have hround : roundDiv num half = 0x20000000000000 :=
      roundDiv_eq (by omega) (by omega) (by omega) fun hodd => by simp at hodd
    unfold ofUnits?
    simp only [hscale, Nat.shiftLeft_eq, Nat.mul_comm den]
    rw [hhalfstep, hround, ofParts?_carry hpower hs]

/-! ## Decimals -/

/-- the decimal lies in the interval of the double -/
def Covers (x : Binary64) (d : Decimal) : Prop :=
  x.interval.holds (4 * (d.digits * ((tenPower d.exponent).1 * one))) (tenPower d.exponent).2 = true

theorem tenPower_pos (e : Int) : 0 < (tenPower e).2 := by
  unfold tenPower
  split_ifs
  · exact Nat.one_pos
  · exact Nat.pow_pos (by decide)

theorem one_shiftLeft_eq (n : Nat) : 1 <<< n = 2 ^ n := by
  rw [Nat.shiftLeft_eq, Nat.one_mul]

theorem one_eq : one = 2 ^ 1074 :=
  one_shiftLeft_eq 1074

theorem one_pos : 0 < one := by
  rw [one, one_shiftLeft_eq]
  exact pow_pos Nat.two_pos _

/-- the fraction of a power of ten is ten times that of the power below it, up to a common factor -/
theorem tenPower_succ (e : Int) :
    ∃ k, 0 < k ∧ 10 * (tenPower e).1 = (tenPower (e + 1)).1 * k ∧ (tenPower e).2 = (tenPower (e + 1)).2 * k := by
  unfold tenPower
  by_cases he : 0 ≤ e
  · refine ⟨1, by decide, ?_⟩
    rw [if_pos he, if_pos (by omega), show (e + 1).toNat = e.toNat + 1 by omega]
    simp [pow_succ, mul_comm]
  · refine ⟨10, by decide, ?_⟩
    rw [if_neg he]
    rcases eq_or_ne e (-1) with rfl | hne
    · simp
    · rw [if_neg (by omega), show (-e).toNat = (-(e + 1)).toNat + 1 by omega]
      simp [pow_succ]

/-- a zero moved from the digits to the exponent changes nothing -/
theorem covers_mul_ten {x : Binary64} {n : Nat} {e : Int} : x.Covers ⟨n * 10, e⟩ ↔ x.Covers ⟨n, e + 1⟩ := by
  obtain ⟨k, hk, h1, h2⟩ := tenPower_succ e
  unfold Covers
  simp only
  have hnum : 4 * (n * 10 * ((tenPower e).1 * one)) = 4 * (n * ((tenPower (e + 1)).1 * one)) * k :=
    calc 4 * (n * 10 * ((tenPower e).1 * one)) = 4 * (n * (10 * (tenPower e).1 * one)) := by ring
      _ = 4 * (n * ((tenPower (e + 1)).1 * one)) * k := by rw [h1]; ring
  rw [h2, hnum, holds_mul hk]

theorem covers_mul_pow {x : Binary64} {n : Nat} {e : Int} (k : Nat) :
    x.Covers ⟨n * 10 ^ k, e⟩ ↔ x.Covers ⟨n, e + k⟩ := by
  induction k generalizing e with
  | zero => simp
  | succ k ih =>
    rw [pow_succ, ← mul_assoc, covers_mul_ten, ih, show e + 1 + (k : Int) = e + (k + 1 : Nat) by push_cast; ring]

/-- the magnitude of a covered decimal: below 2^1024, and above a quarter of a unit unless the double is zero -/
theorem covers_bounds {x : Binary64} {d : Decimal} (h : x.Covers d) :
    d.digits * ((tenPower d.exponent).1 * one) ≤ 2 ^ 2098 * (tenPower d.exponent).2 ∧
      (x.significand ≠ 0 → (tenPower d.exponent).2 ≤ 2 * (d.digits * ((tenPower d.exponent).1 * one))) := by
  obtain ⟨hlow, hhigh, -⟩ := holds_interval h
  obtain ⟨hm, -, hs⟩ := x.isNormal
  generalize d.digits * ((tenPower d.exponent).1 * one) = amount at *
  generalize (tenPower d.exponent).2 = den at *
  constructor
  · have hstep : 2 ^ x.scale * den ≤ 2 ^ 2045 * den := by
      gcongr
      decide
    have hmax : x.significand * (2 ^ x.scale * den) ≤ 0x1fffffffffffff * (2 ^ x.scale * den) :=
      Nat.mul_le_mul_right _ (by omega)
    have hamount : amount ≤ 2 ^ 53 * (2 ^ x.scale * den) := by
      clear hstep
      omega
    calc amount ≤ 2 ^ 53 * (2 ^ 2045 * den) := hamount.trans (Nat.mul_le_mul_left _ hstep)
      _ = 2 ^ 2098 * den := by rw [← mul_assoc, ← pow_add]
  · intro hne
    have hden : den ≤ 2 ^ x.scale * den := Nat.le_mul_of_pos_left _ (Nat.two_pow_pos _)
    have hmin : 2 ^ x.scale * den ≤ x.significand * (2 ^ x.scale * den) :=
      Nat.le_mul_of_pos_left _ (Nat.pos_of_ne_zero hne)
    split_ifs at hlow <;> omega

theorem eq_zero_of_significand {x : Binary64} (h : x.significand = 0) : x = zero x.negative := by
  obtain ⟨negative, significand, scale, isNormal⟩ := x
  simp only at h
  subst h
  have hs : scale = 0 := by
    rcases isNormal.2.1 with h | h
    · exact h
    · exact absurd h (by decide)
  subst hs
  rfl

/-- a covered decimal is not so large that it is refused unread -/
theorem top_le_of_covers {x : Binary64} {n : Nat} {e : Int} (h : x.Covers ⟨n, e⟩) (hn : 0 < n) :
    e + (Nat.toDigits 10 n).length ≤ 310 := by
  by_contra htop
  set count := (Nat.toDigits 10 n).length with hcount
  have hpos : 0 < count := Nat.length_toDigits_pos
  have hfirst : 10 ^ (count - 1) ≤ n := by
    rcases Nat.eq_zero_or_pos (count - 1) with h0 | h0
    · rw [h0]; exact hn
    · by_contra hlt
      have := (Nat.length_toDigits_le_iff (by decide) h0).2 (Nat.lt_of_not_le hlt)
      omega
  have hlimit : (2 : Nat) ^ 2098 < 10 ^ 310 * 2 ^ 1074 := by decide +kernel
  have hle : n * ((tenPower e).1 * one) ≤ 2 ^ 2098 * (tenPower e).2 := (covers_bounds h).1
  have hge : 10 ^ 310 * (tenPower e).2 ≤ n * (tenPower e).1 := by
    unfold tenPower
    split_ifs with he
    · calc 10 ^ 310 * 1 ≤ 10 ^ (count - 1 + e.toNat) := by
            rw [Nat.mul_one]; exact pow_le_pow_right₀ (by decide) (by omega)
        _ = 10 ^ (count - 1) * 10 ^ e.toNat := Nat.pow_add _ _ _
        _ ≤ n * 10 ^ e.toNat := Nat.mul_le_mul_right _ hfirst
    · calc 10 ^ 310 * 10 ^ (-e).toNat = 10 ^ (310 + (-e).toNat) := (pow_add _ _ _).symm
        _ ≤ 10 ^ (count - 1) := Nat.pow_le_pow_right (by decide) (by omega)
        _ ≤ n * 1 := by rw [Nat.mul_one]; exact hfirst
  have hden : 0 < (tenPower e).2 := tenPower_pos e
  have : 10 ^ 310 * (tenPower e).2 * 2 ^ 1074 ≤ 2 ^ 2098 * (tenPower e).2 :=
    calc 10 ^ 310 * (tenPower e).2 * 2 ^ 1074 ≤ n * (tenPower e).1 * 2 ^ 1074 := Nat.mul_le_mul_right _ hge
      _ = n * ((tenPower e).1 * one) := by rw [one_eq, Nat.mul_assoc]
      _ ≤ 2 ^ 2098 * (tenPower e).2 := hle
  rw [Nat.mul_right_comm] at this
  exact absurd (Nat.le_of_mul_le_mul_right this hden) (Nat.not_le_of_lt hlimit)

/-- a decimal that a double other than zero covers is not so small that it is taken for zero unread -/
theorem le_top_of_covers {x : Binary64} {n : Nat} {e : Int} (h : x.Covers ⟨n, e⟩) (hx : x.significand ≠ 0) :
    -325 ≤ e + (Nat.toDigits 10 n).length := by
  by_contra htop
  set count := (Nat.toDigits 10 n).length with hcount
  have hpos : 0 < count := Nat.length_toDigits_pos
  have hn : n < 10 ^ count := (Nat.length_toDigits_le_iff (by decide) hpos).1 (Nat.le_refl _)
  have hlimit : (2 : Nat) * 2 ^ 1074 < 10 ^ 325 := by decide +kernel
  have hle : (tenPower e).2 ≤ 2 * (n * ((tenPower e).1 * one)) := (covers_bounds h).2 hx
  have he : ¬ 0 ≤ e := by omega
  simp only [tenPower, if_neg he, one_eq, Nat.one_mul] at hle
  have hge : 10 ^ count * 10 ^ 325 ≤ Nat.pow 10 (-e).toNat := by
    rw [← Nat.pow_add]
    exact Nat.pow_le_pow_right (by decide) (by omega)
  have : 10 ^ count * 10 ^ 325 ≤ 10 ^ count * (2 * 2 ^ 1074) :=
    calc 10 ^ count * 10 ^ 325 ≤ 2 * (n * 2 ^ 1074) := hge.trans hle
      _ = n * (2 * 2 ^ 1074) := mul_left_comm _ _ _
      _ ≤ 10 ^ count * (2 * 2 ^ 1074) := Nat.mul_le_mul_right _ hn.le
  exact absurd (Nat.le_of_mul_le_mul_left this (Nat.pow_pos (by decide))) (Nat.not_le_of_lt hlimit)

/-- **Reading a decimal from the interval of a double gives the double.** -/
theorem ofDecimal?_of_covers {x : Binary64} {n : Nat} {e : Int} (h : x.Covers ⟨n, e⟩) :
    ofDecimal? x.negative n e = some x := by
  have hunits : 0 ≤ e → x.interval.holds (4 * (n * Nat.pow 10 e.toNat * one)) 1 = true := fun he => by
    simpa only [Covers, tenPower, if_pos he, Nat.mul_assoc] using h
  have hquotient : ¬ 0 ≤ e → x.interval.holds (4 * (n * one)) (Nat.pow 10 (-e).toNat) = true := fun he => by
    simpa only [Covers, tenPower, if_neg he, Nat.one_mul] using h
  unfold ofDecimal?
  simp only
  split_ifs with hn hhigh hlow he
  · have hx : x.significand = 0 := by
      by_contra hne
      have := (covers_bounds h).2 hne
      have := tenPower_pos e
      simp only [hn, Nat.zero_mul] at *
      omega
    rw [← eq_zero_of_significand hx]
  · have := top_le_of_covers h (Nat.pos_of_ne_zero hn)
    omega
  · have hx : x.significand = 0 := by
      by_contra hne
      have := le_top_of_covers h hne
      omega
    rw [← eq_zero_of_significand hx]
  · exact ofUnits?_of_holds Nat.one_pos (hunits he)
  · exact ofUnits?_of_holds (Nat.pow_pos (by decide)) (hquotient he)

end ToolGateway.Binary64
