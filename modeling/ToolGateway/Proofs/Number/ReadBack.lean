import ToolGateway.Proofs.Number.Shortest
import ToolGateway.Proofs.Json.Cursor

/-!
What the texts of numbers are read as.

First what the number reader makes of each of the notations that are written, digit for digit. The numeral it gets is
the same wherever the text stands.

- `Layout.isNotation_body`: for a double it is a decimal that lies in the interval of the double. So it tells the double,
  though the value that it is given, which is rounded on the way, may be another one.
- `Number.isReadBack_of_readNumber`, `Number.IsReadBack.readNumber`: whether a number is read back does not depend on
  where its text stands.
- `Number.isReadBack_int`: an integer that fits in 64 bits is read back.
-/

namespace ToolGateway.Cursor

open Utf8

variable {c : Cursor} {rest : Bytes} {negative : Bool}

/-! ## What the reader makes of a notation -/

/-- the digits in front of the point: no zero leads unless it is the only digit -/
def WholeDigits (digits : List Char) : Prop :=
  (∀ d ∈ digits, d.isDigit = true) ∧ (digits = ['0'] ∨ ∃ d more, digits = d :: more ∧ d ≠ '0')

/-- the octet in front, if there is one, does not go on a number -/
def EndsNumber (rest : Bytes) : Prop :=
  ∀ b ∈ rest.head?, isDigit b = false ∧ b ≠ 0x2E ∧ b ≠ 0x65 ∧ b ≠ 0x45

theorem EndsNumber.noDigit (h : EndsNumber rest) : NoDigit rest :=
  fun b hb => (h b hb).1

theorem readNumeral_whole {digits : List Char} (h : c.At digits rest) (hd : WholeDigits digits) (hr : NoDigit rest) :
    ∃ past : Cursor, past.rest = rest ∧ c.readNumeral = readFraction (octets digits) past := by
  obtain ⟨hall, rfl | ⟨d, more, rfl, hne⟩⟩ := hd
  · have h0 : encodeChar '0' = [0x30] := by decide
    have hstep := h.step h0
    refine ⟨c.step, hstep, ?_⟩
    rw [readNumeral, h.peek h0]
    simp only
    cases rest with
    | nil =>
      have : c.step.peek? = none := by rw [peek?, hstep]; rfl
      rw [this]
      rfl
    | cons b rest =>
      have : c.step.peek? = some b := by rw [peek?, hstep]; rfl
      rw [this]
      simp only [hr b rfl, Bool.false_eq_true, if_false]
      rfl
  · obtain ⟨past, htake, hpast⟩ := takeDigits_at h hall hr
    obtain ⟨he, hn, hl, hh⟩ := isDigit_toUInt8 (hall d List.mem_cons_self)
    refine ⟨past, hpast, ?_⟩
    rw [readNumeral, h.peek he]
    split
    · rename_i hb; exact absurd hb (by simp)
    · rename_i hb
      have hn0 : d.toNat = 0x30 := by
        rw [← hn, Option.some.inj hb]
        rfl
      exact absurd (Char.toNat_inj.1 hn0) hne
    · rename_i b _ hb
      obtain rfl := Option.some.inj hb
      have hdigit : isDigit d.toNat.toUInt8 = true := by simp [isDigit, hn, hl, hh]
      simp only [hdigit, if_true, htake]

theorem readFraction_end (h : c.rest = rest) (hr : EndsNumber rest) (whole : Bytes) :
    readFraction whole c = .ok (.whole whole, c) := by
  unfold readFraction
  rw [peek?, h]
  cases rest with
  | nil => rfl
  | cons b rest =>
    obtain ⟨-, h1, h2, h3⟩ := hr b rfl
    split <;> simp_all

/-- what the reader makes of the digits behind the point, up to an exponent or to the end -/
theorem readFraction_point {fraction : List Char} (h : c.At ('.' :: fraction) rest)
    (hd : ∀ d ∈ fraction, d.isDigit = true) (hne : fraction ≠ []) (hr : NoDigit rest) (whole : Bytes) :
    ∃ past : Cursor, past.rest = rest ∧
      (EndsNumber rest → readFraction whole c = .ok (.decimal whole (octets fraction) 0, past)) ∧
      (rest.head? = some 0x65 → readFraction whole c = readExponent whole (octets fraction) past) := by
  have hpoint : encodeChar '.' = [0x2E] := by decide
  obtain ⟨past, htake, hpast⟩ := takeDigits_at (h.step hpoint) hd hr
  have hsome : octets fraction ≠ [] := by
    intro h0
    have := length_octets_digits hd
    rw [h0] at this
    exact hne (List.eq_nil_of_length_eq_zero this.symm)
  refine ⟨past, hpast, fun hend => ?_, fun hexp => ?_⟩
  all_goals
    unfold readFraction
    rw [h.peek hpoint]
    simp only [htake, if_neg hsome]
  · split
    · rename_i he; exact absurd rfl (hend _ (hpast ▸ he)).2.2.1
    · rename_i he; exact absurd rfl (hend _ (hpast ▸ he)).2.2.2
    · rfl
  · rw [peek?, hpast, hexp]
    rfl

/-- an exponent of a size that occurs is read digit for digit -/
theorem digitsToExceed_eq_none {digits : List Char} {limit acc : Nat} (hd : ∀ d ∈ digits, d.isDigit = true)
    (h : Nat.ofDigitChars 10 digits acc ≤ limit) (count : Nat) :
    digitsToExceed limit acc count (octets digits) = none := by
  induction digits generalizing acc count with
  | nil => rfl
  | cons d digits ih =>
    obtain ⟨he, hn, -, -⟩ := isDigit_toUInt8 (hd d List.mem_cons_self)
    rw [Nat.ofDigitChars_cons] at h
    rw [octets_cons, he, List.singleton_append, digitsToExceed]
    simp only [hn, next_eq_ofDigitChars]
    rw [if_neg (Nat.not_lt.2 (Nat.le_trans (le_ofDigitChars _ _) h))]
    exact ih (fun e he => hd e (List.mem_cons_of_mem _ he)) h _

/-- digits that 64 bits hold are gathered to the last -/
theorem gather_octets {digits : List Char} {acc : Nat} (hd : ∀ d ∈ digits, d.isDigit = true)
    (h : Nat.ofDigitChars 10 digits acc < 0x10000000000000000) :
    Numeral.gather acc (octets digits) = (Nat.ofDigitChars 10 digits acc, []) := by
  induction digits generalizing acc with
  | nil => simp [Numeral.gather]
  | cons d digits ih =>
    obtain ⟨he, hn, -, -⟩ := isDigit_toUInt8 (hd d List.mem_cons_self)
    rw [Nat.ofDigitChars_cons] at h ⊢
    rw [octets_cons, he, List.singleton_append, Numeral.gather]
    simp only [hn, next_eq_ofDigitChars]
    rw [if_pos (Nat.lt_of_le_of_lt (le_ofDigitChars _ _) h)]
    exact ih (fun e he => hd e (List.mem_cons_of_mem _ he)) h

/-- the value of an exponent with its sign -/
def signedExponent (sign : Char) (exponent : List Char) : Int :=
  if sign = '-' then -(Nat.ofDigitChars 10 exponent 0 : Nat) else (Nat.ofDigitChars 10 exponent 0 : Nat)

theorem readExponent_at {digits : List Char} {sign : Char} (h : c.At ('e' :: sign :: digits) rest)
    (hsign : sign = '+' ∨ sign = '-') (hd : ∀ d ∈ digits, d.isDigit = true) (hne : digits ≠ []) (hr : NoDigit rest)
    (hlimit : Nat.ofDigitChars 10 digits 0 ≤ exponentLimit) (whole fraction : Bytes) :
    ∃ past : Cursor, past.rest = rest ∧
      readExponent whole fraction c = .ok (.decimal whole fraction (signedExponent sign digits), past) := by
  have he : encodeChar 'e' = [0x65] := by decide
  obtain ⟨d, more, rfl⟩ := List.exists_cons_of_ne_nil hne
  obtain ⟨hoctet, hn, hl, hh⟩ := isDigit_toUInt8 (hd d List.mem_cons_self)
  have hdigit : isDigit d.toNat.toUInt8 = true := by simp [isDigit, hn, hl, hh]
  have hafter := h.step he
  rcases hsign with rfl | rfl
  · have hplus : encodeChar '+' = [0x2B] := by decide
    have hat := hafter.step hplus
    obtain ⟨past, htake, hpast⟩ := takeDigits_at hat hd hr
    refine ⟨past, hpast, ?_⟩
    unfold readExponent
    simp only [hafter.peek hplus, true_or, if_true, hat.peek hoctet, hdigit, htake,
      digitsToExceed_eq_none hd hlimit, digitsValue_octets hd]
    simp [signedExponent]
  · have hminus : encodeChar '-' = [0x2D] := by decide
    have hat := hafter.step hminus
    obtain ⟨past, htake, hpast⟩ := takeDigits_at hat hd hr
    refine ⟨past, hpast, ?_⟩
    unfold readExponent
    simp only [hafter.peek hminus, or_true, if_true, hat.peek hoctet, hdigit, htake,
      digitsToExceed_eq_none hd hlimit, digitsValue_octets hd]
    simp [signedExponent]

end ToolGateway.Cursor

/-! ## What is written for a double -/

namespace ToolGateway

open Cursor Utf8

theorem toDigits_isDigit (n : Nat) : ∀ d ∈ Nat.toDigits 10 n, d.isDigit = true :=
  fun _ hd => Nat.isDigit_of_mem_toDigits (by decide) (by decide) hd

theorem wholeDigits_toDigits (n : Nat) : WholeDigits (Nat.toDigits 10 n) := by
  refine ⟨toDigits_isDigit n, ?_⟩
  induction n using Nat.strong_induction_on with
  | _ n ih =>
    rcases Nat.lt_or_ge n 10 with hlt | hge
    · rw [Nat.toDigits_of_lt_base hlt]
      interval_cases n <;> simp +decide
    · right
      rw [Nat.toDigits_of_base_le (by decide) hge]
      rcases ih (n / 10) (by omega) with h0 | ⟨d, more, hd, hne⟩
      · have := congrArg (fun l => Nat.ofDigitChars 10 l 0) h0
        simp only [Nat.ofDigitChars_ten_toDigits] at this
        have hzero : n / 10 = 0 := this
        omega
      · exact ⟨d, more ++ [(n % 10).digitChar], by rw [hd]; rfl, hne⟩

theorem isDigit_of_mem_replicate {k : Nat} {d : Char} (h : d ∈ List.replicate k '0') : d.isDigit = true := by
  rw [(List.mem_replicate.1 h).2]
  rfl

/-- zeros may follow the digits of a number, unless it is zero -/
theorem wholeDigits_filled {n k : Nat} (h : n = 0 → k = 0) :
    WholeDigits (Nat.toDigits 10 n ++ List.replicate k '0') := by
  obtain ⟨hall, hhead⟩ := wholeDigits_toDigits n
  refine ⟨fun d hd => (List.mem_append.1 hd).elim (hall d) isDigit_of_mem_replicate, ?_⟩
  rcases hhead with hzero | ⟨d, more, hd, hne⟩
  · have hn : n = 0 := by
      rw [← Nat.ofDigitChars_ten_toDigits (n := n), hzero]
      rfl
    exact .inl (by rw [h hn, hzero]; rfl)
  · exact .inr ⟨d, more ++ List.replicate k '0', by rw [hd]; rfl, hne⟩

theorem wholeDigits_take {n k : Nat} (h : 0 < k) : WholeDigits ((Nat.toDigits 10 n).take k) := by
  obtain ⟨hall, hhead⟩ := wholeDigits_toDigits n
  obtain ⟨k, rfl⟩ : ∃ m, k = m + 1 := ⟨k - 1, by omega⟩
  refine ⟨fun d hd => hall d (List.mem_of_mem_take hd), ?_⟩
  rcases hhead with hzero | ⟨d, more, hd, hne⟩
  · exact .inl (by rw [hzero]; simp)
  · exact .inr ⟨d, more.take k, by rw [hd]; rfl, hne⟩

section Notations

variable {x : Binary64} {whole fraction exponent : List Char} {sign : Char}

/-- wherever the text stands in front of what does not go on a number, it is read as the numeral -/
def Scans (text : List Char) (numeral : Numeral) : Prop :=
  ∀ (c : Cursor) (rest : Bytes), c.At text rest → EndsNumber rest →
    ∃ past : Cursor, past.rest = rest ∧ c.readNumeral = .ok (numeral, past)

/-- a text is read as one numeral -/
theorem Scans.unique {text : List Char} {p q : Numeral} (hp : Scans text p) (hq : Scans text q) : p = q := by
  have hend : EndsNumber [] := by simp [EndsNumber]
  obtain ⟨past, -, hread⟩ := hp _ _ (at_start text) hend
  obtain ⟨past', -, hread'⟩ := hq _ _ (at_start text) hend
  rw [hread] at hread'
  cases hread'
  rfl

/-- the decimal that is written lies in the interval of the double -/
def Numeral.Denotes : Numeral → Binary64 → Prop
  | .whole _, _ => False
  | .decimal front behind exponent, x => x.Covers ⟨digitsValue 0 (front ++ behind), exponent - behind.length⟩

/-- a decimal lies in the interval of one double of a sign -/
theorem Numeral.Denotes.unique {numeral : Numeral} {y : Binary64} (hx : numeral.Denotes x) (hy : numeral.Denotes y)
    (hsign : x.negative = y.negative) : x = y := by
  cases numeral with
  | whole digits => exact hx.elim
  | decimal front behind exponent =>
    have hreal := Binary64.ofDecimal?_of_covers hx
    rw [hsign, Binary64.ofDecimal?_of_covers hy] at hreal
    exact (Option.some.inj hreal).symm

/-- the text is that of a decimal in the interval of the double, with a point or an exponent -/
def IsNotation (text : List Char) (x : Binary64) : Prop :=
  ∃ numeral, Scans text numeral ∧ numeral.Denotes x

theorem noDigit_cons {rest : Bytes} {char : Char} {text : List Char} {b : UInt8} (hb : encodeChar char = [b])
    (hn : isDigit b = false) : NoDigit (octets (char :: text) ++ rest) := by
  intro a ha
  rw [octets_cons, hb] at ha
  cases ha
  exact hn

theorem denotes_octets {e : Int} (hw : ∀ d ∈ whole, d.isDigit = true) (hf : ∀ d ∈ fraction, d.isDigit = true)
    (hx : x.Covers ⟨Nat.ofDigitChars 10 (whole ++ fraction) 0, e - fraction.length⟩) :
    (Numeral.decimal (octets whole) (octets fraction) e).Denotes x := by
  have hall : ∀ d ∈ whole ++ fraction, d.isDigit = true := fun d hd => (List.mem_append.1 hd).elim (hw d) (hf d)
  rwa [Numeral.Denotes, ← octets_append, digitsValue_octets hall, length_octets_digits hf]

theorem isNotation_point (hw : WholeDigits whole) (hf : ∀ d ∈ fraction, d.isDigit = true) (hne : fraction ≠ [])
    (hx : x.Covers ⟨Nat.ofDigitChars 10 (whole ++ fraction) 0, -(fraction.length : Int)⟩) :
    IsNotation (whole ++ '.' :: fraction) x := by
  refine ⟨_, fun c rest h hr => ?_, denotes_octets (e := 0) hw.1 hf (by rwa [Int.zero_sub])⟩
  obtain ⟨mid, hmid, hread⟩ :=
    readNumeral_whole (at_append.1 h) hw (noDigit_cons (show encodeChar '.' = [0x2E] by decide) (by decide))
  obtain ⟨past, hpast, hend, -⟩ := readFraction_point (c := mid) hmid hf hne hr.noDigit _
  exact ⟨past, hpast, by rw [hread, hend hr]⟩

theorem isNotation_exponent (hw : WholeDigits whole) (hs : sign = '+' ∨ sign = '-')
    (he : ∀ d ∈ exponent, d.isDigit = true) (hne : exponent ≠ [])
    (hlimit : Nat.ofDigitChars 10 exponent 0 ≤ exponentLimit)
    (hx : x.Covers ⟨Nat.ofDigitChars 10 whole 0, signedExponent sign exponent⟩) :
    IsNotation (whole ++ 'e' :: sign :: exponent) x := by
  have hdenotes : (Numeral.decimal (octets whole) (octets []) (signedExponent sign exponent)).Denotes x :=
    denotes_octets hw.1 (by simp) (by simpa using hx)
  refine ⟨_, fun c rest h hr => ?_, hdenotes⟩
  have hletter : encodeChar 'e' = [0x65] := by decide
  obtain ⟨mid, hmid, hread⟩ := readNumeral_whole (at_append.1 h) hw (noDigit_cons hletter (by decide))
  have hat : mid.At ('e' :: sign :: exponent) rest := hmid
  obtain ⟨past, hpast, hend⟩ := readExponent_at hat hs he hne hr.noDigit hlimit (octets whole) []
  refine ⟨past, hpast, ?_⟩
  rw [hread, readFraction, hat.peek hletter]
  exact hend

theorem isNotation_point_exponent (hw : WholeDigits whole) (hf : ∀ d ∈ fraction, d.isDigit = true)
    (hfne : fraction ≠ []) (hs : sign = '+' ∨ sign = '-') (he : ∀ d ∈ exponent, d.isDigit = true) (hne : exponent ≠ [])
    (hlimit : Nat.ofDigitChars 10 exponent 0 ≤ exponentLimit)
    (hx : x.Covers ⟨Nat.ofDigitChars 10 (whole ++ fraction) 0, signedExponent sign exponent - fraction.length⟩) :
    IsNotation (whole ++ '.' :: (fraction ++ 'e' :: sign :: exponent)) x := by
  refine ⟨_, fun c rest h hr => ?_, denotes_octets hw.1 hf hx⟩
  have hletter : encodeChar 'e' = [0x65] := by decide
  obtain ⟨mid, hmid, hread⟩ :=
    readNumeral_whole (at_append.1 h) hw (noDigit_cons (show encodeChar '.' = [0x2E] by decide) (by decide))
  have hmid : mid.At (('.' :: fraction) ++ 'e' :: sign :: exponent) rest := hmid
  have hat := at_append.1 hmid
  obtain ⟨next, hnext, -, hexp⟩ := readFraction_point hat hf hfne (noDigit_cons hletter (by decide)) (octets whole)
  obtain ⟨past, hpast, hend⟩ := readExponent_at (c := next) hnext hs he hne hr.noDigit hlimit _ _
  refine ⟨past, hpast, ?_⟩
  rw [hread, hexp (by rw [octets_cons, hletter]; rfl)]
  exact hend

/-- digits behind the point and behind zeros -/
theorem isNotation_behind {digits : List Char} {zeros : Nat} (hd : ∀ d ∈ digits, d.isDigit = true) (hne : digits ≠ [])
    (hx : x.Covers ⟨Nat.ofDigitChars 10 digits 0, -(zeros + digits.length : Nat)⟩) :
    IsNotation ('0' :: '.' :: (List.replicate zeros '0' ++ digits)) x := by
  change IsNotation (['0'] ++ '.' :: (List.replicate zeros '0' ++ digits)) x
  refine isNotation_point ⟨by simp, .inl rfl⟩ ?_ ?_ ?_
  · exact fun d hmem => (List.mem_append.1 hmem).elim isDigit_of_mem_replicate (hd d)
  · exact fun h0 => hne (List.append_eq_nil_iff.1 h0).2
  · simpa [Nat.ofDigitChars_append, Nat.ofDigitChars_cons] using hx

/-- digits that zeros bring up to the point -/
theorem isNotation_filled {digits : List Char} {zeros : Nat} (hw : WholeDigits (digits ++ List.replicate zeros '0'))
    (hx : x.Covers ⟨Nat.ofDigitChars 10 digits 0, zeros⟩) :
    IsNotation (digits ++ List.replicate zeros '0' ++ ['.', '0']) x := by
  refine isNotation_point hw (by simp) (by simp) ?_
  have hten : Nat.ofDigitChars 10 (digits ++ List.replicate zeros '0' ++ ['0']) 0 =
      Nat.ofDigitChars 10 digits 0 * 10 ^ (zeros + 1) := by
    simp only [Nat.ofDigitChars_append, Nat.ofDigitChars_replicate_zero, Nat.ofDigitChars_cons, Nat.ofDigitChars_nil]
    simp only [Nat.sub_self, Nat.add_zero]
    ring
  have hscale : -((['0'] : List Char).length : Int) + (zeros + 1 : Nat) = zeros := by
    simp only [List.length_singleton]
    omega
  rw [hten, Binary64.covers_mul_pow, hscale]
  exact hx

end Notations

namespace Layout

/-- the text of a magnitude -/
def body (layout : Layout) (x : Binary64) : List Char :=
  let digits := Nat.toDigits 10 x.shortest.digits
  let lead := x.shortest.exponent + (digits.length - 1 : Nat)
  if layout.leastPositional ≤ lead ∧ lead ≤ layout.greatestPositional then layout.positional digits lead
  else scientific digits lead

theorem text_eq (layout : Layout) (x : Binary64) :
    layout.text x = if x.negative then '-' :: layout.body x else layout.body x := rfl

variable {x : Binary64}

theorem isNotation_positional {layout : Layout} (hk : layout.keepsPoint = true) {n : Nat} {e : Int}
    (hx : x.Covers ⟨n, e⟩) (hzero : n = 0 → e = 0) :
    IsNotation (layout.positional (Nat.toDigits 10 n) (e + ((Nat.toDigits 10 n).length - 1 : Nat))) x := by
  have hdigits := toDigits_isDigit n
  have hpos : 0 < (Nat.toDigits 10 n).length := Nat.length_toDigits_pos
  have hvalue : Nat.ofDigitChars 10 (Nat.toDigits 10 n) 0 = n := Nat.ofDigitChars_ten_toDigits
  have hfilled : ∀ {k}, (n = 0 → k = 0) → WholeDigits (Nat.toDigits 10 n ++ List.replicate k '0') := wholeDigits_filled
  have htake : ∀ {k}, 0 < k → WholeDigits ((Nat.toDigits 10 n).take k) := wholeDigits_take
  generalize Nat.toDigits 10 n = digits at *
  unfold positional
  split_ifs with hlead
  · -- the digits stand behind the point
    refine isNotation_behind hdigits (List.ne_nil_of_length_pos hpos) ?_
    have hscale : -(((-(e + (digits.length - 1 : Nat)) - 1).toNat + digits.length : Nat) : Int) = e := by
      omega
    rw [hvalue, hscale]
    exact hx
  · simp only
    split_ifs with hlen
    · -- the digits stand in front of the point
      set zeros := (e + (digits.length - 1 : Nat)).toNat + 1 - digits.length with hzeros
      have hscale : (zeros : Int) = e := by omega
      have hnone : n = 0 → zeros = 0 := fun h0 => by
        have := hzero h0
        omega
      exact isNotation_filled (hfilled hnone) (by rwa [hvalue, hscale])
    · -- the point stands inside the digits
      set places := (e + (digits.length - 1 : Nat)).toNat + 1 with hplaces
      have hscale : -((digits.drop places).length : Int) = e := by
        rw [List.length_drop]
        omega
      refine isNotation_point (htake (Nat.succ_pos _)) (fun d hd => hdigits d (List.mem_of_mem_drop hd)) ?_ ?_
      · intro h0
        have := List.drop_eq_nil_iff.1 h0
        omega
      · rw [List.take_append_drop, hvalue, hscale]
        exact hx

theorem isNotation_scientific {n : Nat} {e : Int} (hx : x.Covers ⟨n, e⟩)
    (hlimit : (e + ((Nat.toDigits 10 n).length - 1 : Nat)).natAbs ≤ exponentLimit) :
    IsNotation (scientific (Nat.toDigits 10 n) (e + ((Nat.toDigits 10 n).length - 1 : Nat))) x := by
  have hdigits := toDigits_isDigit n
  have hfirst : WholeDigits ((Nat.toDigits 10 n).take 1) := wholeDigits_take (by decide)
  have hne : Nat.toDigits 10 n ≠ [] := Nat.toDigits_ne_nil
  have hvalue : Nat.ofDigitChars 10 (Nat.toDigits 10 n) 0 = n := Nat.ofDigitChars_ten_toDigits
  generalize Nat.toDigits 10 n = digits at *
  set lead := e + (digits.length - 1 : Nat) with hlead
  have hsign : ∃ sign, (sign = '+' ∨ sign = '-') ∧ (if lead < 0 then ['-'] else ['+']) = [sign] ∧
      signedExponent sign (Nat.toDigits 10 lead.natAbs) = lead := by
    unfold signedExponent
    by_cases hneg : lead < 0
    · exact ⟨'-', .inr rfl, by rw [if_pos hneg], by rw [if_pos rfl, Nat.ofDigitChars_ten_toDigits]; omega⟩
    · exact ⟨'+', .inl rfl, by rw [if_neg hneg], by
        rw [if_neg (by decide), Nat.ofDigitChars_ten_toDigits]; omega⟩
  obtain ⟨sign, hs, htext, hexponent⟩ := hsign
  have hexp := toDigits_isDigit lead.natAbs
  have hexpne : Nat.toDigits 10 lead.natAbs ≠ [] := Nat.toDigits_ne_nil
  rw [← Nat.ofDigitChars_ten_toDigits (n := lead.natAbs)] at hlimit
  unfold scientific
  rw [htext]
  match digits, hdigits, hfirst, hvalue with
  | [], _, _, _ => exact absurd rfl hne
  | [d], _, hfirst, hvalue =>
    change IsNotation ([d] ++ 'e' :: sign :: Nat.toDigits 10 lead.natAbs) x
    refine isNotation_exponent hfirst hs hexp hexpne hlimit ?_
    rw [hvalue, hexponent, hlead]
    simpa using hx
  | d :: f :: fraction, hdigits, hfirst, hvalue =>
    change IsNotation ([d] ++ '.' :: (f :: fraction ++ 'e' :: sign :: Nat.toDigits 10 lead.natAbs)) x
    refine isNotation_point_exponent hfirst (fun a ha => hdigits a (List.mem_cons_of_mem _ ha)) (by simp) hs hexp hexpne
      hlimit ?_
    have hscale : signedExponent sign (Nat.toDigits 10 lead.natAbs) - (f :: fraction).length = e := by
      rw [hexponent, hlead]
      simp only [List.length_cons]
      omega
    rw [List.singleton_append, hvalue, hscale]
    exact hx

/-- the text of a magnitude is that of a decimal in its interval -/
theorem isNotation_body {layout : Layout} (hk : layout.keepsPoint = true) (x : Binary64) :
    IsNotation (layout.body x) x := by
  have hx : x.Covers ⟨x.shortest.digits, x.shortest.exponent⟩ := x.covers_shortest
  have hzero : x.significand = 0 → x.shortest = ⟨0, 0⟩ := fun h0 => by rw [Binary64.shortest, if_pos h0]
  unfold body
  simp only
  split_ifs
  · exact isNotation_positional hk hx fun h0 => by rw [Binary64.shortest_eq_zero h0]
  · refine isNotation_scientific hx ?_
    have hpos : 0 < (Nat.toDigits 10 x.shortest.digits).length := Nat.length_toDigits_pos
    rw [exponentLimit]
    by_cases hsig : x.significand = 0
    · rw [hzero hsig]
      decide
    · have hhigh := Binary64.top_le_of_covers hx (Nat.pos_of_ne_zero (Binary64.shortest_digits_ne_zero hsig))
      have hlow := Binary64.le_top_of_covers hx hsig
      omega

end Layout

/-! ## Numbers -/

namespace Number

/-- the number is a double, or an integer that fits in 64 bits, signed or not -/
def Fits : Number → Prop
  | int i => -0x8000000000000000 ≤ i ∧ i < 0x10000000000000000
  | real _ => True

instance (n : Number) : Decidable n.Fits := by
  cases n <;> unfold Fits <;> infer_instance

/-- whether the text starts with a minus sign -/
def isNegative : Number → Bool
  | int i => i < 0
  | real x => x.negative

/-- the text behind the sign -/
def body : Number → List Char
  | int i => Nat.toDigits 10 i.natAbs
  | real x => layout.body x

theorem chars_eq (n : Number) : n.chars = if n.isNegative then '-' :: n.body else n.body := by
  cases n with
  | int i => simp [chars, intChars, isNegative, body]
  | real x => exact Layout.text_eq _ _

theorem scans_int (i : Int) : Scans (int i).body (.whole (octets (Nat.toDigits 10 i.natAbs))) := by
  intro c rest h hr
  rw [body] at h
  obtain ⟨past, hpast, hread⟩ := readNumeral_whole h (wholeDigits_toDigits _) hr.noDigit
  exact ⟨past, hpast, by rw [hread, readFraction_end hpast hr]⟩

/-- the text behind the sign is read as one numeral wherever it stands -/
theorem exists_scans (n : Number) : ∃ numeral, Scans n.body numeral := by
  cases n with
  | int i => exact ⟨_, scans_int i⟩
  | real x =>
    obtain ⟨numeral, hscans, -⟩ := Layout.isNotation_body (show layout.keepsPoint = true from rfl) x
    exact ⟨numeral, hscans⟩

/-- the text behind the sign is read as a numeral that has the value of the number -/
def IsReadBack (n : Number) : Prop :=
  ∃ numeral, Scans n.body numeral ∧ numeral.value? n.isNegative = some n

variable {n : Number} {c : Cursor} {rest : Bytes}

/-- where a number is read back in one place, it is in every other -/
theorem isReadBack_of_readNumber {past : Cursor} (hr : EndsNumber rest) (h : c.At n.body rest)
    (hread : c.readNumber n.isNegative = .ok (n, past)) : n.IsReadBack := by
  obtain ⟨numeral, hscans⟩ := n.exists_scans
  obtain ⟨behind, -, hnumeral⟩ := hscans c rest h hr
  refine ⟨numeral, hscans, ?_⟩
  simp only [readNumber, hnumeral, bind, Except.bind] at hread
  cases hvalue : numeral.value? n.isNegative with
  | none =>
    rw [hvalue] at hread
    cases hread
  | some m =>
    rw [hvalue] at hread
    cases hread
    rfl

theorem IsReadBack.readNumber (hn : n.IsReadBack) (hr : EndsNumber rest) (h : c.At n.body rest) :
    ∃ past : Cursor, past.rest = rest ∧ c.readNumber n.isNegative = .ok (n, past) := by
  obtain ⟨numeral, hscans, hvalue⟩ := hn
  obtain ⟨past, hpast, hnumeral⟩ := hscans c rest h hr
  exact ⟨past, hpast, by simp only [Cursor.readNumber, hnumeral, bind, Except.bind, hvalue]; rfl⟩

/-- **An integer that fits in 64 bits is read back.** -/
theorem isReadBack_int {i : Int} (hi : (int i).Fits) : (int i).IsReadBack := by
  refine ⟨_, scans_int i, ?_⟩
  simp only [Fits] at hi
  have hlt : Nat.ofDigitChars 10 (Nat.toDigits 10 i.natAbs) 0 < 0x10000000000000000 := by
    rw [Nat.ofDigitChars_ten_toDigits]
    omega
  rw [Numeral.value?, gather_octets (toDigits_isDigit _) hlt, Nat.ofDigitChars_ten_toDigits]
  simp only [isNegative, decide_eq_true_eq]
  split_ifs with hneg hrange
  · rw [show -(i.natAbs : Int) = i by omega]
  · omega
  · rw [show (i.natAbs : Int) = i by omega]

end Number

end ToolGateway
