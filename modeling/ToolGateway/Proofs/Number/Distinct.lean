import ToolGateway.Proofs.Number.ReadBack

/-!
Distinct numbers have distinct texts.

- `chars_injective`: the text of a number tells the number, integers of any size and doubles alike; the text of a double
  is never that of an integer.
- `chars_append_inj`: a number ends where the first character comes that no number is written with.
-/

namespace ToolGateway

open Utf8

/-- the characters that numbers are written with -/
def isNumeral (c : Char) : Bool :=
  c.isDigit || c == '-' || c == '+' || c == '.' || c == 'e'

theorem isNumeral_of_isDigit {c : Char} (h : c.isDigit = true) : isNumeral c = true := by
  simp [isNumeral, h]

namespace Layout

theorem positional_chars {layout : Layout} {digits : List Char} {lead : Int} (hk : layout.keepsPoint = true)
    (hd : ∀ d ∈ digits, d.isDigit = true) :
    (∀ c ∈ layout.positional digits lead, isNumeral c = true) ∧ '.' ∈ layout.positional digits lead := by
  have hzeros : ∀ n, ∀ c ∈ List.replicate n '0', isNumeral c = true := fun n c hc => by
    rw [(List.mem_replicate.1 hc).2]; rfl
  have hall : ∀ c ∈ digits, isNumeral c = true := fun c hc => isNumeral_of_isDigit (hd c hc)
  unfold positional
  simp only [hk]
  split_ifs
  · refine ⟨fun c hc => ?_, by simp⟩
    simp only [List.mem_cons, List.mem_append] at hc
    rcases hc with rfl | rfl | hc | hc
    · rfl
    · rfl
    · exact hzeros _ c hc
    · exact hall c hc
  · refine ⟨fun c hc => ?_, by simp⟩
    simp only [List.mem_cons, List.mem_append, List.not_mem_nil, or_false] at hc
    rcases hc with (hc | hc) | rfl | rfl
    · exact hall c hc
    · exact hzeros _ c hc
    · rfl
    · rfl
  · refine ⟨fun c hc => ?_, by simp⟩
    simp only [List.mem_cons, List.mem_append] at hc
    rcases hc with hc | rfl | hc
    · exact hall c (List.mem_of_mem_take hc)
    · rfl
    · exact hall c (List.mem_of_mem_drop hc)

theorem scientific_chars {digits : List Char} {lead : Int} (hne : digits ≠ [])
    (hd : ∀ d ∈ digits, d.isDigit = true) :
    (∀ c ∈ scientific digits lead, isNumeral c = true) ∧ 'e' ∈ scientific digits lead := by
  have hexp : ∀ c ∈ (if lead < 0 then ['-'] else ['+']) ++ Nat.toDigits 10 lead.natAbs, isNumeral c = true := by
    intro c hc
    rcases List.mem_append.1 hc with hc | hc
    · split_ifs at hc <;> (rw [List.mem_singleton.1 hc]; rfl)
    · exact isNumeral_of_isDigit (toDigits_isDigit _ c hc)
  have hall : ∀ c ∈ digits, isNumeral c = true := fun c hc => isNumeral_of_isDigit (hd c hc)
  unfold scientific
  simp only
  generalize (if lead < 0 then ['-'] else ['+']) ++ Nat.toDigits 10 lead.natAbs = exponent at hexp
  split
  · exact absurd rfl hne
  · refine ⟨fun c hc => ?_, by simp⟩
    simp only [List.mem_cons] at hc
    rcases hc with rfl | rfl | hc
    · exact hall _ List.mem_cons_self
    · rfl
    · exact hexp c hc
  · refine ⟨fun c hc => ?_, by simp⟩
    simp only [List.mem_cons, List.mem_append] at hc
    rcases hc with rfl | rfl | hc | rfl | hc
    · exact hall _ List.mem_cons_self
    · rfl
    · exact hall c (List.mem_cons_of_mem _ hc)
    · rfl
    · exact hexp c hc

theorem positional_head {layout : Layout} {digits : List Char} {lead : Int} (hne : digits ≠ [])
    (hd : ∀ d ∈ digits, d.isDigit = true) :
    ∃ d more, layout.positional digits lead = d :: more ∧ d.isDigit = true := by
  obtain ⟨d, digits, rfl⟩ := List.exists_cons_of_ne_nil hne
  unfold positional
  simp only
  split_ifs
  · exact ⟨_, _, rfl, rfl⟩
  · exact ⟨d, _, rfl, hd d List.mem_cons_self⟩
  · exact ⟨d, _, rfl, hd d List.mem_cons_self⟩
  · exact ⟨d, _, rfl, hd d List.mem_cons_self⟩

theorem scientific_head {digits : List Char} {lead : Int} (hne : digits ≠ [])
    (hd : ∀ d ∈ digits, d.isDigit = true) :
    ∃ d more, scientific digits lead = d :: more ∧ d.isDigit = true := by
  match digits, hne with
  | [d], _ => exact ⟨d, _, rfl, hd d List.mem_cons_self⟩
  | d :: e :: digits, _ => exact ⟨d, _, rfl, hd d List.mem_cons_self⟩

/-- the text of a magnitude has a point or an exponent -/
theorem body_chars {layout : Layout} (hk : layout.keepsPoint = true) (x : Binary64) :
    (∀ c ∈ layout.body x, isNumeral c = true) ∧ ∃ c ∈ layout.body x, c.isDigit = false := by
  have hd := toDigits_isDigit x.shortest.digits
  unfold body
  simp only
  split_ifs
  · exact ⟨(positional_chars hk hd).1, '.', (positional_chars hk hd).2, rfl⟩
  · exact ⟨(scientific_chars Nat.toDigits_ne_nil hd).1, 'e', (scientific_chars Nat.toDigits_ne_nil hd).2, rfl⟩

theorem body_head (layout : Layout) (x : Binary64) :
    ∃ d more, layout.body x = d :: more ∧ d.isDigit = true := by
  have hd := toDigits_isDigit x.shortest.digits
  unfold body
  simp only
  split_ifs
  · exact positional_head Nat.toDigits_ne_nil hd
  · exact scientific_head Nat.toDigits_ne_nil hd

end Layout

namespace Number

theorem body_numeral (n : Number) : ∀ c ∈ n.body, isNumeral c = true := by
  cases n with
  | int i => exact fun c hc => isNumeral_of_isDigit (toDigits_isDigit _ c hc)
  | real x => exact (Layout.body_chars rfl x).1

theorem chars_numeral (n : Number) : ∀ c ∈ n.chars, isNumeral c = true := by
  rw [chars_eq]
  split_ifs
  · intro c hc
    rcases List.mem_cons.1 hc with rfl | hc
    · rfl
    · exact body_numeral n c hc
  · exact body_numeral n

/-- a digit comes behind the sign -/
theorem body_head (n : Number) : ∃ d more, n.body = d :: more ∧ d.isDigit = true := by
  cases n with
  | int i =>
    obtain ⟨d, more, h⟩ := List.exists_cons_of_ne_nil (Nat.toDigits_ne_nil (n := i.natAbs) (b := 10))
    exact ⟨d, more, h, toDigits_isDigit _ d (h ▸ List.mem_cons_self)⟩
  | real x => exact Layout.body_head _ x

theorem isNegative_eq_of_chars {m n : Number} (h : m.chars = n.chars) : m.isNegative = n.isNegative := by
  obtain ⟨d, more, hm, hd⟩ := m.body_head
  obtain ⟨e, more', hn, he⟩ := n.body_head
  rw [chars_eq, chars_eq, hm, hn] at h
  split_ifs at h with h1 h2 h2
  · rw [h1, h2]
  · rw [← (List.cons.inj h).1] at he
    exact absurd he (by decide)
  · rw [(List.cons.inj h).1] at hd
    exact absurd hd (by decide)
  · rw [Bool.not_eq_true] at h1 h2
    rw [h1, h2]

theorem body_eq_of_chars {m n : Number} (h : m.chars = n.chars) : m.body = n.body := by
  have hsign := isNegative_eq_of_chars h
  rw [chars_eq, chars_eq, hsign] at h
  split_ifs at h
  · exact (List.cons.inj h).2
  · exact h

/-- the text of a double is no integer's -/
theorem body_real_ne_int (x : Binary64) (i : Int) : (real x).body ≠ (int i).body := by
  intro h
  obtain ⟨c, hc, hdigit⟩ := (Layout.body_chars (show layout.keepsPoint = true from rfl) x).2
  have hc : c ∈ (int i).body := h ▸ hc
  rw [toDigits_isDigit _ c hc] at hdigit
  cases hdigit

/-- **The text of a number tells the number**: integers of any size and doubles alike. -/
theorem chars_injective {m n : Number} (h : m.chars = n.chars) : m = n := by
  have hsign := isNegative_eq_of_chars h
  have hbody := body_eq_of_chars h
  cases m with
  | int i =>
    cases n with
    | int j =>
      have habs : i.natAbs = j.natAbs := by
        have := congrArg (Nat.ofDigitChars 10 · 0) hbody
        simpa [body, Nat.ofDigitChars_ten_toDigits] using this
      simp only [isNegative, decide_eq_decide] at hsign
      rw [show i = j by omega]
    | real y => exact absurd hbody.symm (body_real_ne_int y i)
  | real x =>
    cases n with
    | int j => exact absurd hbody (body_real_ne_int x j)
    | real y =>
      -- one text is read as one decimal, which lies in the intervals of both numbers
      have hkeeps : layout.keepsPoint = true := rfl
      obtain ⟨p, hp, hx⟩ := Layout.isNotation_body hkeeps x
      obtain ⟨q, hq, hy⟩ := Layout.isNotation_body hkeeps y
      have hbody : layout.body x = layout.body y := hbody
      rw [hbody] at hp
      rw [hp.unique hq] at hx
      rw [hx.unique hy hsign]

/-- A number ends where a character stands that no number is written with. -/
theorem chars_append_inj {m n : Number} {r r' : List Char} (h : m.chars ++ r = n.chars ++ r')
    (hr : ∀ c ∈ r.head?, isNumeral c = false) (hr' : ∀ c ∈ r'.head?, isNumeral c = false) : m = n ∧ r = r' := by
  have htake : ∀ (k : Number) (t : List Char), (∀ c ∈ t.head?, isNumeral c = false) →
      (k.chars ++ t).takeWhile isNumeral = k.chars := fun k t ht => by
    have hnone : t.takeWhile isNumeral = [] := by
      cases t with
      | nil => rfl
      | cons c t => simp [ht c rfl]
    rw [List.takeWhile_append_of_pos (chars_numeral k), hnone, List.append_nil]
  have hchars : m.chars = n.chars := by
    rw [← htake m r hr, h, htake n r' hr']
  rw [hchars] at h
  exact ⟨chars_injective hchars, List.append_cancel_left h⟩

end Number

end ToolGateway
