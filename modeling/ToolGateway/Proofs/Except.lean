import Mathlib.Data.List.Forall2

/-!
Steps that may be refused: one after another, and one for each item of a list.

A sequence of steps gives what the last one gives, and is refused for the first one that is. So it is with a list that
is gone through: `mapM_eq_ok` says that each item gives its result, in order, and `mapM_eq_error` that the first item
that is refused decides.
-/

namespace ToolGateway

variable {ε α β : Type}

/-! ## One after another -/

theorem ok_of_bind {x : Except ε α} {f : α → Except ε β} {b : β} (h : (x >>= f) = .ok b) :
    ∃ a, x = .ok a ∧ f a = .ok b := by
  cases x with
  | error e => cases h
  | ok a => exact ⟨a, rfl, h⟩

theorem error_of_bind {x : Except ε α} {f : α → Except ε β} {e : ε} (h : (x >>= f) = .error e) :
    x = .error e ∨ ∃ a, x = .ok a ∧ f a = .error e := by
  cases x with
  | error e =>
    cases h
    exact .inl rfl
  | ok a => exact .inr ⟨a, rfl, h⟩

theorem ok_of_map {r : Except ε α} {f : α → β} {b : β} (h : r.map f = .ok b) :
    ∃ a, r = .ok a ∧ f a = b := by
  cases r with
  | error e => cases h
  | ok a =>
    cases h
    exact ⟨a, rfl, rfl⟩

theorem error_of_map {r : Except ε α} {f : α → β} {e : ε} (h : r.map f = .error e) : r = .error e := by
  cases r with
  | error e =>
    cases h
    rfl
  | ok a => cases h

/-! ## Along a list -/

variable {f : α → Except ε β} {items : List α}

/-- **Going through a list gives one result for each item, in order.** -/
theorem mapM_eq_ok {results : List β} :
    items.mapM f = .ok results ↔ List.Forall₂ (fun a b => f a = .ok b) items results := by
  induction items generalizing results with
  | nil =>
    rw [List.mapM_nil, List.forall₂_nil_left_iff]
    exact ⟨fun h => (Except.ok.inj h).symm, fun h => congrArg Except.ok h.symm⟩
  | cons a items ih =>
    rw [List.mapM_cons, List.forall₂_cons_left_iff]
    constructor
    · intro h
      obtain ⟨b, hb, h⟩ := ok_of_bind h
      obtain ⟨rest, hrest, h⟩ := ok_of_bind h
      cases h
      exact ⟨b, rest, hb, ih.1 hrest, rfl⟩
    · rintro ⟨b, rest, hb, hrest, rfl⟩
      rw [hb, ih.2 hrest]
      rfl

/-- **It is refused for the first item that is refused.** -/
theorem mapM_eq_error {e : ε} :
    items.mapM f = .error e ↔ ∃ before a after, items = before ++ a :: after ∧ (∀ x ∈ before, ∃ b, f x = .ok b) ∧
      f a = .error e := by
  induction items with
  | nil => exact iff_of_false nofun (by simp)
  | cons first items ih =>
    rw [List.mapM_cons]
    constructor
    · intro h
      rcases error_of_bind h with h | ⟨b, hb, h⟩
      · exact ⟨[], first, items, rfl, by simp, h⟩
      · rcases error_of_bind h with h | ⟨_, _, h⟩
        · obtain ⟨before, a, after, rfl, hbefore, ha⟩ := ih.1 h
          refine ⟨first :: before, a, after, rfl, fun x hx => ?_, ha⟩
          rcases List.mem_cons.1 hx with rfl | hx
          · exact ⟨b, hb⟩
          · exact hbefore x hx
        · cases h
    · rintro ⟨before, a, after, hitems, hbefore, ha⟩
      cases before with
      | nil =>
        cases hitems
        rw [ha]
        rfl
      | cons x before =>
        cases hitems
        obtain ⟨b, hb⟩ := hbefore first List.mem_cons_self
        rw [hb, ih.2 ⟨before, a, after, rfl, fun x hx => hbefore x (List.mem_cons_of_mem _ hx), ha⟩]
        rfl

/-- so it comes to its end exactly if no item is refused -/
theorem exists_mapM_eq_ok : (∃ results, items.mapM f = .ok results) ↔ ∀ a ∈ items, ∃ b, f a = .ok b := by
  constructor
  · rintro ⟨results, h⟩ a ha
    replace h := mapM_eq_ok.1 h
    induction h with
    | nil => cases ha
    | cons hfirst _ ih =>
      rcases List.mem_cons.1 ha with rfl | ha
      · exact ⟨_, hfirst⟩
      · exact ih ha
  · intro hall
    cases hresult : items.mapM f with
    | ok results => exact ⟨results, rfl⟩
    | error e =>
      obtain ⟨before, a, after, rfl, -, ha⟩ := mapM_eq_error.1 hresult
      obtain ⟨b, hb⟩ := hall a (by simp)
      rw [hb] at ha
      cases ha

end ToolGateway
