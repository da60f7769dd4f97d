import Mathlib.Tactic
import ToolGateway.Json

/-!
Induction over JSON values, and properties that hold at every level of one.

`Json.induct` gives the hypothesis for all items of an array and for the values of all members of an object.
`Everywhere P` says that `P` holds of a value and of all values inside it. A container is one deeper than the deepest
value in it.
-/

namespace ToolGateway.Json

/-- induction with one hypothesis for the items of an array and one for the values of the members of an object -/
@[elab_as_elim, induction_eliminator]
theorem induct {P : Json → Prop} (null : P null) (bool : ∀ b, P (bool b)) (number : ∀ n, P (number n))
    (string : ∀ s, P (string s)) (array : ∀ items, (∀ j ∈ items, P j) → P (array items))
    (object : ∀ members, (∀ m ∈ members, P m.2) → P (object members)) (j : Json) : P j :=
  match j with
  | .null => null
  | .bool b => bool b
  | .number n => number n
  | .string s => string s
  | .array items => array items fun j _ => induct null bool number string array object j
  | .object members => object members fun m _ => induct null bool number string array object m.2
termination_by sizeOf j
decreasing_by
  · have := List.sizeOf_lt_of_mem ‹_ ∈ items›
    simp only [Json.array.sizeOf_spec]
    omega
  · have := List.sizeOf_lt_of_mem ‹_ ∈ members›
    have : sizeOf m.2 < sizeOf m := by
      cases m
      simp
    simp only [Json.object.sizeOf_spec]
    omega

mutual

/-- `P` holds of the value and of all values inside it -/
def Everywhere (P : Json → Prop) : Json → Prop
  | array items => P (array items) ∧ EverywhereItems P items
  | object members => P (object members) ∧ EverywhereMembers P members
  | null => P null
  | bool b => P (bool b)
  | number n => P (number n)
  | string s => P (string s)

/-- `Everywhere` for each of some items -/
def EverywhereItems (P : Json → Prop) : List Json → Prop
  | [] => True
  | j :: rest => Everywhere P j ∧ EverywhereItems P rest

/-- `Everywhere` for the value of each of some members -/
def EverywhereMembers (P : Json → Prop) : List (String × Json) → Prop
  | [] => True
  | (_, j) :: rest => Everywhere P j ∧ EverywhereMembers P rest

end

variable {P : Json → Prop}

theorem everywhereItems_iff {items : List Json} : EverywhereItems P items ↔ ∀ j ∈ items, Everywhere P j := by
  induction items with
  | nil => simp [EverywhereItems]
  | cons j rest ih => simp [EverywhereItems, ih]

theorem everywhereMembers_iff {members : List (String × Json)} :
    EverywhereMembers P members ↔ ∀ m ∈ members, Everywhere P m.2 := by
  induction members with
  | nil => simp [EverywhereMembers]
  | cons m rest ih => simp [EverywhereMembers, ih]

@[simp] theorem everywhere_array {items : List Json} :
    Everywhere P (array items) ↔ P (array items) ∧ ∀ j ∈ items, Everywhere P j := by
  rw [Everywhere, everywhereItems_iff]

@[simp] theorem everywhere_object {members : List (String × Json)} :
    Everywhere P (object members) ↔ P (object members) ∧ ∀ m ∈ members, Everywhere P m.2 := by
  rw [Everywhere, everywhereMembers_iff]

theorem depthItems_le {items : List Json} {n : Nat} : depthItems items ≤ n ↔ ∀ j ∈ items, j.depth ≤ n := by
  induction items with
  | nil => simp [depthItems]
  | cons j rest ih => simp [depthItems, ih]

theorem depthMembers_le {members : List (String × Json)} {n : Nat} :
    depthMembers members ≤ n ↔ ∀ m ∈ members, m.2.depth ≤ n := by
  induction members with
  | nil => simp [depthMembers]
  | cons m rest ih => simp [depthMembers, ih]

end ToolGateway.Json
