import ToolGateway.Proofs.Except
import ToolGateway.Proofs.Json.Alike
import ToolGateway.Proofs.Json.ReadBack

/-!
What reading gives.

Whatever the text, a value that is read from it is `Readable`, no deeper than the reader allows, and has no name twice in
an object. So what other results assume of a value holds of every value that comes from a text.

- `readNumber_fits`: an integer is kept as one only if it fits in 64 bits.
- `readsWithin`: by induction on the fuel, for values, items and members at once.
- `readsDeeper`: where more containers may be opened, what was read before is read still, and as the same.
- `read_readable`: for whole texts.
-/

namespace ToolGateway

namespace Cursor

open Json

/-! ## Numbers -/

variable {c past : Cursor} {negative : Bool} {value : Number}

theorem gather_lt {acc : Nat} (digits : Bytes) (h : acc < 0x10000000000000000) :
    (Numeral.gather acc digits).1 < 0x10000000000000000 := by
  induction digits generalizing acc with
  | nil => exact h
  | cons b digits ih =>
    rw [Numeral.gather]
    split_ifs with hfits
    · exact ih hfits
    · exact h

theorem real?_fits {significand : Nat} {exponent : Int} (h : Numeral.real? negative significand exponent = some value) :
    value.Fits := by
  obtain ⟨x, -, rfl⟩ := Option.map_eq_some_iff.1 h
  trivial

/-- an integer is made only of a significand, which 64 bits hold -/
theorem value?_fits {numeral : Numeral} (h : numeral.value? negative = some value) : value.Fits := by
  cases numeral with
  | whole digits =>
    have hlt := gather_lt digits (show 0 < 0x10000000000000000 by decide)
    rw [Numeral.value?] at h
    split at h
    · rename_i n hgather
      rw [hgather] at hlt
      split_ifs at h with hneg hrange
      · cases h
        exact ⟨by omega, by omega⟩
      · exact real?_fits h
      · cases h
        exact ⟨by omega, by omega⟩
    · exact real?_fits h
  | decimal front behind exponent => exact real?_fits h

theorem readNumber_fits (h : readNumber negative c = .ok (value, past)) : value.Fits := by
  obtain ⟨⟨numeral, after⟩, -, h⟩ := ok_of_bind h
  simp only at h
  split at h
  · rename_i n hvalue
    cases h
    exact value?_fits hvalue
  · cases h

/-! ## Values -/

/-- the value is readable, and at most `depth` deep -/
def Within (depth : Nat) (j : Json) : Prop :=
  j.Readable ∧ j.depth ≤ depth

theorem within_array {depth : Nat} {items : List Json} (h : ∀ j ∈ items, Within depth j) :
    Within (depth + 1) (array items) := by
  refine ⟨readable_array.2 fun j hj => (h j hj).1, ?_⟩
  exact Nat.succ_le_succ (depthItems_le.2 fun j hj => (h j hj).2)

/-- of members with one name the last counts, and all are put in order -/
theorem within_ofMembers {depth : Nat} {members : List (String × Json)} (h : ∀ m ∈ members, Within depth m.2) :
    Within (depth + 1) (ofMembers members) := by
  have hmem : ∀ m ∈ Table.ofList members, Within depth m.2 := fun m hm => h m (Table.mem_of_mem_ofList hm)
  refine ⟨readable_object.2 ⟨Table.ofList_ascending members, fun m hm => (hmem m hm).1⟩, ?_⟩
  exact Nat.succ_le_succ (depthMembers_le.2 fun m hm => (hmem m hm).2)

/-- what is read with this much fuel is within the depth that was allowed -/
structure ReadsWithin (fuel : Nat) : Prop where
  value : ∀ {depth c j past}, readValue fuel depth c = .ok (j, past) → Within depth j
  items : ∀ {depth isFirst c items past}, readItems fuel depth isFirst c = .ok (items, past) →
    ∀ j ∈ items, Within depth j
  members : ∀ {depth isFirst c members past}, readMembers fuel depth isFirst c = .ok (members, past) →
    ∀ m ∈ members, Within depth m.2

theorem readItems_within {fuel : Nat} (ih : ReadsWithin fuel) {depth : Nat} {isFirst : Bool} {c past : Cursor}
    {items : List Json} (h : readItems (fuel + 1) depth isFirst c = .ok (items, past)) :
    ∀ j ∈ items, Within depth j := by
  rw [readItems] at h
  obtain ⟨⟨more, c⟩, -, h⟩ := ok_of_bind h
  cases more with
  | false =>
    cases h
    simp
  | true =>
    obtain ⟨⟨item, c⟩, hitem, h⟩ := ok_of_bind h
    obtain ⟨⟨rest, c⟩, hrest, h⟩ := ok_of_bind h
    cases h
    intro j hj
    rcases List.mem_cons.1 hj with rfl | hj
    · exact ih.value hitem
    · exact ih.items hrest j hj

theorem readMembers_within {fuel : Nat} (ih : ReadsWithin fuel) {depth : Nat} {isFirst : Bool} {c past : Cursor}
    {members : List (String × Json)} (h : readMembers (fuel + 1) depth isFirst c = .ok (members, past)) :
    ∀ m ∈ members, Within depth m.2 := by
  rw [readMembers] at h
  obtain ⟨⟨more, c⟩, -, h⟩ := ok_of_bind h
  cases more with
  | false =>
    cases h
    simp
  | true =>
    obtain ⟨⟨key, c⟩, -, h⟩ := ok_of_bind h
    obtain ⟨c, -, h⟩ := ok_of_bind h
    obtain ⟨⟨value, c⟩, hvalue, h⟩ := ok_of_bind h
    obtain ⟨⟨rest, c⟩, hrest, h⟩ := ok_of_bind h
    cases h
    intro m hm
    rcases List.mem_cons.1 hm with rfl | hm
    · exact ih.value hvalue
    · exact ih.members hrest m hm

theorem readValue_within {fuel : Nat} (ih : ReadsWithin fuel) {depth : Nat} {c past : Cursor} {j : Json}
    (h : readValue (fuel + 1) depth c = .ok (j, past)) : Within depth j := by
  unfold readValue at h
  simp only at h
  split at h
  · cases h
  · split_ifs at h
    · obtain ⟨c, -, h⟩ := ok_of_bind h
      cases h
      exact ⟨by simp [Readable, Everywhere], Nat.zero_le _⟩
    · obtain ⟨c, -, h⟩ := ok_of_bind h
      cases h
      exact ⟨by simp [Readable, Everywhere], Nat.zero_le _⟩
    · obtain ⟨c, -, h⟩ := ok_of_bind h
      cases h
      exact ⟨by simp [Readable, Everywhere], Nat.zero_le _⟩
    · obtain ⟨⟨n, c⟩, hn, h⟩ := ok_of_bind h
      cases h
      exact ⟨readable_number.2 (readNumber_fits hn), Nat.zero_le _⟩
    · obtain ⟨⟨n, c⟩, hn, h⟩ := ok_of_bind h
      cases h
      exact ⟨readable_number.2 (readNumber_fits hn), Nat.zero_le _⟩
    · obtain ⟨⟨s, c⟩, -, h⟩ := ok_of_bind h
      cases h
      exact ⟨by simp [Readable, Everywhere], Nat.zero_le _⟩
    · cases depth with
      | zero => cases h
      | succ depth =>
        obtain ⟨⟨items, c⟩, hitems, h⟩ := ok_of_bind h
        cases h
        exact within_array (ih.items hitems)
    · cases depth with
      | zero => cases h
      | succ depth =>
        obtain ⟨⟨members, c⟩, hmembers, h⟩ := ok_of_bind h
        cases h
        exact within_ofMembers (ih.members hmembers)
    · cases h

/-- **What is read is readable, and no deeper than was allowed.** -/
theorem readsWithin (fuel : Nat) : ReadsWithin fuel := by
  induction fuel with
  | zero =>
    constructor
    · intro depth c j past h
      cases h
    · intro depth isFirst c items past h
      cases h
    · intro depth isFirst c members past h
      cases h
  | succ fuel ih => exact ⟨readValue_within ih, readItems_within ih, readMembers_within ih⟩

/-! ## More depth -/

/-- what is read with this much fuel is read as well where more containers may be opened -/
structure ReadsDeeper (fuel : Nat) : Prop where
  value : ∀ {depth deeper c r}, depth ≤ deeper → readValue fuel depth c = .ok r → readValue fuel deeper c = .ok r
  items : ∀ {depth deeper isFirst c r}, depth ≤ deeper → readItems fuel depth isFirst c = .ok r →
    readItems fuel deeper isFirst c = .ok r
  members : ∀ {depth deeper isFirst c r}, depth ≤ deeper → readMembers fuel depth isFirst c = .ok r →
    readMembers fuel deeper isFirst c = .ok r

theorem readItems_deeper {fuel : Nat} (ih : ReadsDeeper fuel) {depth deeper : Nat} (hle : depth ≤ deeper)
    {isFirst : Bool} {c : Cursor} {r : List Json × Cursor} (h : readItems (fuel + 1) depth isFirst c = .ok r) :
    readItems (fuel + 1) deeper isFirst c = .ok r := by
  rw [readItems] at h ⊢
  obtain ⟨⟨more, c⟩, hmore, h⟩ := ok_of_bind h
  rw [hmore]
  cases more with
  | false => exact h
  | true =>
    obtain ⟨⟨item, c⟩, hitem, h⟩ := ok_of_bind h
    obtain ⟨⟨rest, c⟩, hrest, h⟩ := ok_of_bind h
    simp only [bind, Except.bind, if_true, ih.value hle hitem, ih.items hle hrest]
    exact h

theorem readMembers_deeper {fuel : Nat} (ih : ReadsDeeper fuel) {depth deeper : Nat} (hle : depth ≤ deeper)
    {isFirst : Bool} {c : Cursor} {r : List (String × Json) × Cursor}
    (h : readMembers (fuel + 1) depth isFirst c = .ok r) : readMembers (fuel + 1) deeper isFirst c = .ok r := by
  rw [readMembers] at h ⊢
  obtain ⟨⟨more, c⟩, hmore, h⟩ := ok_of_bind h
  rw [hmore]
  cases more with
  | false => exact h
  | true =>
    obtain ⟨⟨key, c⟩, hkey, h⟩ := ok_of_bind h
    obtain ⟨c, hcolon, h⟩ := ok_of_bind h
    obtain ⟨⟨value, c⟩, hvalue, h⟩ := ok_of_bind h
    obtain ⟨⟨rest, c⟩, hrest, h⟩ := ok_of_bind h
    simp only [bind, Except.bind, if_true, hkey, hcolon, ih.value hle hvalue, ih.members hle hrest]
    exact h

/-- only where a container opens does the depth count -/
theorem readValue_deeper {fuel : Nat} (ih : ReadsDeeper fuel) {depth deeper : Nat} (hle : depth ≤ deeper)
    {c : Cursor} {r : Json × Cursor} (h : readValue (fuel + 1) depth c = .ok r) :
    readValue (fuel + 1) deeper c = .ok r := by
  unfold readValue at h ⊢
  simp only at h ⊢
  split at h
  · cases h
  · rename_i b _
    by_cases hlist : b = 0x5B
    · subst hlist
      rw [if_neg (by decide), if_neg (by decide), if_neg (by decide), if_neg (by decide), if_neg (by decide),
        if_neg (by decide), if_pos rfl] at h ⊢
      cases depth with
      | zero => cases h
      | succ depth =>
        obtain ⟨deeper, rfl⟩ : ∃ n, deeper = n + 1 := ⟨deeper - 1, by omega⟩
        obtain ⟨⟨items, c⟩, hitems, h⟩ := ok_of_bind h
        simp only [bind, Except.bind, ih.items (Nat.le_of_succ_le_succ hle) hitems]
        exact h
    · by_cases hmap : b = 0x7B
      · subst hmap
        rw [if_neg (by decide), if_neg (by decide), if_neg (by decide), if_neg (by decide), if_neg (by decide),
          if_neg (by decide), if_neg hlist, if_pos rfl] at h ⊢
        cases depth with
        | zero => cases h
        | succ depth =>
          obtain ⟨deeper, rfl⟩ : ∃ n, deeper = n + 1 := ⟨deeper - 1, by omega⟩
          obtain ⟨⟨members, c⟩, hmembers, h⟩ := ok_of_bind h
          simp only [bind, Except.bind, ih.members (Nat.le_of_succ_le_succ hle) hmembers]
          exact h
      · rw [if_neg hlist, if_neg hmap] at h ⊢
        exact h

/-- **Where more containers may be opened, the same is read.** -/
theorem readsDeeper (fuel : Nat) : ReadsDeeper fuel := by
  induction fuel with
  | zero =>
    constructor
    · intro depth deeper c r hle h
      cases h
    · intro depth deeper isFirst c r hle h
      cases h
    · intro depth deeper isFirst c r hle h
      cases h
  | succ fuel ih =>
    exact ⟨fun hle h => readValue_deeper ih hle h, fun hle h => readItems_deeper ih hle h,
      fun hle h => readMembers_deeper ih hle h⟩

end Cursor

namespace Json

/-- names that ascend are distinct -/
theorem Readable.hasDistinctNames {j : Json} (h : j.Readable) : j.HasDistinctNames := by
  induction j with
  | array items ih => exact hasDistinctNames_array.2 fun j hj => ih j hj (readable_array.1 h j hj)
  | object members ih =>
    obtain ⟨hascending, hinner⟩ := readable_object.1 h
    exact hasDistinctNames_object.2 ⟨hascending.nodup, fun m hm => ih m hm (hinner m hm)⟩
  | _ => simp [HasDistinctNames, Everywhere]

/-- **A text is read as a readable value**, nested no deeper than the limit. -/
theorem read_readable {bytes : Bytes} {j : Json} (h : Json.read bytes = .ok j) :
    j.Readable ∧ j.depth ≤ nestingLimit := by
  obtain ⟨⟨value, c⟩, hvalue, h⟩ := ok_of_bind h
  obtain ⟨-, -, h⟩ := ok_of_bind h
  cases h
  exact (Cursor.readsWithin _).value hvalue

end Json

end ToolGateway
