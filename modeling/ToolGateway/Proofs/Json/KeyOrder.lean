import ToolGateway.Proofs.Json.Grammar

/-!
The order of the names in a canonical form.

The members of an object are written in the order of the UTF-16 units of their names, so the form does not depend on the
order in which they are found. Names are ordered by code point, but where two of them part at a pair of surrogates and a
unit above the surrogates, the pair comes first (`Utf16.Orders`). That is where a form sorted by octets would differ.

- `sortByUnits_ascending`: names that are distinct are put in strictly ascending order.
- `canonical_object`: the form of an object is that of its members in this order, with commas between them.
- `names_eq_of_written`: the names and their order can be told from such a text.
- `canonical_names_ordered`: the order, and what it means for the forms of objects.
-/

namespace ToolGateway.Json

variable {α : Type}

/-- the names are strictly ascending by their UTF-16 units -/
def UnitsAscending (members : List (String × α)) : Prop :=
  members.Pairwise fun a b => Utf16.compare a.1 b.1 = .lt

theorem sortByUnits_ascending {members : List (String × α)} (hn : (members.map (·.1)).Nodup) :
    UnitsAscending (sortByUnits members) := by
  have hnames : ((sortByUnits members).map (·.1)).Nodup := ((sortByUnits_perm members).map _).nodup_iff.2 hn
  refine ((sortByUnits_pairwise members).and (List.pairwise_map.1 hnames)).imp fun {a b} h => ?_
  obtain ⟨hle, hne⟩ := h
  cases hab : Utf16.compare a.1 b.1 with
  | lt => rfl
  | eq => exact absurd (Utf16.compare_eq_eq.1 hab) hne
  | gt =>
    rw [hab] at hle
    cases hle

/-- a name in quotes and the canonical form of its value -/
def canonicalEntry (m : String × Json) : String :=
  String.ofList (quotedChars m.1) ++ ":" ++ m.2.canonical

/-- the members in the order of the list, with commas between them and braces around them -/
def written (members : List (String × Json)) : String :=
  "\x7b" ++ ",".intercalate (members.map canonicalEntry) ++ "\x7d"

theorem toList_canonicalEntry (m : String × Json) : (canonicalEntry m).toList = memberText (canonicalMember m) := by
  simp [canonicalEntry, canonicalMember, memberText, canonical]

theorem toList_written (members : List (String × Json)) :
    (written members).toList = '\x7b' :: (joinMembers (members.map canonicalMember) ++ ['\x7d']) := by
  have hentries : (members.map canonicalEntry).map String.toList = (members.map canonicalMember).map memberText := by
    simp [toList_canonicalEntry]
  rw [joinMembers_eq, Grammar.joinItems_eq_intercalate, ← hentries]
  simp [written]

theorem canonical_object (members : List (String × Json)) :
    canonical (object members) = written (sortByUnits members) := by
  rw [← String.toList_inj, toList_written, canonical, String.toList_ofList, canonicalChars_object]

/-- a text is written for one list of names, in one order -/
theorem names_eq_of_written {us vs : List (String × Json)} (h : written us = written vs) :
    us.map (·.1) = vs.map (·.1) := by
  have htexts := congrArg String.toList h
  simp only [toList_written, joinMembers_eq, List.map_map, List.cons.injEq, true_and] at htexts
  have hmember : ∀ m ∈ us, ∀ (n : String × Json) (r r' : List Char),
      (memberText ∘ canonicalMember) m ++ r = (memberText ∘ canonicalMember) n ++ r' →
        EndsValue r → EndsValue r' → AlikeMember m n ∧ r = r' := by
    intro m _ n r r' heq hr hr'
    exact member_append_inj (canonicalChars_append_inj m.2) heq hr hr'
  obtain ⟨hall, -⟩ := joinItems_inj (by decide) (by decide) (fun m _ => ⟨'"', _, rfl, by decide⟩) hmember htexts
  rw [← List.forall₂_eq_eq_eq, List.forall₂_map_left_iff, List.forall₂_map_right_iff]
  exact hall.imp fun m n hmn => hmn.1

/-- **Names are put in one order, which differs from that of their octets only at crossed characters.**

- Comparing by UTF-16 units is a linear order of texts with the laws of `Utf16.Orders`: a text comes before what it is
  continued to, and else the first characters that differ decide.
- In the canonical form of an object the names are strictly ascending in this order, and the members are exactly those
  of the object, whatever the order in which they are found. No other names, and no other order, give this text. -/
theorem canonical_names_ordered :
    Utf16.Orders Utf16.compare ∧
      ∀ members : List (String × Json), (members.map (·.1)).Nodup →
        ∃ sorted : List (String × Json), sorted.Perm members ∧ UnitsAscending sorted ∧
          (∀ found : List (String × Json), found.Perm members → canonical (object found) = written sorted) ∧
          ∀ other : List (String × Json), written other = written sorted → other.map (·.1) = sorted.map (·.1) := by
  refine ⟨Utf16.orders_compare, fun members hn => ?_⟩
  refine ⟨sortByUnits members, sortByUnits_perm members, sortByUnits_ascending hn, fun found hfound => ?_, ?_⟩
  · rw [canonical_object, sortByUnits_eq_of_perm hn hfound.symm]
  · exact fun other => names_eq_of_written

/-- A pair of surrogates is written before a unit above them, though its octets are the greater ones. -/
theorem canonical_names_ordered_crossed :
    let members : List (String × Json) := [("｡", bool true), ("😀", null)]
    (members.map (·.1)).Nodup ∧ Utf16.DifferAt "😀" "｡" '😀' '｡' ∧ Utf16.Crossed '😀' '｡' ∧
      Utf16.compare "😀" "｡" = .lt ∧ ¬ (Utf8.encode "😀" < Utf8.encode "｡") ∧
      canonical (object members) = "\x7b\"😀\":null,\"｡\":true\x7d" := by
  intro members
  have hn : (members.map (·.1)).Nodup := by decide
  have hdiffer : Utf16.DifferAt "😀" "｡" '😀' '｡' := ⟨by decide, [], [], [], rfl, rfl⟩
  have hcrossed : Utf16.Crossed '😀' '｡' := by decide
  obtain ⟨horders, hforms⟩ := canonical_names_ordered
  have hlt : Utf16.compare "😀" "｡" = .lt := by
    rw [horders.differ _ _ _ _ hdiffer, if_pos hcrossed]
    decide
  have hoctets : ¬ (Utf8.encode "😀" < Utf8.encode "｡") := fun hencode =>
    (horders.octets _ _).1 (iff_of_true hlt hencode) ⟨_, _, hdiffer, hcrossed⟩
  refine ⟨hn, hdiffer, hcrossed, hlt, hoctets, ?_⟩
  obtain ⟨sorted, hperm, hsorted, hwritten, -⟩ := hforms members hn
  have hswapped : UnitsAscending [("😀", null), ("｡", bool true)] := by
    simpa [UnitsAscending] using hlt
  have heq : sorted = [("😀", null), ("｡", bool true)] := by
    refine List.Perm.eq_of_pairwise (fun a b _ _ hab hba => ?_) hsorted hswapped (hperm.trans (.swap _ _ _))
    rw [horders.swap, hab] at hba
    cases hba
  rw [hwritten members (.refl _), heq]
  decide +kernel

end ToolGateway.Json
