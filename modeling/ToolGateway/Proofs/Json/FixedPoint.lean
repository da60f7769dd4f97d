import ToolGateway.Proofs.Json.Grammar
import ToolGateway.Proofs.Json.Reading

/-!
The canonical form is read and written again as it is.

A canonical form is not read as the value it was written for: numbers have been collapsed, and the members stand in the
order of UTF-16 units, which the reader gives up again for its own. What is read is `collapsed`, a value like the first
one, so its canonical form is the same. Of doubles this asks only that the text of one is read as it, and of those only
that have not been collapsed (`standsFor_number`).

- `standsFor_canonicalChars`: the canonical form of a value stands for the collapsed value.
- `read_canonical`: as a whole text it is read as that, unless the value is nested too deep for a text;
  `depth_le_of_read_canonical`: then it is not read at all.
- `canonicalOf_canonical`: reading the canonical form and writing it again changes nothing, so doing that to any text
  twice is doing it once.
-/

namespace ToolGateway

open Utf8 Cursor

namespace Number

variable {n : Number}

/-- a double is collapsed only to an integer that fits in 64 bits -/
theorem fits_collapse (h : n.Fits) : n.collapse.Fits := by
  cases n with
  | int i => exact h
  | real x =>
    rw [collapse]
    split_ifs with hint
    · simp only [Bool.and_eq_true, decide_eq_true_eq] at hint
      exact ⟨by omega, by omega⟩
    · trivial

theorem collapse_collapse (n : Number) : n.collapse.collapse = n.collapse := by
  rcases n.collapse_cases with ⟨i, hi⟩ | ⟨x, rfl, hx⟩
  · rw [hi, collapse]
  · rw [hx, hx]

end Number

namespace Json

variable {depth : Nat}

/-! ## The value that is read -/

mutual

/-- the value with each number in it collapsed -/
def collapsed : Json → Json
  | null => null
  | bool b => bool b
  | number n => number n.collapse
  | string s => string s
  | array items => array (collapsedItems items)
  | object members => object (collapsedMembers members)

/-- `collapsed` for each of some items -/
def collapsedItems : List Json → List Json
  | [] => []
  | j :: rest => collapsed j :: collapsedItems rest

/-- `collapsed` for the value of each of some members -/
def collapsedMembers : List (String × Json) → List (String × Json)
  | [] => []
  | (k, j) :: rest => (k, collapsed j) :: collapsedMembers rest

end

theorem collapsedItems_eq_map (items : List Json) : collapsedItems items = items.map collapsed := by
  induction items with
  | nil => rfl
  | cons j rest ih => rw [collapsedItems, ih, List.map_cons]

theorem collapsedMembers_eq_map (members : List (String × Json)) :
    collapsedMembers members = members.map fun m => (m.1, collapsed m.2) := by
  induction members with
  | nil => rfl
  | cons m rest ih => rw [collapsedMembers, ih, List.map_cons]

theorem alike_collapsed (j : Json) : j.Alike j.collapsed := by
  induction j with
  | null => trivial
  | bool b => rfl
  | number n => exact Number.collapse_eq_collapse.1 n.collapse_collapse.symm
  | string s => rfl
  | array items ih =>
    rw [collapsed, collapsedItems_eq_map, alike_array, List.forall₂_map_right_iff, List.forall₂_same]
    exact ih
  | object members ih =>
    rw [collapsed, collapsedMembers_eq_map, alike_object]
    refine ⟨_, ?_, .refl _⟩
    rw [List.forall₂_map_right_iff, List.forall₂_same]
    exact fun m hm => ⟨rfl, ih m hm⟩

theorem depth_collapsed (j : Json) : j.collapsed.depth = j.depth := by
  induction j with
  | array items ih =>
    have hitems : depthItems (items.map collapsed) = depthItems items := by
      refine eq_of_forall_ge_iff fun n => ?_
      rw [depthItems_le, depthItems_le, List.forall_mem_map]
      exact forall₂_congr fun j hj => by rw [ih j hj]
    rw [collapsed, collapsedItems_eq_map, Json.depth, Json.depth, hitems]
  | object members ih =>
    have hmembers : depthMembers (members.map fun m => (m.1, m.2.collapsed)) = depthMembers members := by
      refine eq_of_forall_ge_iff fun n => ?_
      rw [depthMembers_le, depthMembers_le, List.forall_mem_map]
      exact forall₂_congr fun m hm => by rw [ih m hm]
    rw [collapsed, collapsedMembers_eq_map, Json.depth, Json.depth, hmembers]
  | _ => rfl

/-! ## Reading the canonical form -/

theorem joinItems_eq_separated (texts : List (List Char)) : joinItems texts = separated true texts := by
  induction texts with
  | nil => rfl
  | cons text rest ih =>
    cases rest with
    | nil => simp [joinItems, separated, separator]
    | cons next rest =>
      rw [joinItems, ih]
      · simp [separated, separator]
      · intro h
        cases h

theorem doublesReread_collapsed_array {items : List Json} :
    (array items).collapsed.DoublesReread ↔ ∀ j ∈ items, j.collapsed.DoublesReread := by
  rw [collapsed, collapsedItems_eq_map, doublesReread_array, List.forall_mem_map]

theorem doublesReread_collapsed_object {members : List (String × Json)} :
    (object members).collapsed.DoublesReread ↔ ∀ m ∈ members, m.2.collapsed.DoublesReread := by
  rw [collapsed, collapsedMembers_eq_map, doublesReread_object, List.forall_mem_map]

/-- **The canonical form of a value stands for the collapsed value.** -/
theorem standsFor_canonicalChars {j : Json} (h : j.Readable) (hd : j.collapsed.DoublesReread)
    (hdepth : j.depth ≤ depth) : StandsFor (canonicalChars j) depth j.collapsed := by
  induction j generalizing depth with
  | null => exact standsFor_null depth
  | bool b =>
    cases b
    · exact standsFor_false depth
    · exact standsFor_true depth
  | number n =>
    have hfits : n.collapse.Fits := Number.fits_collapse (readable_number.1 h)
    exact standsFor_number (hfits.isReadBack (doublesReread_number.1 hd)) depth
  | string s => exact standsFor_string s depth
  | array items ih =>
    rw [Json.depth] at hdepth
    obtain ⟨depth, rfl⟩ : ∃ n, depth = n + 1 := ⟨depth - 1, by omega⟩
    let entries := items.map fun j => (canonicalChars j, j.collapsed)
    have hall : ∀ e ∈ entries, StandsFor e.1 depth e.2 := by
      intro e he
      obtain ⟨j, hj, rfl⟩ := List.mem_map.1 he
      exact ih j hj (readable_array.1 h j hj) (doublesReread_collapsed_array.1 hd j hj)
        (depthItems_le.1 (Nat.le_of_succ_le_succ hdepth) j hj)
    have hstands := standsFor_array Gaps.none hall
    rw [List.map_map, List.map_map, Gaps.enclosed_none] at hstands
    rw [canonicalChars, canonicalItems_eq_map, joinItems_eq_separated, collapsed, collapsedItems_eq_map]
    exact hstands
  | object members ih =>
    rw [Json.depth] at hdepth
    obtain ⟨depth, rfl⟩ : ∃ n, depth = n + 1 := ⟨depth - 1, by omega⟩
    obtain ⟨hascending, hinner⟩ := readable_object.1 h
    -- the text has the members by UTF-16 units, the value that is read has them by code points
    let entries := (sortByUnits members).map fun m => (m.1, canonicalChars m.2, m.2.collapsed)
    have hall : ∀ e ∈ entries, StandsFor e.2.1 depth e.2.2 := by
      intro e he
      obtain ⟨m, hm, rfl⟩ := List.mem_map.1 he
      have hm : m ∈ members := (sortByUnits_perm members).mem_iff.1 hm
      exact ih m hm (hinner m hm) (doublesReread_collapsed_object.1 hd m hm)
        (depthMembers_le.1 (Nat.le_of_succ_le_succ hdepth) m hm)
    have hvalue : Table.ofList (entries.map fun e => (e.1, e.2.2)) = members.map fun m => (m.1, m.2.collapsed) := by
      rw [List.map_map]
      exact Table.ofList_eq_of_perm (hascending.map _ fun _ _ hlt => hlt) ((sortByUnits_perm members).map _)
    have hstands := standsFor_object Gaps.none hall
    rw [ofMembers, hvalue, List.map_map, Gaps.enclosed_none] at hstands
    rw [canonicalChars_object, joinMembers_eq, joinItems_eq_separated, List.map_map, collapsed,
      collapsedMembers_eq_map]
    exact hstands

/-- **A canonical form is read as a value like the one it was written for.** -/
theorem read_canonical {j : Json} (h : j.Readable) (hd : j.collapsed.DoublesReread) (hdepth : j.depth ≤ nestingLimit) :
    Json.read (Utf8.encode j.canonical) = .ok j.collapsed := by
  rw [canonical, encode_ofList]
  simpa using read_of_standsFor (standsFor_canonicalChars h hd hdepth) isGap_nil

/-- a canonical form is read only if the value is nested no deeper than a text may be -/
theorem depth_le_of_read_canonical {j w : Json} (h : j.Readable) (hd : j.collapsed.DoublesReread)
    (hread : Json.read (Utf8.encode j.canonical) = .ok w) : j.depth ≤ nestingLimit := by
  have hdepth := (read_readable hread).2
  rw [canonical, encode_ofList] at hread
  obtain ⟨⟨value, past⟩, hvalue, hend⟩ := ok_of_bind hread
  obtain ⟨-, -, hw⟩ := ok_of_bind hend
  cases hw
  -- with depth enough for both, the text is read once as `w` and once as the collapsed value
  have hdeeper := (readsDeeper _).value (Nat.le_max_right j.depth nestingLimit) hvalue
  have hstands := standsFor_canonicalChars h hd (Nat.le_max_left j.depth nestingLimit)
  have hstart := hstands.starts.faces_start []
  rw [List.append_nil] at hstart
  obtain ⟨past', -, hcollapsed⟩ := readJson_of_standsFor hstands (endsNumber_of_gap isGap_nil) hstart
  rw [readJson, hdeeper] at hcollapsed
  cases hcollapsed
  rwa [depth_collapsed] at hdepth

theorem canonical_collapsed {j : Json} (h : j.Readable) : j.collapsed.canonical = j.canonical :=
  ((canonical_eq_canonical h.hasDistinctNames).2 j.alike_collapsed).symm

/-! ## Main result -/

/-- reading the canonical form and writing it again gives the canonical form -/
theorem canonicalOf_encode {j : Json} (h : j.Readable) (hd : j.collapsed.DoublesReread)
    (hdepth : j.depth ≤ nestingLimit) :
    canonicalOf (Utf8.encode j.canonical) = .ok j.canonical := by
  rw [canonicalOf, read_canonical h hd hdepth, Except.map, canonical_collapsed h]

theorem canonicalOf_eq_ok {bytes : Bytes} {text : String} :
    canonicalOf bytes = .ok text ↔ ∃ v, Json.read bytes = .ok v ∧ v.canonical = text := by
  rw [canonicalOf]
  cases Json.read bytes <;> simp [Except.map]

/-- **The canonical form is a fixed point of reading and writing.** It is a JSON text, whatever the value. If the doubles
that are left when numbers have been collapsed are read back, it is read and written as itself exactly if the value is
nested no deeper than a text may be; so writing the canonical form of any text twice is doing it once. -/
theorem canonicalOf_canonical :
    (∀ v : Json, Grammar.IsValue v.canonical.toList) ∧
    (∀ v : Json, v.Readable → v.collapsed.DoublesReread →
      (canonicalOf (Utf8.encode v.canonical) = .ok v.canonical ↔ v.depth ≤ nestingLimit)) ∧
    ∀ (bytes : Bytes) (text : String), canonicalOf bytes = .ok text →
      (∀ v, Json.read bytes = .ok v → v.collapsed.DoublesReread) → canonicalOf (Utf8.encode text) = .ok text := by
  refine ⟨fun v => ?_, fun v hv hd => ⟨fun h => ?_, canonicalOf_encode hv hd⟩, fun bytes text h hd => ?_⟩
  · rw [canonical, String.toList_ofList]
    exact Grammar.isValue_canonicalChars v
  · obtain ⟨w, hread, -⟩ := canonicalOf_eq_ok.1 h
    exact depth_le_of_read_canonical hv hd hread
  · obtain ⟨v, hread, rfl⟩ := canonicalOf_eq_ok.1 h
    obtain ⟨hv, hdepth⟩ := read_readable hread
    exact canonicalOf_encode hv (hd v hread) hdepth

/-- two members in the order of code points, which is not that of UTF-16 units; a negative zero, which is collapsed, and
one half, which is not -/
theorem canonicalOf_canonical_reordered :
    let half : Binary64 := { negative := false, significand := 0x10000000000000, scale := 1021 }
    let v := object [("\uFF61", number (.real (.zero true))), ("😀", array [string "\n", number (.real half)])]
    canonicalChars v = '\x7b' :: ("\"😀\":[\"\\n\",0.5],\"\uFF61\":0".toList ++ ['\x7d']) ∧
      canonicalOf (Utf8.encode v.canonical) = .ok v.canonical := by
  intro half v
  have hsort : sortByUnits [("\uFF61", number (.real (.zero true))), ("😀", array [string "\n", number (.real half)])] =
      [("😀", array [string "\n", number (.real half)]), ("\uFF61", number (.real (.zero true)))] := by
    rw [sortByUnits_eq_of_perm (by decide) (.swap _ _ _)]
    exact List.mergeSort_of_pairwise (by simp; decide)
  have hv : v.Readable := by
    rw [readable_object]
    exact ⟨by decide, by simp [Readable, Everywhere, EverywhereItems, Number.Fits]⟩
  have hzero : (Number.real (.zero true)).collapse = .int 0 := by decide +kernel
  have hhalf : (Number.real half).collapse = .real half := by decide +kernel
  have hdoubles : v.collapsed.DoublesReread := by
    have hreread : (Number.real half).Rereads := by decide +kernel
    simpa [v, collapsed, collapsedMembers, collapsedItems, hzero, hhalf, DoublesReread, Everywhere, EverywhereItems,
      EverywhereMembers] using hreread
  refine ⟨?_, (canonicalOf_canonical.2.1 v hv hdoubles).2 (by decide)⟩
  rw [canonicalChars_object, hsort]
  decide +kernel

end Json

end ToolGateway
