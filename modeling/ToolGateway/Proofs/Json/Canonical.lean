import ToolGateway.Proofs.Json.Alike
import ToolGateway.Proofs.Json.Quoted
import ToolGateway.Proofs.Number.Distinct
import ToolGateway.Proofs.Text.Utf16

/-!
The canonical form separates exactly the values that are not alike.

- `canonicalChars_append_inj`: a canonical form ends by itself, so no text of a container can be taken apart in two
  ways. Only a number needs a sign behind it that shows its end.
- `sortByUnits_eq_of_perm`: members with distinct names have one order by UTF-16 units, however they stood.
- `canonical_eq_canonical`: equal canonical forms are those of values that are alike.
- `hexDigest_eq_iff`: equal digests are those of equal canonical forms, unless the hash function collides on them.
-/

namespace ToolGateway

open Utf8

namespace Json

/-! ## Sorting members -/

section Sorting

variable {α β : Type}

theorem sortByUnits_perm (members : List (String × α)) : (sortByUnits members).Perm members :=
  List.mergeSort_perm _ _

theorem sortByUnits_pairwise (members : List (String × α)) :
    (sortByUnits members).Pairwise fun a b => (Utf16.compare a.1 b.1).isLE := by
  unfold sortByUnits
  apply List.pairwise_mergeSort
  · intro a b c hab hbc
    exact Utf16.compare_isLE_trans hab hbc
  · intro a b
    rw [Bool.or_eq_true]
    exact Utf16.compare_isLE_total a.1 b.1

/-- sorting looks at names only -/
theorem sortByUnits_map (f : α → β) (members : List (String × α)) :
    sortByUnits (members.map fun m => (m.1, f m.2)) = (sortByUnits members).map fun m => (m.1, f m.2) := by
  unfold sortByUnits
  rw [List.map_mergeSort]
  intro a _ b _
  rfl

/-- **Members with distinct names are put into one order.** -/
theorem sortByUnits_eq_of_perm {us vs : List (String × α)} (hn : (us.map (·.1)).Nodup) (h : us.Perm vs) :
    sortByUnits us = sortByUnits vs := by
  refine List.Perm.eq_of_pairwise (fun a b ha hb hab hba => ?_) (sortByUnits_pairwise us) (sortByUnits_pairwise vs)
    (((sortByUnits_perm us).trans h).trans (sortByUnits_perm vs).symm)
  have ha : a ∈ us := (sortByUnits_perm us).mem_iff.1 ha
  have hb : b ∈ us := h.mem_iff.2 ((sortByUnits_perm vs).mem_iff.1 hb)
  exact List.inj_on_of_nodup_map hn ha hb (Utf16.compare_isLE_antisymm hab hba)

end Sorting

/-! ## The form of containers -/

/-- the canonical form of a member, behind its name -/
def canonicalMember (m : String × Json) : String × List Char :=
  (m.1, canonicalChars m.2)

theorem canonicalItems_eq_map (items : List Json) : canonicalItems items = items.map canonicalChars := by
  induction items with
  | nil => rfl
  | cons j rest ih => rw [canonicalItems, ih, List.map_cons]

theorem canonicalMembers_eq_map (members : List (String × Json)) :
    canonicalMembers members = members.map canonicalMember := by
  induction members with
  | nil => rfl
  | cons m rest ih => rw [canonicalMembers, ih, List.map_cons, canonicalMember]

theorem canonicalChars_object (members : List (String × Json)) : canonicalChars (object members) =
    '\x7b' :: (joinMembers ((sortByUnits members).map canonicalMember) ++ ['\x7d']) := by
  rw [canonicalChars, canonicalMembers_eq_map]
  exact congrArg (fun sorted => '\x7b' :: (joinMembers sorted ++ ['\x7d'])) (sortByUnits_map canonicalChars members)

theorem joinItems_cons (text : List Char) (rest : List (List Char)) :
    joinItems (text :: rest) = text ++ rest.flatMap (',' :: ·) := by
  induction rest generalizing text with
  | nil => simp [joinItems]
  | cons next rest ih =>
    rw [joinItems, ih, List.flatMap_cons, List.cons_append]
    intro h
    cases h

theorem joinMembers_eq (members : List (String × List Char)) :
    joinMembers members = joinItems (members.map memberText) := by
  induction members with
  | nil => rfl
  | cons m rest ih =>
    cases rest with
    | nil => rfl
    | cons n rest =>
      rw [joinMembers, ih]
      · simp [joinItems, memberText]
      · intro h
        cases h

/-! ## Where a canonical form ends -/

/-- what the first character of a canonical form tells of the value -/
inductive Opening where
  | null
  | flag
  | number
  | text
  | list
  | map
  deriving DecidableEq

/-- the opening of a value -/
def opening : Json → Opening
  | null => .null
  | bool _ => .flag
  | number _ => .number
  | string _ => .text
  | array _ => .list
  | object _ => .map

/-- the opening that starts with this character, if one does -/
def openingOf? (c : Char) : Option Opening :=
  if isNumeral c then some .number
  else if c = 'n' then some .null
  else if c = 't' ∨ c = 'f' then some .flag
  else if c = '"' then some .text
  else if c = '[' then some .list
  else if c = '\x7b' then some .map
  else none

theorem canonicalChars_head (j : Json) : ∃ c more, canonicalChars j = c :: more ∧ openingOf? c = some j.opening := by
  cases j with
  | null => exact ⟨_, _, rfl, by decide⟩
  | bool b => cases b <;> exact ⟨_, _, rfl, by decide⟩
  | number n =>
    have hne : n.collapse.chars ≠ [] := by
      obtain ⟨d, more, hd, -⟩ := n.collapse.body_head
      rw [Number.chars_eq, hd]
      split_ifs <;> simp
    obtain ⟨c, more, hc⟩ := List.exists_cons_of_ne_nil hne
    refine ⟨c, more, by rw [canonicalChars, hc], ?_⟩
    rw [openingOf?, if_pos (Number.chars_numeral _ c (hc ▸ List.mem_cons_self))]
    rfl
  | string s => exact ⟨_, _, rfl, show openingOf? '"' = some .text by decide⟩
  | array items => exact ⟨_, _, rfl, show openingOf? '[' = some .list by decide⟩
  | object members => exact ⟨_, _, rfl, show openingOf? '\x7b' = some .map by decide⟩

/-- forms that start alike are forms of values of one kind -/
theorem opening_eq {u v : Json} {r r' : List Char} (h : canonicalChars u ++ r = canonicalChars v ++ r') :
    u.opening = v.opening := by
  obtain ⟨c, more, hu, hc⟩ := canonicalChars_head u
  obtain ⟨d, more', hv, hd⟩ := canonicalChars_head v
  rw [hu, hv, List.cons_append, List.cons_append] at h
  rw [(List.cons.inj h).1, hd] at hc
  exact (Option.some.inj hc).symm

/-- no number goes on in the text -/
def EndsValue (r : List Char) : Prop :=
  ∀ c ∈ r.head?, isNumeral c = false

theorem endsValue_cons {c : Char} {r : List Char} (h : isNumeral c = false) : EndsValue (c :: r) := by
  simpa [EndsValue] using h

/-- the form of `u`, with a text behind it, is the form only of values like `u`, with the same text behind it -/
def Delimits (u : Json) : Prop :=
  ∀ (v : Json) (r r' : List Char), canonicalChars u ++ r = canonicalChars v ++ r' → EndsValue r → EndsValue r' →
    u.Alike v ∧ r = r'

section Lists

variable {α : Type} {text : α → List Char} {R : α → α → Prop} {as bs : List α} {last : Char} {r r' : List Char}

/-- items behind commas are taken apart in one way -/
theorem flatMap_comma_inj (hcomma : last ≠ ',') (hlast : isNumeral last = false)
    (hitem : ∀ a ∈ as, ∀ b r r', text a ++ r = text b ++ r' → EndsValue r → EndsValue r' → R a b ∧ r = r')
    (h : as.flatMap (fun a => ',' :: text a) ++ last :: r = bs.flatMap (fun b => ',' :: text b) ++ last :: r') :
    List.Forall₂ R as bs ∧ r = r' := by
  have hends : ∀ (cs : List α) (r : List Char), EndsValue (cs.flatMap (fun c => ',' :: text c) ++ last :: r) := by
    intro cs r
    cases cs with
    | nil => exact endsValue_cons hlast
    | cons c cs => exact endsValue_cons (by decide)
  induction as generalizing bs with
  | nil =>
    cases bs with
    | nil => simpa using h
    | cons b bs => simp [hcomma] at h
  | cons a as ih =>
    cases bs with
    | nil => simp [hcomma.symm] at h
    | cons b bs =>
      simp only [List.flatMap_cons, List.cons_append, List.append_assoc, List.cons.injEq, true_and] at h
      obtain ⟨hab, hrest⟩ := hitem a List.mem_cons_self b _ _ h (hends as r) (hends bs r')
      obtain ⟨hall, hr⟩ := ih (fun a ha => hitem a (List.mem_cons_of_mem _ ha)) hrest
      exact ⟨.cons hab hall, hr⟩

/-- so are items with commas between them, none of which starts with the closing sign -/
theorem joinItems_inj (hcomma : last ≠ ',') (hlast : isNumeral last = false)
    (hhead : ∀ a ∈ as ++ bs, ∃ c more, text a = c :: more ∧ c ≠ last)
    (hitem : ∀ a ∈ as, ∀ b r r', text a ++ r = text b ++ r' → EndsValue r → EndsValue r' → R a b ∧ r = r')
    (h : joinItems (as.map text) ++ last :: r = joinItems (bs.map text) ++ last :: r') :
    List.Forall₂ R as bs ∧ r = r' := by
  -- an empty list is followed by the closing sign at once, a list with an item is not
  have hempty : ∀ a ∈ as ++ bs, ∀ s t : List Char, text a ++ s ≠ last :: t := by
    intro a ha s t heq
    obtain ⟨c, more, hc, hne⟩ := hhead a ha
    rw [hc, List.cons_append] at heq
    exact hne (List.cons.inj heq).1
  cases as with
  | nil =>
    cases bs with
    | nil => simpa [joinItems] using h
    | cons b bs =>
      rw [List.map_cons, joinItems_cons, List.append_assoc] at h
      exact absurd h.symm (hempty b (by simp) _ _)
  | cons a as =>
    cases bs with
    | nil =>
      rw [List.map_cons, joinItems_cons, List.append_assoc] at h
      exact absurd h (hempty a (by simp) _ _)
    | cons b bs =>
      simp only [List.map_cons, joinItems_cons, List.flatMap_map] at h
      refine flatMap_comma_inj hcomma hlast hitem ?_
      simpa using h

end Lists

theorem canonicalChars_head_ne {last : Char} (h : openingOf? last = none) (j : Json) :
    ∃ c more, canonicalChars j = c :: more ∧ c ≠ last := by
  obtain ⟨c, more, hj, hc⟩ := canonicalChars_head j
  refine ⟨c, more, hj, ?_⟩
  rintro rfl
  rw [h] at hc
  cases hc

theorem delimits_array {us : List Json} (ih : ∀ u ∈ us, u.Delimits) : (array us).Delimits := by
  intro v r r' h _ _
  have hopen := opening_eq h
  cases v with
  | array vs =>
    simp only [canonicalChars, canonicalItems_eq_map, List.cons_append, List.append_assoc, List.nil_append,
      List.cons.injEq, true_and] at h
    have := joinItems_inj (by decide) (by decide) (fun j _ => canonicalChars_head_ne (by decide) j) ih h
    exact ⟨alike_array.2 this.1, this.2⟩
  | _ => cases hopen

/-- the name of a member ends by its quote, its value by itself -/
theorem member_append_inj {m n : String × Json} (ih : m.2.Delimits) {r r' : List Char}
    (h : memberText (canonicalMember m) ++ r = memberText (canonicalMember n) ++ r') (hr : EndsValue r)
    (hr' : EndsValue r') : AlikeMember m n ∧ r = r' := by
  simp only [memberText, canonicalMember, List.append_assoc] at h
  obtain ⟨hname, h⟩ := quotedChars_append_inj h
  obtain ⟨hvalue, hrest⟩ := ih n.2 r r' (List.cons.inj h).2 hr hr'
  exact ⟨⟨hname, hvalue⟩, hrest⟩

theorem delimits_object {us : List (String × Json)} (ih : ∀ m ∈ us, m.2.Delimits) : (object us).Delimits := by
  intro v r r' h _ _
  have hopen := opening_eq h
  cases v with
  | object vs =>
    rw [canonicalChars_object, canonicalChars_object] at h
    simp only [joinMembers_eq, List.map_map, List.cons_append, List.append_assoc, List.nil_append,
      List.cons.injEq, true_and] at h
    -- members are told apart in the order of the text, which is a permutation of either side's own
    obtain ⟨hall, hrest⟩ := joinItems_inj (by decide) (by decide) (fun m _ => ⟨'"', _, rfl, by decide⟩)
      (fun m hm n r r' heq hr hr' => member_append_inj (ih m ((sortByUnits_perm us).mem_iff.1 hm)) heq hr hr') h
    obtain ⟨ws, hws, hperm⟩ := List.perm_comp_forall₂ (sortByUnits_perm us).symm hall
    exact ⟨alike_object.2 ⟨ws, hws, hperm.trans (sortByUnits_perm vs)⟩, hrest⟩
  | _ => cases hopen

/-- **A canonical form ends by itself**, whatever value it is the form of. -/
theorem canonicalChars_append_inj (u : Json) : u.Delimits := by
  induction u with
  | null =>
    intro v r r' h _ _
    have hopen := opening_eq h
    cases v with
    | null => exact ⟨trivial, by simpa [canonicalChars] using h⟩
    | _ => cases hopen
  | bool a =>
    intro v r r' h _ _
    have hopen := opening_eq h
    cases v with
    | bool b =>
      cases a <;> cases b
      · exact ⟨rfl, by simpa [canonicalChars] using h⟩
      · simp [canonicalChars] at h
      · simp [canonicalChars] at h
      · exact ⟨rfl, by simpa [canonicalChars] using h⟩
    | _ => cases hopen
  | number m =>
    intro v r r' h hr hr'
    have hopen := opening_eq h
    cases v with
    | number n =>
      obtain ⟨hmn, hrest⟩ := Number.chars_append_inj h hr hr'
      exact ⟨Number.collapse_eq_collapse.1 hmn, hrest⟩
    | _ => cases hopen
  | string s =>
    intro v r r' h _ _
    have hopen := opening_eq h
    cases v with
    | string t => exact quotedChars_append_inj h
    | _ => cases hopen
  | array us ih => exact delimits_array ih
  | object us ih => exact delimits_object ih

/-! ## Main result -/

/-- values that are alike have one canonical form -/
theorem canonicalChars_eq_of_alike {u v : Json} (hu : u.HasDistinctNames) (h : u.Alike v) :
    canonicalChars u = canonicalChars v := by
  induction u generalizing v with
  | null => cases v <;> first | rfl | cases h
  | bool a => cases v <;> first | (cases h; rfl) | cases h
  | number m =>
    cases v with
    | number n => rw [canonicalChars, canonicalChars, Number.collapse_eq_collapse.2 h]
    | _ => cases h
  | string s => cases v <;> first | (cases h; rfl) | cases h
  | array us ih =>
    cases v with
    | array vs =>
      have hitems : us.map canonicalChars = vs.map canonicalChars := by
        rw [← List.forall₂_eq_eq_eq, List.forall₂_map_left_iff, List.forall₂_map_right_iff]
        have hall := alike_array.1 h
        rw [List.forall₂_iff_zip] at hall ⊢
        exact ⟨hall.1, fun hmem => ih _ (List.of_mem_zip hmem).1
          (hasDistinctNames_array.1 hu _ (List.of_mem_zip hmem).1) (hall.2 hmem)⟩
      rw [canonicalChars, canonicalChars, canonicalItems_eq_map, canonicalItems_eq_map, hitems]
    | _ => cases h
  | object us ih =>
    cases v with
    | object vs =>
      obtain ⟨hnodup, hinner⟩ := hasDistinctNames_object.1 hu
      obtain ⟨ws, hall, hperm⟩ := alike_object.1 h
      have hmembers : us.map canonicalMember = ws.map canonicalMember := by
        rw [← List.forall₂_eq_eq_eq, List.forall₂_map_left_iff, List.forall₂_map_right_iff]
        rw [List.forall₂_iff_zip] at hall ⊢
        refine ⟨hall.1, fun {a b} hmem => ?_⟩
        have ha := (List.of_mem_zip hmem).1
        obtain ⟨hname, hvalue⟩ := hall.2 hmem
        exact Prod.ext hname (ih a ha (hinner a ha) hvalue)
      have hnames : ((us.map canonicalMember).map (·.1)).Nodup := by
        simpa [canonicalMember, Function.comp_def] using hnodup
      rw [canonicalChars, canonicalChars, canonicalMembers_eq_map, canonicalMembers_eq_map,
        sortByUnits_eq_of_perm hnames (hmembers ▸ hperm.map canonicalMember)]
    | _ => cases h

theorem canonicalChars_eq_iff {u v : Json} (hu : u.HasDistinctNames) :
    canonicalChars u = canonicalChars v ↔ u.Alike v := by
  constructor
  · intro h
    have hend : EndsValue [] := by simp [EndsValue]
    exact (canonicalChars_append_inj u v [] [] (by rw [h]) hend hend).1
  · exact canonicalChars_eq_of_alike hu

theorem canonical_inj {u v : Json} : u.canonical = v.canonical ↔ canonicalChars u = canonicalChars v :=
  ⟨fun h => String.ofList_injective h, congrArg String.ofList⟩

/-- **The canonical form separates exactly the values that are not alike**: member order and the writing of integers
below 2^53 apart, nothing of a value is lost in it. -/
theorem canonical_eq_canonical {u v : Json} (hu : u.HasDistinctNames) : u.canonical = v.canonical ↔ u.Alike v := by
  rw [canonical_inj]
  exact canonicalChars_eq_iff hu

/-- two members in either order, one of them a double with the value one -/
theorem canonical_eq_of_swapped :
    let u := object [("b", number (.real ⟨false, 0x10000000000000, 1022, by decide⟩)), ("a", array [null, bool true])]
    let v := object [("a", array [null, bool true]), ("b", number (.int 1))]
    u.HasDistinctNames ∧ u.canonical = v.canonical := by
  intro u v
  have hu : u.HasDistinctNames := by
    rw [hasDistinctNames_object]
    simp [HasDistinctNames, Everywhere, EverywhereItems]
  have hone : (Number.real ⟨false, 0x10000000000000, 1022, by decide⟩).Alike (.int 1) :=
    .inr ⟨1, ⟨by decide +kernel, by decide⟩, rfl⟩
  have huv : u.Alike v := by
    refine alike_object.2 ⟨[("b", number (.int 1)), ("a", array [null, bool true])], ?_, .swap _ _ _⟩
    refine .cons ⟨rfl, hone⟩ (.cons ⟨rfl, alike_array.2 ?_⟩ .nil)
    exact .cons trivial (.cons rfl .nil)
  exact ⟨hu, (canonical_eq_canonical hu).2 huv⟩

end Json

/-! ## Digests -/

/-- two texts that SHA-256 does not tell apart -/
def Sha256.Collide (a b : String) : Prop :=
  a ≠ b ∧ digest (Utf8.encode a) = digest (Utf8.encode b)

/-- equal hexadecimal digests are those of one canonical form, or of two that collide -/
theorem Json.hexDigest_eq_iff {u v : Json} :
    u.hexDigest = v.hexDigest ↔ u.canonical = v.canonical ∨ Sha256.Collide u.canonical v.canonical := by
  constructor
  · intro h
    by_cases hsame : u.canonical = v.canonical
    · exact .inl hsame
    · exact .inr ⟨hsame, Hex.encode_injective h⟩
  · rintro (h | ⟨-, h⟩)
    · rw [hexDigest, hexDigest, digest, digest, h]
    · rw [hexDigest, hexDigest, digest, digest, h]

end ToolGateway
