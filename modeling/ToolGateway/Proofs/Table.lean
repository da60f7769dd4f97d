import Mathlib.Tactic
import ToolGateway.Table

/-!
Tables that ascend strictly by key.

`Ascending` is the invariant of a table. `insert`, `erase` and `ofList` keep it; on an ascending table `find?` finds
exactly the pairs of the table, and a table is known from its pairs: in order `ofList_eq_self`, in any other
`ofList_eq_of_perm`. What is found after an insertion or a removal is said once for the key itself and once for every
other key; of the pairs of a list the last one of a key is found (`find?_ofList`), so its table has one pair for each
distinct key (`mem_ofList`, `length_ofList`).
-/

namespace ToolGateway.Table

variable {κ α β : Type}

/-- the keys ascend strictly, so each key stands once -/
def Ascending [LT κ] (table : Table κ α) : Prop :=
  table.Pairwise fun a b => a.1 < b.1

instance [LT κ] [DecidableLT κ] (table : Table κ α) : Decidable (Ascending table) :=
  inferInstanceAs (Decidable (List.Pairwise _ _))

section Finding

variable [DecidableEq κ]

theorem mem_of_find? {table : Table κ α} {key : κ} {a : α} (h : table.find? key = some a) : (key, a) ∈ table := by
  induction table with
  | nil => simp [find?] at h
  | cons entry rest ih =>
    obtain ⟨k, v⟩ := entry
    rw [find?] at h
    split_ifs at h with hk
    · simp_all
    · exact List.mem_cons_of_mem _ (ih h)

/-- values are changed without changing where they are found -/
theorem find?_map (f : α → β) (table : Table κ α) (key : κ) :
    Table.find? key (table.map fun entry => (entry.1, f entry.2)) = (table.find? key).map f := by
  induction table with
  | nil => rfl
  | cons entry rest ih =>
    obtain ⟨k, v⟩ := entry
    simp only [List.map_cons, find?]
    split_ifs
    · rfl
    · exact ih

theorem mem_of_mem_erase {table : Table κ α} {key : κ} {entry : κ × α} (h : entry ∈ table.erase key) :
    entry ∈ table := by
  induction table with
  | nil => simp [erase] at h
  | cons first rest ih =>
    obtain ⟨k, v⟩ := first
    rw [erase] at h
    split_ifs at h with hk
    · exact List.mem_cons_of_mem _ h
    · rcases List.mem_cons.1 h with rfl | h
      · exact List.mem_cons_self
      · exact List.mem_cons_of_mem _ (ih h)

theorem erase_ascending [LT κ] {table : Table κ α} (key : κ) (h : Ascending table) : Ascending (table.erase key) := by
  induction table with
  | nil => exact h
  | cons first rest ih =>
    obtain ⟨k, v⟩ := first
    obtain ⟨hfirst, hrest⟩ := List.pairwise_cons.1 h
    rw [erase]
    split_ifs
    · exact hrest
    · exact List.pairwise_cons.2 ⟨fun entry he => hfirst entry (mem_of_mem_erase he), ih hrest⟩

theorem find?_erase_of_ne (table : Table κ α) {key other : κ} (h : other ≠ key) :
    (table.erase key).find? other = table.find? other := by
  induction table with
  | nil => rfl
  | cons first rest ih =>
    obtain ⟨k, v⟩ := first
    rw [erase, find?]
    split_ifs with hk ho
    · exact absurd (ho.trans hk.symm) h
    · rfl
    · rw [find?, if_pos ‹_›]
    · rw [find?, if_neg ‹_›]
      exact ih

theorem find?_eq_none {table : Table κ α} {key : κ} (h : ∀ entry ∈ table, entry.1 ≠ key) : table.find? key = none := by
  cases hfind : table.find? key with
  | none => rfl
  | some a => exact absurd rfl (h (key, a) (mem_of_find? hfind))

/-- of distinct keys each is found with its value -/
theorem find?_of_mem {table : Table κ α} (h : (table.map (·.1)).Nodup) {key : κ} {a : α} (hmem : (key, a) ∈ table) :
    table.find? key = some a := by
  induction table with
  | nil => cases hmem
  | cons first rest ih =>
    obtain ⟨k, v⟩ := first
    obtain ⟨hfresh, hrest⟩ := List.nodup_cons.1 h
    rw [find?]
    rcases List.mem_cons.1 hmem with heq | hmem
    · cases heq
      exact if_pos rfl
    · have hne : key ≠ k := fun heq => hfresh (List.mem_map.2 ⟨(key, a), hmem, heq⟩)
      rw [if_neg hne]
      exact ih hrest hmem

/-- a key that stood there once is gone -/
theorem find?_erase_self {table : Table κ α} (h : (table.map (·.1)).Nodup) (key : κ) :
    (table.erase key).find? key = none := by
  induction table with
  | nil => rfl
  | cons first rest ih =>
    obtain ⟨k, v⟩ := first
    obtain ⟨hfresh, hrest⟩ := List.nodup_cons.1 h
    rw [erase]
    split_ifs with hk
    · exact find?_eq_none fun entry he heq => hfresh (List.mem_map.2 ⟨entry, he, heq.trans hk⟩)
    · rw [find?, if_neg hk]
      exact ih hrest

end Finding

section Inserting

variable [LT κ] [DecidableLT κ] [DecidableEq κ]

/-- what an insertion leaves is the new pair and old ones -/
theorem mem_of_mem_insert {table : Table κ α} {key : κ} {a : α} {entry : κ × α}
    (h : entry ∈ table.insert key a) : entry = (key, a) ∨ entry ∈ table := by
  induction table with
  | nil => simpa [insert] using h
  | cons first rest ih =>
    obtain ⟨k, v⟩ := first
    rw [insert] at h
    split_ifs at h with hlt heq
    · simpa using h
    · simp only [List.mem_cons] at h ⊢
      tauto
    · simp only [List.mem_cons] at h ⊢
      rcases h with h | h
      · exact .inr (.inl h)
      · exact (ih h).imp id .inr

/-- what was inserted is found, whatever the order of the table -/
theorem find?_insert_self (table : Table κ α) (key : κ) (a : α) : (table.insert key a).find? key = some a := by
  induction table with
  | nil => exact if_pos rfl
  | cons first rest ih =>
    obtain ⟨k, v⟩ := first
    rw [insert]
    split_ifs with hlt heq
    · exact if_pos rfl
    · exact if_pos rfl
    · rw [find?, if_neg heq]
      exact ih

theorem find?_insert_of_ne (table : Table κ α) {key other : κ} (a : α) (h : other ≠ key) :
    (table.insert key a).find? other = table.find? other := by
  induction table with
  | nil => exact if_neg h
  | cons first rest ih =>
    obtain ⟨k, v⟩ := first
    rw [insert]
    split_ifs with hlt heq
    · exact if_neg h
    · subst heq
      rw [find?, find?, if_neg h, if_neg h]
    · rw [find?, find?, ih]

theorem find?_foldl_insert (pairs : List (κ × α)) (table : Table κ α) (key : κ) :
    (pairs.foldl (fun table pair => insert pair.1 pair.2 table) table).find? key =
      ((pairs.reverse.find? (·.1 = key)).map (·.2)).or (table.find? key) := by
  induction pairs generalizing table with
  | nil => rfl
  | cons pair pairs ih =>
    rw [List.foldl_cons, ih, List.reverse_cons, List.find?_append]
    cases pairs.reverse.find? (·.1 = key) with
    | some later => rfl
    | none =>
      by_cases hkey : pair.1 = key
      · subst hkey
        simp [find?_insert_self]
      · simp [find?_insert_of_ne _ _ (Ne.symm hkey), hkey]

/-- **Of a repeated key the last pair counts.** -/
theorem find?_ofList (pairs : List (κ × α)) (key : κ) :
    (ofList pairs).find? key = (pairs.reverse.find? (·.1 = key)).map (·.2) := by
  rw [ofList, find?_foldl_insert, find?, Option.or_none]

omit [LT κ] [DecidableLT κ] [DecidableEq κ] in
/-- a search from the end finds what the last entry with an answer says -/
theorem findSome?_reverse_eq_some {f : α → Option β} {entries : List α} {b : β} :
    entries.reverse.findSome? f = some b ↔
      ∃ before entry after, entries = before ++ entry :: after ∧ f entry = some b ∧
        ∀ later ∈ after, f later = Option.none := by
  constructor
  · intro hfind
    obtain ⟨after, entry, before, hentries, hanswer, hlater⟩ := List.findSome?_eq_some_iff.1 hfind
    refine ⟨before.reverse, entry, after.reverse, ?_, hanswer, fun later hmem => ?_⟩
    · have hreversed := congrArg List.reverse hentries
      simpa using hreversed
    · exact hlater later (by simpa using hmem)
  · rintro ⟨before, entry, after, rfl, hanswer, hlater⟩
    have hafter : after.reverse.findSome? f = Option.none := by simpa using hlater
    rw [List.reverse_append, List.reverse_cons, List.findSome?_append, List.findSome?_append, hafter]
    simp [hanswer]

omit [LT κ] [DecidableLT κ] [DecidableEq κ] in
/-- of the pairs with this key the last one has this value -/
def LastOf (pairs : List (κ × α)) (key : κ) (a : α) : Prop :=
  ∃ before after, pairs = before ++ (key, a) :: after ∧ ∀ later ∈ after, later.1 ≠ key

theorem find?_ofList_eq_some {pairs : List (κ × α)} {key : κ} {a : α} :
    (ofList pairs).find? key = some a ↔ LastOf pairs key a := by
  rw [find?_ofList, Option.map_eq_some_iff]
  constructor
  · rintro ⟨⟨k, v⟩, hfind, rfl⟩
    obtain ⟨hkey, after, before, hpairs, hafter⟩ := List.find?_eq_some_iff_append.1 hfind
    obtain rfl : k = key := by simpa using hkey
    refine ⟨before.reverse, after.reverse, ?_, fun later hlater => ?_⟩
    · have hreversed := congrArg List.reverse hpairs
      simpa using hreversed
    · simpa using hafter later (by simpa using hlater)
  · rintro ⟨before, after, rfl, hafter⟩
    refine ⟨(key, a), List.find?_eq_some_iff_append.2 ⟨by simp, after.reverse, before.reverse, by simp, ?_⟩, rfl⟩
    intro later hlater
    simpa using hafter later (by simpa using hlater)

theorem mem_of_mem_foldl_insert {pairs : List (κ × α)} {table : Table κ α} {entry : κ × α}
    (h : entry ∈ pairs.foldl (fun table pair => insert pair.1 pair.2 table) table) : entry ∈ pairs ∨ entry ∈ table := by
  induction pairs generalizing table with
  | nil => exact .inr h
  | cons pair pairs ih =>
    rcases ih h with hmem | hmem
    · exact .inl (List.mem_cons_of_mem _ hmem)
    · rcases mem_of_mem_insert hmem with rfl | hmem
      · exact .inl List.mem_cons_self
      · exact .inr hmem

theorem mem_of_mem_ofList {pairs : List (κ × α)} {entry : κ × α} (h : entry ∈ ofList pairs) : entry ∈ pairs :=
  (mem_of_mem_foldl_insert h).elim id (by simp)

/-- each key of a list has a last pair -/
theorem mem_keys_ofList {pairs : List (κ × α)} {key : κ} :
    key ∈ (ofList pairs).map (·.1) ↔ key ∈ pairs.map (·.1) := by
  constructor
  · intro h
    obtain ⟨entry, hentry, rfl⟩ := List.mem_map.1 h
    exact List.mem_map_of_mem (mem_of_mem_ofList hentry)
  · intro h
    obtain ⟨entry, hentry, rfl⟩ := List.mem_map.1 h
    have hsome : (pairs.reverse.find? (·.1 = entry.1)).isSome = true :=
      List.find?_isSome.2 ⟨entry, List.mem_reverse.2 hentry, by simp⟩
    obtain ⟨last, hlast⟩ := Option.isSome_iff_exists.1 hsome
    refine List.mem_map.2 ⟨(entry.1, last.2), mem_of_find? ?_, rfl⟩
    rw [find?_ofList, hlast]
    rfl

/-- a new key is added to the pairs that are there -/
theorem insert_perm {table : Table κ α} {key : κ} (a : α) (h : ∀ entry ∈ table, entry.1 ≠ key) :
    (table.insert key a).Perm ((key, a) :: table) := by
  induction table with
  | nil => exact .refl _
  | cons first rest ih =>
    obtain ⟨k, v⟩ := first
    have hne : key ≠ k := Ne.symm (h (k, v) List.mem_cons_self)
    rw [insert, if_neg hne]
    split_ifs
    · exact .refl _
    · exact ((ih fun entry he => h entry (List.mem_cons_of_mem _ he)).cons _).trans (.swap _ _ _)

theorem foldl_insert_perm {pairs : List (κ × α)} {table : Table κ α} (h : ((pairs ++ table).map (·.1)).Nodup) :
    (pairs.foldl (fun table pair => insert pair.1 pair.2 table) table).Perm (pairs ++ table) := by
  induction pairs generalizing table with
  | nil => exact .refl _
  | cons pair pairs ih =>
    rw [List.cons_append, List.map_cons, List.nodup_cons] at h
    have hfresh : ∀ entry ∈ table, entry.1 ≠ pair.1 := fun entry he heq =>
      h.1 (List.mem_map.2 ⟨entry, List.mem_append_right _ he, heq⟩)
    have hinsert := (insert_perm pair.2 hfresh).append_left pairs
    have hmiddle : (pairs ++ table.insert pair.1 pair.2).Perm (pair :: (pairs ++ table)) :=
      hinsert.trans List.perm_middle
    have hnodup : ((pairs ++ table.insert pair.1 pair.2).map (·.1)).Nodup :=
      (hmiddle.map (·.1)).nodup_iff.2 (List.nodup_cons.2 h)
    exact (ih hnodup).trans hmiddle

/-- pairs with distinct keys are all kept -/
theorem ofList_perm {pairs : List (κ × α)} (h : (pairs.map (·.1)).Nodup) : (ofList pairs).Perm pairs := by
  rw [← List.append_nil pairs] at h
  simpa [ofList] using foldl_insert_perm h

end Inserting

section Order

variable [LT κ] [LE κ] [DecidableLT κ] [DecidableEq κ] [Std.IsLinearOrder κ] [Std.LawfulOrderLT κ]

/-- a greatest key is put at the end -/
theorem insert_eq_append {table : Table κ α} {key : κ} (a : α) (h : ∀ entry ∈ table, entry.1 < key) :
    table.insert key a = table ++ [(key, a)] := by
  induction table with
  | nil => rfl
  | cons first rest ih =>
    obtain ⟨k, v⟩ := first
    have hk : k < key := h (k, v) List.mem_cons_self
    have hnot : ¬ key < k := fun hlt => Std.lt_irrefl (Std.lt_trans hk hlt)
    have hne : key ≠ k := fun he => Std.lt_irrefl (he ▸ hk)
    rw [insert, if_neg hnot, if_neg hne, ih fun entry he => h entry (List.mem_cons_of_mem _ he)]
    rfl

theorem insert_ascending {table : Table κ α} (key : κ) (a : α) (h : Ascending table) :
    Ascending (table.insert key a) := by
  induction table with
  | nil => simp [insert, Ascending]
  | cons first rest ih =>
    obtain ⟨k, v⟩ := first
    obtain ⟨hfirst, hrest⟩ := List.pairwise_cons.1 h
    rw [insert]
    split_ifs with hlt heq
    · refine List.pairwise_cons.2 ⟨fun entry he => ?_, h⟩
      rcases List.mem_cons.1 he with rfl | he
      · exact hlt
      · exact Std.lt_trans hlt (hfirst entry he)
    · subst heq
      exact List.pairwise_cons.2 ⟨hfirst, hrest⟩
    · have hk : k < key := by
        rcases Std.lt_trichotomy key k with h' | h' | h'
        · exact absurd h' hlt
        · exact absurd h' heq
        · exact h'
      refine List.pairwise_cons.2 ⟨fun entry he => ?_, ih hrest⟩
      rcases mem_of_mem_insert he with rfl | he
      · exact hk
      · exact hfirst entry he

/-- pairs that ascend beyond those of a table are appended to it as they are -/
theorem foldl_insert_eq_append (pairs : List (κ × α)) (table : Table κ α) (h : Ascending (table ++ pairs)) :
    pairs.foldl (fun table pair => insert pair.1 pair.2 table) table = table ++ pairs := by
  induction pairs generalizing table with
  | nil => simp
  | cons pair pairs ih =>
    have hbelow : ∀ entry ∈ table, entry.1 < pair.1 := fun entry he =>
      (List.pairwise_append.1 h).2.2 entry he pair List.mem_cons_self
    rw [List.foldl_cons, insert_eq_append _ hbelow, ih _ (by simpa [Ascending] using h)]
    simp

theorem foldl_insert_ascending (pairs : List (κ × α)) {table : Table κ α} (h : Ascending table) :
    Ascending (pairs.foldl (fun table pair => insert pair.1 pair.2 table) table) := by
  induction pairs generalizing table with
  | nil => exact h
  | cons pair pairs ih => exact ih (insert_ascending pair.1 pair.2 h)

theorem ofList_ascending (pairs : List (κ × α)) : Ascending (ofList pairs) :=
  foldl_insert_ascending pairs List.Pairwise.nil

/-- a table is the table of its own pairs -/
theorem ofList_eq_self {table : Table κ α} (h : Ascending table) : ofList table = table :=
  foldl_insert_eq_append table [] h

omit [DecidableLT κ] [DecidableEq κ] [Std.IsLinearOrder κ] in
/-- the keys of an ascending table are distinct -/
theorem Ascending.nodup {table : Table κ α} (h : Ascending table) : (table.map (·.1)).Nodup :=
  List.pairwise_map.2 (h.imp fun hlt => Std.ne_of_lt hlt)

/-- the table of a list has the last pair of each key -/
theorem mem_ofList {pairs : List (κ × α)} {key : κ} {a : α} : (key, a) ∈ ofList pairs ↔ LastOf pairs key a := by
  rw [← find?_ofList_eq_some]
  exact ⟨find?_of_mem (ofList_ascending pairs).nodup, mem_of_find?⟩

/-- it has as many pairs as the list has distinct keys -/
theorem length_ofList (pairs : List (κ × α)) : (ofList pairs).length = (pairs.map (·.1)).dedup.length := by
  have hperm : ((ofList pairs).map (·.1)).Perm (pairs.map (·.1)).dedup := by
    rw [List.perm_ext_iff_of_nodup (ofList_ascending pairs).nodup (List.nodup_dedup _)]
    intro key
    rw [mem_keys_ofList, List.mem_dedup]
  simpa using hperm.length_eq

omit [DecidableLT κ] in
/-- ascending tables in which the same is found under every key are equal -/
theorem eq_of_find? {table other : Table κ α} (h : Ascending table) (ho : Ascending other)
    (hfind : ∀ key, table.find? key = other.find? key) : table = other := by
  have hperm : table.Perm other := by
    rw [List.perm_ext_iff_of_nodup h.nodup.of_map ho.nodup.of_map]
    rintro ⟨key, a⟩
    constructor
    · intro hmem
      exact mem_of_find? ((hfind key).symm.trans (find?_of_mem h.nodup hmem))
    · intro hmem
      exact mem_of_find? ((hfind key).trans (find?_of_mem ho.nodup hmem))
  exact hperm.eq_of_pairwise (fun a b _ _ hab hba => absurd (Std.lt_trans hab hba) Std.lt_irrefl) h ho

/-- **A table is the table of its pairs in any order.** -/
theorem ofList_eq_of_perm {table : Table κ α} {pairs : List (κ × α)} (h : Ascending table) (hp : pairs.Perm table) :
    ofList pairs = table := by
  have hnodup : (pairs.map (·.1)).Nodup := (hp.map (·.1)).nodup_iff.2 h.nodup
  refine ((ofList_perm hnodup).trans hp).eq_of_pairwise (fun a b _ _ hab hba => ?_) (ofList_ascending pairs) h
  exact absurd (Std.lt_trans hab hba) Std.lt_irrefl

end Order

end ToolGateway.Table
