import ToolGateway.Configuration.Setting
import ToolGateway.Proofs.Table

/-!
Settings laid over settings.

A setting is `Distinct` if each of its groups has each name once; merging keeps that. A path is `Clear` in a setting if
it leads through groups, as far as it leads, and does not end at one: nothing stands in its way, and nothing is found at
its end that could only be a section.

- `lookup_mergeEntries`: what stands under a name in merged entries.
- `find?_merge`: along a path that is clear in the upper setting, the upper one counts where it says something, and the
  lower one counts where it does not.
- `Distinct.merge`, `Clear.merge`: merging keeps names distinct and paths clear.
- `find?_nest`, `clear_nest`: a setting at a path is found there, and it is not in the way of another path.
- `find?_toJson`: the members of a group as a document.
-/

namespace ToolGateway.Setting

variable {s under upper : Setting} {entries base : List (String × Setting)} {name other : String} {path : List String}

/-! ## Entries -/

/-- the name and the setting of an entry that was looked up -/
theorem mem_of_lookup (h : entries.lookup name = some s) : (name, s) ∈ entries := by
  obtain ⟨before, after, rfl, -⟩ := List.lookup_eq_some_iff.1 h
  simp

/-- of entries with distinct names each is found under its name -/
theorem lookup_of_mem (h : (entries.map (·.1)).Nodup) (hmem : (name, s) ∈ entries) : entries.lookup name = some s := by
  induction entries with
  | nil => cases hmem
  | cons first rest ih =>
    obtain ⟨k, t⟩ := first
    rw [List.map_cons, List.nodup_cons] at h
    rw [List.lookup_cons]
    rcases List.mem_cons.1 hmem with heq | hmem
    · cases heq
      rw [beq_self_eq_true]
    · have hne : name ≠ k := fun heq => h.1 (heq ▸ List.mem_map_of_mem (f := (·.1)) hmem)
      rw [beq_false_of_ne hne]
      exact ih h.2 hmem

theorem lookup_eq_none (h : name ∉ entries.map (·.1)) : entries.lookup name = none := by
  cases hfind : entries.lookup name with
  | none => rfl
  | some s => exact absurd (List.mem_map_of_mem (mem_of_lookup hfind)) h

theorem lookup_alter_self (name : String) (f : Option Setting → Setting) (entries : List (String × Setting)) :
    (alter name f entries).lookup name = some (f (entries.lookup name)) := by
  induction entries with
  | nil => simp [alter]
  | cons first rest ih =>
    obtain ⟨k, t⟩ := first
    rw [alter]
    split_ifs with hk
    · subst hk
      simp
    · rw [List.lookup_cons, List.lookup_cons, beq_false_of_ne (Ne.symm hk)]
      exact ih

theorem lookup_alter_of_ne (f : Option Setting → Setting) (entries : List (String × Setting)) (h : other ≠ name) :
    (alter name f entries).lookup other = entries.lookup other := by
  induction entries with
  | nil => simp [alter, List.lookup_cons, beq_false_of_ne h]
  | cons first rest ih =>
    obtain ⟨k, t⟩ := first
    rw [alter]
    split_ifs with hk
    · subst hk
      rw [List.lookup_cons, List.lookup_cons, beq_false_of_ne h]
    · rw [List.lookup_cons, List.lookup_cons, ih]

/-- an altered entry is new, and the others are those that were there -/
theorem mem_of_mem_alter {f : Option Setting → Setting} {e : String × Setting} (h : e ∈ alter name f entries) :
    e = (name, f (entries.lookup name)) ∨ e ∈ entries := by
  induction entries with
  | nil => exact .inl (List.mem_singleton.1 h)
  | cons first rest ih =>
    obtain ⟨k, t⟩ := first
    rw [alter] at h
    split_ifs at h with hk
    · subst hk
      rcases List.mem_cons.1 h with rfl | h
      · exact .inl (by simp)
      · exact .inr (List.mem_cons_of_mem _ h)
    · rcases List.mem_cons.1 h with rfl | h
      · exact .inr List.mem_cons_self
      · rw [List.lookup_cons, beq_false_of_ne (Ne.symm hk)]
        exact (ih h).imp_right (List.mem_cons_of_mem _)

theorem mem_names_of_mem_alter {f : Option Setting → Setting} (h : other ∈ (alter name f entries).map (·.1)) :
    other = name ∨ other ∈ entries.map (·.1) := by
  obtain ⟨e, he, rfl⟩ := List.mem_map.1 h
  rcases mem_of_mem_alter he with rfl | he
  · exact .inl rfl
  · exact .inr (List.mem_map_of_mem he)

theorem nodup_alter (f : Option Setting → Setting) (h : (entries.map (·.1)).Nodup) :
    ((alter name f entries).map (·.1)).Nodup := by
  induction entries with
  | nil => simp [alter]
  | cons first rest ih =>
    obtain ⟨k, t⟩ := first
    rw [List.map_cons, List.nodup_cons] at h
    rw [alter]
    split_ifs with hk
    · exact List.nodup_cons.2 h
    · rw [List.map_cons, List.nodup_cons]
      refine ⟨fun hmem => ?_, ih h.2⟩
      rcases mem_names_of_mem_alter hmem with heq | hmem
      · exact hk heq
      · exact h.1 hmem

/-! ## Groups -/

/-- the setting is a group -/
def IsGroup (s : Setting) : Prop :=
  ∃ entries, s = group entries

theorem isGroup_group (entries : List (String × Setting)) : (group entries).IsGroup :=
  ⟨entries, rfl⟩

/-- in each group of the setting each name stands once; lists are not looked into, for nothing is merged there -/
inductive Distinct : Setting → Prop where
  | single {s : Setting} (h : ¬ s.IsGroup) : Distinct s
  | group {entries : List (String × Setting)} (names : (entries.map (·.1)).Nodup)
      (parts : ∀ e ∈ entries, Distinct e.2) : Distinct (group entries)

theorem Distinct.names (h : (Setting.group entries).Distinct) : (entries.map (·.1)).Nodup := by
  cases h with
  | single hnot => exact absurd (isGroup_group entries) hnot
  | group names _ => exact names

theorem Distinct.part (h : (Setting.group entries).Distinct) (hpart : entries.lookup name = some s) : s.Distinct := by
  cases h with
  | single hnot => exact absurd (isGroup_group entries) hnot
  | group _ parts => exact parts (name, s) (mem_of_lookup hpart)

theorem distinct_empty : (group []).Distinct :=
  .group List.nodup_nil nofun

/-- a decimal is one thing, be it a number or the name of one that is not finite -/
theorem distinct_decimal (number : Option Binary64) (written : String) :
    ((number.map real).getD (nonFinite written)).Distinct := by
  cases number with
  | none => exact .single nofun
  | some x => exact .single nofun

theorem Distinct.alter {f : Option Setting → Setting} (h : (Setting.group entries).Distinct)
    (hf : (f (entries.lookup name)).Distinct) : (Setting.group (alter name f entries)).Distinct := by
  refine .group (nodup_alter f h.names) fun e he => ?_
  rcases mem_of_mem_alter he with rfl | he
  · exact hf
  · exact h.part (lookup_of_mem h.names he)

/-! ## Merging -/

theorem merge_of_single (under : Setting) (h : ¬ upper.IsGroup) : under.merge upper = upper := by
  cases upper with
  | group entries => exact absurd (isGroup_group entries) h
  | _ => simp only [merge]

theorem merge_group_group (base entries : List (String × Setting)) :
    (group base).merge (group entries) = group (mergeEntries base entries) := by
  simp only [merge]

theorem merge_single_group (h : ¬ under.IsGroup) (entries : List (String × Setting)) :
    under.merge (group entries) = group entries := by
  cases under with
  | group base => exact absurd (isGroup_group base) h
  | _ => simp only [merge]

/-- **What stands under a name in merged entries**: the upper setting over the lower one, or the lower one alone. -/
theorem lookup_mergeEntries (h : (entries.map (·.1)).Nodup) (base : List (String × Setting)) (name : String) :
    (mergeEntries base entries).lookup name =
      match entries.lookup name with
      | some s => some (merge ((base.lookup name).getD s) s)
      | none => base.lookup name := by
  induction entries generalizing base with
  | nil => rw [mergeEntries, List.lookup_nil]
  | cons first rest ih =>
    obtain ⟨k, t⟩ := first
    rw [List.map_cons, List.nodup_cons] at h
    rw [mergeEntries, ih h.2, List.lookup_cons]
    by_cases hk : name = k
    · subst hk
      rw [lookup_eq_none h.1, beq_self_eq_true, lookup_alter_self]
    · rw [beq_false_of_ne hk, lookup_alter_of_ne _ _ hk]

theorem mergeEntries_distinct (hparts : ∀ e ∈ entries, ∀ under : Setting, under.Distinct → (under.merge e.2).Distinct)
    (hupper : ∀ e ∈ entries, e.2.Distinct) (hbase : (group base).Distinct) :
    (group (mergeEntries base entries)).Distinct := by
  induction entries generalizing base with
  | nil =>
    rw [mergeEntries]
    exact hbase
  | cons first rest ih =>
    obtain ⟨k, t⟩ := first
    rw [mergeEntries]
    refine ih (fun e he => hparts e (List.mem_cons_of_mem _ he)) (fun e he => hupper e (List.mem_cons_of_mem _ he)) ?_
    have hlower : ((base.lookup k).getD t).Distinct := by
      cases hfind : base.lookup k with
      | none => exact hupper (k, t) List.mem_cons_self
      | some lower => exact hbase.part hfind
    exact hbase.alter (hparts (k, t) List.mem_cons_self _ hlower)

/-- **Merging keeps the names of groups distinct.** -/
theorem Distinct.merge (hunder : under.Distinct) (hupper : upper.Distinct) : (under.merge upper).Distinct := by
  induction hupper generalizing under with
  | single h =>
    rw [merge_of_single under h]
    exact .single h
  | group names parts ih =>
    by_cases hgroup : under.IsGroup
    · obtain ⟨base, rfl⟩ := hgroup
      rw [merge_group_group]
      exact mergeEntries_distinct (fun e he lower hlower => ih e he hlower) parts hunder
    · rw [merge_single_group hgroup]
      exact .group names parts

/-! ## Paths -/

/-- a path leads through groups, as far as it leads, and does not end at one -/
def Clear : List String → Setting → Prop
  | [], s => ¬ s.IsGroup
  | name :: path, s => ∃ entries, s = group entries ∧ ∀ inner, entries.lookup name = some inner → inner.Clear path

theorem clear_empty (hne : path ≠ []) : (group []).Clear path := by
  cases path with
  | nil => exact absurd rfl hne
  | cons name path => exact ⟨[], rfl, nofun⟩

/-- what is looked up in merged entries lies over the lower setting, if there is one, else over itself -/
theorem clear_lower {inner : Setting} (hbase : ∀ lower, base.lookup name = some lower → lower.Clear path)
    (hinner : inner.Clear path) : ((base.lookup name).getD inner).Clear path := by
  cases hfind : base.lookup name with
  | none => exact hinner
  | some lower => exact hbase lower hfind

theorem Clear.merge (hupper : upper.Distinct) (hlow : under.Clear path) (hup : upper.Clear path) :
    (under.merge upper).Clear path := by
  induction path generalizing under upper with
  | nil =>
    rw [merge_of_single under hup]
    exact hup
  | cons name path ih =>
    obtain ⟨base, rfl, hbase⟩ := hlow
    obtain ⟨entries, rfl, hentries⟩ := hup
    rw [merge_group_group]
    refine ⟨_, rfl, fun inner hinner => ?_⟩
    rw [lookup_mergeEntries hupper.names] at hinner
    cases hfind : entries.lookup name with
    | none =>
      rw [hfind] at hinner
      exact hbase inner hinner
    | some s =>
      rw [hfind] at hinner
      cases hinner
      have hs : s.Clear path := hentries s hfind
      exact ih (hupper.part hfind) (clear_lower hbase hs) hs

theorem find?_cons_group (name : String) (path : List String) (entries : List (String × Setting)) :
    (group entries).find? (name :: path) = (entries.lookup name).bind (find? path) := by
  rw [find?]

theorem find?_cons_single (h : ¬ s.IsGroup) (name : String) (path : List String) : s.find? (name :: path) = none := by
  cases s with
  | group entries => exact absurd (isGroup_group entries) h
  | _ => simp only [find?]

/-- **What is found in merged settings**: along a clear path, what the upper one says, else what the lower one says. -/
theorem find?_merge (hupper : upper.Distinct) (hclear : upper.Clear path) (under : Setting) :
    (under.merge upper).find? path = (upper.find? path).or (under.find? path) := by
  induction path generalizing under upper with
  | nil =>
    rw [merge_of_single under hclear]
    simp [find?]
  | cons name path ih =>
    obtain ⟨entries, rfl, hentries⟩ := hclear
    by_cases hgroup : under.IsGroup
    · obtain ⟨base, rfl⟩ := hgroup
      rw [merge_group_group, find?_cons_group, find?_cons_group, find?_cons_group, lookup_mergeEntries hupper.names]
      cases hfind : entries.lookup name with
      | none => rfl
      | some s =>
        simp only [Option.bind_some]
        rw [ih (hupper.part hfind) (hentries s hfind)]
        cases base.lookup name with
        | none => simp
        | some lower => rfl
    · rw [merge_single_group hgroup, find?_cons_single hgroup, Option.or_none]

/-! ## A setting at a path -/

/-- a setting at one path is not in the way of another: it stands neither above nor below that, and is no group there -/
def Spares (path : List String) (s : Setting) (other : List String) : Prop :=
  path <+: other ∨ other <+: path → path = other ∧ ¬ s.IsGroup

theorem Spares.tail {other : List String} (h : Spares (name :: path) s (name :: other)) : Spares path s other := by
  intro hprefix
  have hcons : name :: path <+: name :: other ∨ name :: other <+: name :: path :=
    hprefix.imp (List.prefix_cons_inj name).2 (List.prefix_cons_inj name).2
  obtain ⟨heq, hsingle⟩ := h hcons
  exact ⟨(List.cons.inj heq).2, hsingle⟩

theorem Distinct.nest (h : s.Distinct) (path : List String) : (nest path s).Distinct := by
  induction path with
  | nil => exact h
  | cons name path ih =>
    refine .group (List.nodup_singleton name) fun e he => ?_
    cases List.mem_singleton.1 he
    exact ih

theorem clear_nest {other : List String} (h : Spares path s other) : (nest path s).Clear other := by
  induction other generalizing path with
  | nil =>
    obtain ⟨rfl, hsingle⟩ := h (.inr List.nil_prefix)
    exact hsingle
  | cons name other ih =>
    cases path with
    | nil => cases (h (.inl List.nil_prefix)).1
    | cons k path =>
      refine ⟨_, rfl, fun inner hinner => ?_⟩
      rw [List.lookup_cons] at hinner
      split at hinner
      · rename_i hk
        cases hinner
        cases beq_iff_eq.1 hk
        exact ih h.tail
      · cases hinner

theorem find?_nest {other : List String} (h : Spares path s other) :
    (nest path s).find? other = if path = other then some s else none := by
  induction other generalizing path with
  | nil =>
    obtain ⟨rfl, -⟩ := h (.inr List.nil_prefix)
    rfl
  | cons name other ih =>
    cases path with
    | nil => cases (h (.inl List.nil_prefix)).1
    | cons k path =>
      rw [nest, find?_cons_group, List.lookup_cons]
      by_cases hk : name = k
      · subst hk
        rw [beq_self_eq_true]
        simp only [Option.bind_some]
        rw [ih h.tail]
        simp only [List.cons.injEq, true_and]
      · have hne : ¬ k :: path = name :: other := fun heq => hk (List.cons.inj heq).1.symm
        rw [beq_false_of_ne hk, if_neg hne]
        rfl

/-! ## Documents -/

theorem entriesToJson_eq_map (entries : List (String × Setting)) :
    entriesToJson entries = entries.map fun e => (e.1, e.2.toJson) := by
  induction entries with
  | nil => rw [entriesToJson, List.map_nil]
  | cons first rest ih => rw [entriesToJson, ih, List.map_cons]

/-- the members of a group are its settings -/
theorem find?_toJson (h : (entries.map (·.1)).Nodup) (name : String) :
    Table.find? name (Table.ofList (entriesToJson entries)) = (entries.lookup name).map toJson := by
  have hnames : (entriesToJson entries).map (·.1) = entries.map (·.1) := by
    rw [entriesToJson_eq_map, List.map_map]
    rfl
  have hperm : (Table.ofList (entriesToJson entries)).Perm (entriesToJson entries) := Table.ofList_perm (hnames ▸ h)
  cases hfind : entries.lookup name with
  | some s =>
    have hmem : (name, s.toJson) ∈ entriesToJson entries := by
      rw [entriesToJson_eq_map]
      exact List.mem_map.2 ⟨(name, s), mem_of_lookup hfind, rfl⟩
    exact Table.find?_of_mem (Table.ofList_ascending _).nodup (hperm.mem_iff.2 hmem)
  | none =>
    refine Table.find?_eq_none fun entry hentry heq => ?_
    have hmem : name ∈ entries.map (·.1) := by
      rw [← hnames, ← heq]
      exact List.mem_map_of_mem (hperm.mem_iff.1 hentry)
    obtain ⟨e, he, rfl⟩ := List.mem_map.1 hmem
    rw [lookup_of_mem h he] at hfind
    cases hfind

end ToolGateway.Setting
