import ToolGateway.Configuration.Toml
import ToolGateway.Proofs.Configuration.Setting

/-!
What a TOML text can hold.

However a text is put together, of headers, dotted keys, lists of tables and tables between braces, each table of what
it says has each key once: a line that would define a key again is refused. `update?_distinct` is the step, for one
line, `run?_distinct` the run over all lines, and `read?_distinct` the result for texts.
-/

namespace ToolGateway.Toml

open Setting (IsGroup Distinct)

variable {entries after : Entries} {s : Setting} {text rest : List Char}

/-! ## Tables -/

theorem settings_set (name : String) (entry : Entry) (entries : Entries) :
    settings (set name entry entries) = Setting.alter name (fun _ => entry.setting) (settings entries) := by
  induction entries with
  | nil => simp only [set, settings, Setting.alter]
  | cons first rest ih =>
    obtain ⟨k, e⟩ := first
    rw [set, settings, Setting.alter]
    split_ifs
    · rw [settings]
    · rw [settings, ih]

theorem lookup_settings (name : String) (entries : Entries) :
    (settings entries).lookup name = (entries.lookup name).map Entry.setting := by
  induction entries with
  | nil => rw [settings, List.lookup_nil, List.lookup_nil, Option.map_none]
  | cons first rest ih =>
    obtain ⟨k, e⟩ := first
    rw [settings, List.lookup_cons, List.lookup_cons]
    split
    · rfl
    · exact ih

/-- each table among the entries has each key once -/
def IsSound (entries : Entries) : Prop :=
  (Setting.group (settings entries)).Distinct

theorem isSound_nil : IsSound [] := by
  rw [IsSound, settings]
  exact Setting.distinct_empty

theorem IsSound.set (h : IsSound entries) {entry : Entry} (hentry : entry.setting.Distinct) (name : String) :
    IsSound (set name entry entries) := by
  rw [IsSound, settings_set]
  exact h.alter hentry

theorem IsSound.entry (h : IsSound entries) {name : String} {entry : Entry} (hfind : entries.lookup name = some entry) :
    entry.setting.Distinct := by
  have hfound : (settings entries).lookup name = some entry.setting := by
    rw [lookup_settings, hfind, Option.map_some]
  exact h.part hfound

theorem setting_table (origin : Origin) (entries : Entries) :
    (Entry.table origin entries).setting = .group (settings entries) := by
  rw [Entry.setting]

/-- a list of tables counts as one thing -/
theorem distinct_tables (items : List Entries) : (Entry.tables items).setting.Distinct := by
  rw [Entry.setting]
  refine .single ?_
  rintro ⟨_, h⟩
  cases h

/-! ## Statements -/

/-- a change of one entry that gives a sound one -/
def IsSafe (change : Option Entry → Option Entry) : Prop :=
  ∀ old new, change old = some new → (∀ entry, old = some entry → entry.setting.Distinct) → new.setting.Distinct

theorem isSafe_defineValue (h : s.Distinct) : IsSafe (defineValue s) := by
  intro old new hchange _
  cases old with
  | some _ => cases hchange
  | none =>
    cases hchange
    rw [Entry.setting]
    exact h

theorem isSafe_defineTable : IsSafe defineTable := by
  intro old new hchange hold
  match old, hchange with
  | none, hchange =>
    cases hchange
    rw [setting_table]
    exact isSound_nil
  | some (.table .implied entries), hchange =>
    cases hchange
    have hentries := hold _ rfl
    rw [setting_table] at hentries ⊢
    exact hentries

theorem isSafe_defineNextTable : IsSafe defineNextTable := by
  intro old new hchange _
  match old, hchange with
  | none, hchange =>
    cases hchange
    exact distinct_tables _
  | some (.tables items), hchange =>
    cases hchange
    exact distinct_tables _

/-- **Changing the entry at a path keeps all tables sound.** -/
theorem update?_distinct {change : Option Entry → Option Entry} (hsafe : IsSafe change) {path : List (String × Bool)}
    (h : IsSound entries) (hupdate : update? change path entries = some after) : IsSound after := by
  induction path generalizing entries after with
  | nil => cases hupdate
  | cons first path ih =>
    obtain ⟨name, isDotted⟩ := first
    cases path with
    | nil =>
      obtain ⟨new, hnew, rfl⟩ := Option.map_eq_some_iff.1 hupdate
      exact h.set (hsafe _ new hnew fun entry hentry => h.entry hentry) name
    | cons second path =>
      rw [update?] at hupdate
      on_goal 2 => exact List.cons_ne_nil _ _
      split at hupdate
      · obtain ⟨inner, hinner, hafter⟩ := Option.bind_eq_some_iff.1 hupdate
        cases hafter
        refine h.set ?_ name
        rw [setting_table]
        exact ih isSound_nil hinner
      · rename_i origin entries hfind
        split_ifs at hupdate
        obtain ⟨inner, hinner, hafter⟩ := Option.bind_eq_some_iff.1 hupdate
        cases hafter
        have hentries := h.entry hfind
        rw [setting_table] at hentries
        refine h.set ?_ name
        rw [setting_table]
        exact ih hentries hinner
      · split_ifs at hupdate
        obtain ⟨inner, -, hafter⟩ := Option.bind_eq_some_iff.1 hupdate
        cases hafter
        exact h.set (distinct_tables _) name
      · cases hupdate

/-- the value of a statement has each key once -/
def Statement.IsSound : Statement → Prop
  | .assign _ value => value.Distinct
  | _ => True

/-- **Carrying out statements keeps all tables sound.** -/
theorem run?_distinct {statements : List Statement} (hstatements : ∀ st ∈ statements, st.IsSound) (h : IsSound entries)
    {current : List String} (hrun : run? current entries statements = some after) : IsSound after := by
  induction statements generalizing current entries with
  | nil =>
    cases hrun
    exact h
  | cons st statements ih =>
    have hlater : ∀ later ∈ statements, later.IsSound := fun later hlater =>
      hstatements later (List.mem_cons_of_mem _ hlater)
    cases st with
    | table path =>
      obtain ⟨mid, hmid, hrun⟩ := Option.bind_eq_some_iff.1 hrun
      exact ih hlater (update?_distinct isSafe_defineTable h hmid) hrun
    | nextTable path =>
      obtain ⟨mid, hmid, hrun⟩ := Option.bind_eq_some_iff.1 hrun
      exact ih hlater (update?_distinct isSafe_defineNextTable h hmid) hrun
    | assign path value =>
      obtain ⟨mid, hmid, hrun⟩ := Option.bind_eq_some_iff.1 hrun
      have hvalue : value.Distinct := hstatements _ List.mem_cons_self
      exact ih hlater (update?_distinct (isSafe_defineValue hvalue) h hmid) hrun

theorem ofStatements?_distinct {statements : List Statement} (hstatements : ∀ st ∈ statements, st.IsSound)
    (h : ofStatements? statements = some s) : s.Distinct ∧ s.IsGroup := by
  obtain ⟨entries, hrun, rfl⟩ := Option.map_eq_some_iff.1 h
  exact ⟨run?_distinct hstatements isSound_nil hrun, Setting.isGroup_group _⟩

/-! ## Texts -/

theorem bounded_distinct {i : Int} (h : bounded i = some s) : s.Distinct := by
  rw [bounded] at h
  split_ifs at h
  cases h
  exact .single nofun

theorem integer?_distinct (h : integer? text = some s) : s.Distinct := by
  rw [integer?.eq_def] at h
  split at h <;> obtain ⟨_, -, h⟩ := Option.bind_eq_some_iff.1 h <;> exact bounded_distinct h

theorem decimal?_distinct (h : decimal? text = some s) : s.Distinct := by
  rcases hsign : splitSign text with ⟨isNegative, body⟩
  rw [decimal?, hsign] at h
  dsimp only at h
  by_cases hinf : body = ['i', 'n', 'f']
  · rw [if_pos hinf] at h
    cases h
    exact .single nofun
  by_cases hnan : body = ['n', 'a', 'n']
  · rw [if_neg hinf, if_pos hnan] at h
    cases h
    exact .single nofun
  · rw [if_neg hinf, if_neg hnan] at h
    split at h
    · split at h
      · cases h
        exact Setting.distinct_decimal _ _
      · cases h
    · obtain ⟨_, -, h⟩ := Option.bind_eq_some_iff.1 h
      cases h
      exact Setting.distinct_decimal _ _
    · cases h

theorem moment?_distinct (h : moment? text = some s) : s.Distinct := by
  rw [moment?] at h
  split_ifs at h
  cases h
  refine .group (List.nodup_singleton _) fun e he => ?_
  cases List.mem_singleton.1 he
  exact .single nofun

theorem readPlain?_distinct (h : readPlain? text = some (s, rest)) : s.Distinct := by
  rcases htoken : takeToken text with ⟨token, behind⟩
  rw [readPlain?, htoken] at h
  dsimp only at h
  obtain ⟨found, hfound, h⟩ := Option.map_eq_some_iff.1 h
  cases h
  split_ifs at hfound
  · cases hfound
    exact .single nofun
  · cases hfound
    exact .single nofun
  · simp only [Option.orElse_eq_orElse, Option.orElse_eq_or, Option.or_eq_some_iff] at hfound
    rcases hfound with h | ⟨-, h | ⟨-, h⟩⟩
    · exact integer?_distinct h
    · exact decimal?_distinct h
    · exact moment?_distinct h

theorem inlineTable?_distinct {assignments : List (List String × Setting)} (hvalues : ∀ a ∈ assignments, a.2.Distinct)
    (h : inlineTable? assignments = some s) : s.Distinct := by
  refine (ofStatements?_distinct (fun st hst => ?_) h).1
  obtain ⟨a, ha, rfl⟩ := List.mem_map.1 hst
  exact hvalues a ha

/-- what is read with so much fuel has each key once -/
structure ReadsDistinct (fuel : Nat) : Prop where
  value : ∀ {text s rest}, readValue? fuel text = some (s, rest) → s.Distinct
  assignments : ∀ {text assignments rest}, readAssignments? fuel text = some (assignments, rest) →
    ∀ a ∈ assignments, a.2.Distinct

theorem readValue?_distinct {fuel : Nat} (ih : ReadsDistinct fuel) (h : readValue? (fuel + 1) text = some (s, rest)) :
    s.Distinct := by
  rw [readValue?.eq_def] at h
  split at h
  · cases h
  · rename_i n text heq
    cases heq
    split at h
    · obtain ⟨⟨items, behind⟩, -, h⟩ := Option.map_eq_some_iff.1 h
      cases h
      exact .single nofun
    · split at h
      · cases h
        exact Setting.distinct_empty
      · obtain ⟨⟨assignments, behind⟩, hassignments, h⟩ := Option.bind_eq_some_iff.1 h
        obtain ⟨table, htable, h⟩ := Option.bind_eq_some_iff.1 h
        cases h
        exact inlineTable?_distinct (ih.assignments hassignments) htable
    · obtain ⟨⟨cs, behind⟩, -, h⟩ := Option.map_eq_some_iff.1 h
      cases h
      exact .single nofun
    · obtain ⟨⟨cs, behind⟩, -, h⟩ := Option.map_eq_some_iff.1 h
      cases h
      exact .single nofun
    · exact readPlain?_distinct h

theorem readAssignments?_distinct {fuel : Nat} (ih : ReadsDistinct fuel) {assignments : List (List String × Setting)}
    (h : readAssignments? (fuel + 1) text = some (assignments, rest)) : ∀ a ∈ assignments, a.2.Distinct := by
  rw [readAssignments?] at h
  obtain ⟨⟨path, behind⟩, -, h⟩ := Option.bind_eq_some_iff.1 h
  dsimp only at h
  split at h
  · obtain ⟨⟨s, behind⟩, hvalue, h⟩ := Option.bind_eq_some_iff.1 h
    dsimp only at h
    split at h
    · obtain ⟨⟨others, behind⟩, hothers, h⟩ := Option.bind_eq_some_iff.1 h
      cases h
      intro a ha
      rcases List.mem_cons.1 ha with rfl | ha
      · exact ih.value hvalue
      · exact ih.assignments hothers a ha
    · cases h
      intro a ha
      cases List.mem_singleton.1 ha
      exact ih.value hvalue
    · cases h
  · cases h

theorem readsDistinct (fuel : Nat) : ReadsDistinct fuel := by
  induction fuel with
  | zero => exact ⟨nofun, nofun⟩
  | succ fuel ih => exact ⟨readValue?_distinct ih, readAssignments?_distinct ih⟩

theorem readStatement?_sound {st : Statement} (h : readStatement? text = some (st, rest)) : st.IsSound := by
  rw [readStatement?.eq_def] at h
  split at h
  · obtain ⟨⟨path, behind⟩, -, h⟩ := Option.bind_eq_some_iff.1 h
    dsimp only at h
    split at h
    · cases h
      exact trivial
    · cases h
  · obtain ⟨⟨path, behind⟩, -, h⟩ := Option.bind_eq_some_iff.1 h
    dsimp only at h
    split at h
    · cases h
      exact trivial
    · cases h
  · obtain ⟨⟨path, behind⟩, -, h⟩ := Option.bind_eq_some_iff.1 h
    dsimp only at h
    split at h
    · obtain ⟨⟨s, behind⟩, hvalue, h⟩ := Option.bind_eq_some_iff.1 h
      cases h
      exact (readsDistinct _).value hvalue
    · cases h

theorem readStatements?_sound {fuel : Nat} {statements : List Statement}
    (h : readStatements? fuel text = some statements) : ∀ st ∈ statements, st.IsSound := by
  induction fuel generalizing text statements with
  | zero => cases h
  | succ fuel ih =>
    rw [readStatements?] at h
    obtain ⟨line, -, h⟩ := Option.bind_eq_some_iff.1 h
    split at h
    · cases h
      exact nofun
    · obtain ⟨⟨st, behind⟩, hst, h⟩ := Option.bind_eq_some_iff.1 h
      obtain ⟨next, -, h⟩ := Option.bind_eq_some_iff.1 h
      obtain ⟨others, hothers, h⟩ := Option.bind_eq_some_iff.1 h
      cases h
      intro other hother
      rcases List.mem_cons.1 hother with rfl | hother
      · exact readStatement?_sound hst
      · exact ih hothers other hother

/-- **The settings of a text are a group, and each table in it has each key once.** -/
theorem read?_distinct {text : String} (h : read? text = some s) : s.Distinct ∧ s.IsGroup := by
  obtain ⟨statements, hstatements, h⟩ := Option.bind_eq_some_iff.1 h
  exact ofStatements?_distinct (readStatements?_sound hstatements) h

end ToolGateway.Toml
