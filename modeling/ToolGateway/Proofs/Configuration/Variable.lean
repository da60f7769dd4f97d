import ToolGateway.Configuration.Variable
import ToolGateway.Proofs.Configuration.Setting

/-!
What variables set.

The variables are laid one over another, each at its own path. So along a path that none of them is in the way of
stands what the last variable with this path gives (`find?_settings`), and the others do not matter. With plain names,
that is without points and blanks, two variables have one path only if they have one name (`lowered_eq_of_path?`), and
then their order does not matter either (`lastValue?_perm`).

- `setting_distinct`: the value of a variable has each name once, in whatever notation.
- `settings_distinct`, `clear_settings`, `find?_settings`: what the variables set together.
- `mem_of_lastValue?`, `lastValue?_filter`, `lastValue?_perm`: the last variable with a path.
-/

namespace ToolGateway.Variable

open Setting (Distinct Spares)

variable {start : String} {path : List String} {environment : List (String × String)} {s : Setting}
  {text rest : List Char}

/-! ## Values -/

theorem natural?_distinct (h : natural? text = some s) : s.Distinct := by
  rw [natural?.eq_def] at h
  dsimp only at h
  split at h
  · split_ifs at h
    cases h
    exact .single nofun
  · cases h

theorem negative?_distinct (h : negative? text = some s) : s.Distinct := by
  rw [negative?.eq_def] at h
  split at h
  · split at h
    · split_ifs at h
      cases h
      exact .single nofun
    · cases h
  · cases h

theorem decimal?_distinct (h : decimal? text = some s) : s.Distinct := by
  rw [decimal?.eq_def] at h
  dsimp only at h
  split at h
  · split at h
    · rw [← Option.some.inj h]
      exact Setting.distinct_decimal _ _
    · cases h
  · cases h

theorem plain_distinct (text : List Char) : (plain text).Distinct := by
  rw [plain]
  cases hnumber : ((if text.contains '.' then decimal? text else none) <|> natural? text <|> negative? text) with
  | none => exact .single nofun
  | some s =>
    simp only [Option.orElse_eq_orElse, Option.orElse_eq_or, Option.or_eq_some_iff] at hnumber
    rcases hnumber with h | ⟨-, h | ⟨-, h⟩⟩
    · split_ifs at h
      exact decimal?_distinct h
    · exact natural?_distinct h
    · exact negative?_distinct h

/-- what is read with so much fuel has each name once -/
structure ReadsDistinct (fuel : Nat) : Prop where
  value : ∀ {text s rest}, readValue? fuel text = some (s, rest) → s.Distinct
  entries : ∀ {isFirst text entries rest}, readEntries? fuel isFirst text = some (entries, rest) →
    ∀ e ∈ entries, e.2.Distinct
  entry : ∀ {text entries rest}, readEntry? fuel text = some (entries, rest) → ∀ e ∈ entries, e.2.Distinct

theorem readValue?_distinct {fuel : Nat} (ih : ReadsDistinct fuel) (h : readValue? (fuel + 1) text = some (s, rest)) :
    s.Distinct := by
  rw [readValue?] at h
  split at h
  · cases h
    exact .single nofun
  · cases h
    exact .single nofun
  · obtain ⟨⟨items, behind⟩, -, h⟩ := Option.map_eq_some_iff.1 h
    cases h
    exact .single nofun
  · obtain ⟨⟨entries, behind⟩, hentries, h⟩ := Option.map_eq_some_iff.1 h
    cases h
    exact Setting.mergeEntries_distinct (fun e he under hunder => hunder.merge (ih.entries hentries e he))
      (ih.entries hentries) Setting.distinct_empty
  · obtain ⟨⟨cs, behind⟩, -, h⟩ := Option.map_eq_some_iff.1 h
    cases h
    exact .single nofun
  · cases h
    exact .single nofun
  · cases h
    exact plain_distinct _

theorem readEntries?_distinct {fuel : Nat} (ih : ReadsDistinct fuel) {isFirst : Bool}
    {entries : List (String × Setting)} (h : readEntries? (fuel + 1) isFirst text = some (entries, rest)) :
    ∀ e ∈ entries, e.2.Distinct := by
  rw [readEntries?.eq_def] at h
  dsimp only at h
  split at h
  · cases h
    exact nofun
  · exact ih.entry h
  · split at h
    · cases h
      exact nofun
    · exact ih.entry h
  · cases h

theorem readEntry?_distinct {fuel : Nat} (ih : ReadsDistinct fuel) {entries : List (String × Setting)}
    (h : readEntry? (fuel + 1) text = some (entries, rest)) : ∀ e ∈ entries, e.2.Distinct := by
  rw [ readEntry?] at h
  split at h
  · cases h
  · split at h
    · split at h
      · rename_i hvalue
        obtain ⟨⟨others, behind⟩, hothers, h⟩ := Option.map_eq_some_iff.1 h
        cases h
        intro e he
        rcases List.mem_cons.1 he with rfl | he
        · exact ih.value hvalue
        · exact ih.entries hothers e he
      · cases h
    · cases h

theorem readsDistinct (fuel : Nat) : ReadsDistinct fuel := by
  induction fuel with
  | zero => exact ⟨nofun, nofun, nofun⟩
  | succ fuel ih => exact ⟨readValue?_distinct ih, readEntries?_distinct ih, readEntry?_distinct ih⟩

/-- **The value of a variable has each name once.** -/
theorem setting_distinct (value : String) : (setting value).Distinct := by
  rw [setting]
  split
  · rename_i hread
    split_ifs
    · exact (readsDistinct _).value hread
    · exact .single nofun
  · exact .single nofun

/-! ## The last variable with a path -/

/-- the value of the last variable with a path -/
def lastValue? (start : String) (path : List String) (environment : List (String × String)) : Option String :=
  environment.reverse.findSome? fun v => if path? start v.1 = some path then some v.2 else none

theorem lastValue?_concat (start : String) (path : List String) (environment : List (String × String))
    (v : String × String) :
    lastValue? start path (environment ++ [v]) =
      if path? start v.1 = some path then some v.2 else lastValue? start path environment := by
  rw [lastValue?, List.reverse_append, List.reverse_singleton, List.singleton_append, List.findSome?_cons]
  split_ifs <;> rfl

/-- it has the path, and no later variable has it -/
theorem lastValue?_eq_some {value : String} :
    lastValue? start path environment = some value ↔
      ∃ before name after, environment = before ++ (name, value) :: after ∧ path? start name = some path ∧
        ∀ later ∈ after, path? start later.1 ≠ some path := by
  rw [lastValue?, Table.findSome?_reverse_eq_some]
  constructor
  · rintro ⟨before, ⟨name, v⟩, after, rfl, hv, hafter⟩
    split_ifs at hv with hname
    cases hv
    refine ⟨before, name, after, rfl, hname, fun later hlater hpath => ?_⟩
    have hnone := hafter later hlater
    rw [if_pos hpath] at hnone
    cases hnone
  · rintro ⟨before, name, after, rfl, hname, hafter⟩
    exact ⟨before, (name, value), after, rfl, if_pos hname, fun later hlater => if_neg (hafter later hlater)⟩

theorem lastValue?_eq_none :
    lastValue? start path environment = none ↔ ∀ v ∈ environment, path? start v.1 ≠ some path := by
  rw [lastValue?, List.findSome?_eq_none_iff]
  constructor
  · intro h v hv hpath
    have hnone := h v (List.mem_reverse.2 hv)
    rw [if_pos hpath] at hnone
    cases hnone
  · exact fun h v hv => if_neg (h v (List.mem_reverse.1 hv))

theorem mem_of_lastValue? {value : String} (h : lastValue? start path environment = some value) :
    ∃ name, (name, value) ∈ environment ∧ path? start name = some path := by
  obtain ⟨before, name, after, rfl, hname, -⟩ := lastValue?_eq_some.1 h
  exact ⟨name, by simp, hname⟩

/-- variables with other paths do not matter -/
theorem lastValue?_filter {keeps : String × String → Bool}
    (hkeeps : ∀ v ∈ environment, path? start v.1 = some path → keeps v) :
    lastValue? start path (environment.filter keeps) = lastValue? start path environment := by
  induction environment using List.reverseRecOn with
  | nil => rfl
  | append_singleton environment v ih =>
    have hinit := ih fun w hw => hkeeps w (List.mem_append_left _ hw)
    rw [List.filter_append, lastValue?_concat, ← hinit]
    by_cases hv : keeps v = true
    · rw [List.filter_singleton, hv, cond_true, lastValue?_concat]
    · have hpath : path? start v.1 ≠ some path := fun h => hv (hkeeps v (by simp) h)
      rw [List.filter_singleton, Bool.eq_false_of_not_eq_true hv, cond_false, List.append_nil, if_neg hpath]

/-- if no two variables have the path, their order does not matter -/
theorem lastValue?_perm {other : List (String × String)} (hperm : environment.Perm other)
    (honce : ∀ v ∈ environment, ∀ w ∈ environment, path? start v.1 = some path → path? start w.1 = some path → v = w) :
    lastValue? start path environment = lastValue? start path other := by
  cases hother : lastValue? start path other with
  | none =>
    rw [lastValue?_eq_none] at hother ⊢
    exact fun v hv => hother v (hperm.mem_iff.1 hv)
  | some value =>
    obtain ⟨name, hmem, hname⟩ := mem_of_lastValue? hother
    replace hmem := hperm.mem_iff.2 hmem
    cases hvalue : lastValue? start path environment with
    | none => exact absurd hname (lastValue?_eq_none.1 hvalue (name, value) hmem)
    | some first =>
      obtain ⟨name', hmem', hname'⟩ := mem_of_lastValue? hvalue
      cases honce (name', first) hmem' (name, value) hmem hname' hname
      rfl

/-! ## Names -/

/-- a name without points and blanks, as it is compared -/
def IsPlain (name : String) : Prop :=
  ∀ c ∈ lowered name, c ≠ '.' ∧ Text.isBlank c = false

theorem trim_eq_self (h : ∀ c ∈ text, Text.isBlank c = false) : Text.trim text = text := by
  have hkeep : ∀ cs : List Char, (∀ c ∈ cs, Text.isBlank c = false) → cs.dropWhile Text.isBlank = cs := by
    intro cs hcs
    cases cs with
    | nil => rfl
    | cons c cs => rw [List.dropWhile_cons, hcs c List.mem_cons_self, if_neg Bool.false_ne_true]
  rw [Text.trim, hkeep text h, hkeep text.reverse fun c hc => h c (List.mem_reverse.1 hc), List.reverse_reverse]

theorem splitName_ne_nil (acc text : List Char) : splitName acc text ≠ [] := by
  fun_induction splitName acc text with
  | case1 => exact List.cons_ne_nil _ _
  | case2 => exact List.cons_ne_nil _ _
  | case3 _ _ _ _ _ ih => exact ih
  | case4 => exact List.cons_ne_nil _ _

/-- without points, the parts with double low lines between them are the name again -/
theorem intercalate_splitName (acc text : List Char) (h : '.' ∉ text) :
    List.intercalate ['_', '_'] (splitName acc text) = acc.reverse ++ text := by
  fun_induction splitName acc text with
  | case1 acc rest ih =>
    obtain ⟨part, parts, hparts⟩ := List.exists_cons_of_ne_nil (splitName_ne_nil [] rest)
    have hrest := ih (by simpa using h)
    rw [hparts] at hrest ⊢
    rw [List.intercalate_cons_cons, hrest]
    simp
  | case2 acc rest ih => exact absurd List.mem_cons_self h
  | case3 acc c rest _ _ ih =>
    rw [ih fun hmem => h (List.mem_cons_of_mem _ hmem)]
    simp
  | case4 acc => simp

/-- **A plain name is known from its path**: it is the start and the parts with double low lines between them. -/
theorem lowered_of_path? {name : String} (hplain : IsPlain name) (hpath : path? start name = some path) :
    lowered name = start.toList.map Char.toLower ++ List.intercalate ['_', '_'] (path.map String.toList) := by
  rw [path?] at hpath
  dsimp only at hpath
  split_ifs at hpath with hstart hparts
  obtain ⟨rest, hrest⟩ := List.isPrefixOf_iff_prefix.1 hstart
  have hplain : ∀ c ∈ rest, c ≠ '.' ∧ Text.isBlank c = false := fun c hc =>
    hplain c (hrest ▸ List.mem_append_right _ hc)
  have hdrop : (lowered name).drop start.toList.length = rest := by
    rw [← hrest, ← List.length_map (f := Char.toLower), List.drop_left]
  cases hpath
  rw [List.length_map, hdrop, trim_eq_self fun c hc => (hplain c hc).2, List.map_map]
  have hlists : (String.toList ∘ String.ofList) = id := funext fun cs => String.toList_ofList
  rw [hlists, List.map_id, intercalate_splitName [] rest fun hmem => (hplain '.' hmem).1 rfl, ← hrest]
  rfl

/-! ## What they set together -/

/-- a variable whose value is laid over what the others set -/
theorem settings_concat (start : String) (environment : List (String × String)) (v : String × String) :
    settings start (environment ++ [v]) =
      match path? start v.1 with
      | some path => (settings start environment).merge (.nest path (setting v.2))
      | none => settings start environment := by
  rw [settings, List.foldl_append]
  rfl

theorem settings_distinct (start : String) (environment : List (String × String)) :
    (settings start environment).Distinct := by
  induction environment using List.reverseRecOn with
  | nil => exact Setting.distinct_empty
  | append_singleton environment v ih =>
    rw [settings_concat]
    split
    · exact ih.merge ((setting_distinct v.2).nest _)
    · exact ih

/-- no variable is in the way of a path -/
def AllSpare (start : String) (path : List String) (environment : List (String × String)) : Prop :=
  ∀ v ∈ environment, ∀ other, path? start v.1 = some other → Spares other (setting v.2) path

theorem clear_settings (hne : path ≠ []) (h : AllSpare start path environment) :
    (settings start environment).Clear path := by
  induction environment using List.reverseRecOn with
  | nil => exact Setting.clear_empty hne
  | append_singleton environment v ih =>
    have hinit := ih fun w hw => h w (List.mem_append_left _ hw)
    rw [settings_concat]
    split
    · rename_i other hother
      have hspares := h v (by simp) other hother
      exact .merge ((setting_distinct v.2).nest _) hinit (Setting.clear_nest hspares)
    · exact hinit

/-- **Along a path stands what the last variable with this path gives.** -/
theorem find?_settings (hne : path ≠ []) (h : AllSpare start path environment) :
    (settings start environment).find? path = (lastValue? start path environment).map setting := by
  induction environment using List.reverseRecOn with
  | nil =>
    obtain ⟨name, path, rfl⟩ := List.exists_cons_of_ne_nil hne
    rfl
  | append_singleton environment v ih =>
    have hinit := ih fun w hw => h w (List.mem_append_left _ hw)
    rw [settings_concat, lastValue?_concat]
    cases hpath : path? start v.1 with
    | none =>
      rw [if_neg nofun]
      exact hinit
    | some other =>
      have hspares := h v (by simp) other hpath
      dsimp only
      rw [Setting.find?_merge ((setting_distinct v.2).nest _) (Setting.clear_nest hspares), Setting.find?_nest hspares,
        hinit]
      by_cases heq : other = path
      · rw [if_pos heq, if_pos (by rw [heq])]
        rfl
      · rw [if_neg heq, if_neg fun h => heq (Option.some.inj h)]
        rfl

end ToolGateway.Variable
