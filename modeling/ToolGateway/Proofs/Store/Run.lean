import ToolGateway.Proofs.Store.Restoration

/-!
The store as a map that ascends by name, over whole runs.

Three operations change a store: a tool is saved, all tools are replaced, a name is removed. As with the registry, an
operation has its say on some names (`Op.leaves`), and one that is refused has none. A replacement reaches the database
as one batch, which first takes out every old key and then puts in the new records, possibly under the same keys; of the
operations of a batch on one key the last counts (`Batch.leaves`).

- `step_find?`, `run_find?`: under the key of a name stands the record of what the last operation that had its say on
  the name left there.
- `step_inv`, `run_inv`: the keys ascend, and each record is that of a tool which is read back from it.
- `replaceAll_iff_batch`: a replacement is what the batch leaves.
- `load_last_writes`: so loading gives what was last written under each name, ascending by name.
-/

namespace ToolGateway.Store

/-! ## Runs -/

/-- what changes a store -/
inductive Op where
  | save (t : Tool)
  | replaceAll (tools : List Tool)
  | remove (name : String)

/-- the tools that an operation brings along -/
def Op.tools : Op → List Tool
  | .save t => [t]
  | .replaceAll tools => tools
  | .remove _ => []

/-- the answer of an operation, without what it reports, and the store after it -/
def perform (s : Store) : Op → Except RegistryFault Unit × Store
  | .save t => s.save t
  | .replaceAll tools => s.replaceAll tools
  | .remove name => (.ok (), (s.remove name).2)

/-- the store after an operation, be it refused or not -/
def step (s : Store) (op : Op) : Store :=
  (s.perform op).2

/-- the store after some operations on an empty one -/
def run (ops : List Op) : Store :=
  ops.foldl step {}

/-- what an operation leaves under a name, if it has its say on it -/
def Op.leaves (name : String) : Op → Option (Option Tool)
  | .save t => if t.name = "" then none else if t.name = name then some (some t) else none
  | .replaceAll tools => Registry.listLeaves name tools
  | .remove other => if other = name then some none else none

/-- the tool was left under the name by the last of some operations that had its say on it -/
def LastWrite (ops : List Op) (name : String) (t : Tool) : Prop :=
  ∃ before op after, ops = before ++ op :: after ∧ op.leaves name = some (some t) ∧
    ∀ later ∈ after, later.leaves name = none

variable {s : Store} {t : Tool} {tools : List Tool} {ops : List Op} {op : Op} {name : String}

/-! ## What an operation leaves -/

theorem key_inj {name other : String} : key name = key other ↔ name = other :=
  ⟨fun h => Utf8.encode_injective h, fun h => h ▸ rfl⟩

theorem save_nameless (h : t.name = "") (s : Store) : s.save t = (.error .emptyName, s) := by
  rw [save, if_pos (by rw [h]; rfl)]

theorem save_named (h : t.name ≠ "") (s : Store) : s.save t = (.ok (), s.put (key t.name) (record t)) := by
  rw [save, if_neg (by simpa using h)]

/-- a tool without a name, wherever it stands in a list, refuses the whole list -/
theorem replaceAll_nameless (h : ∃ t ∈ tools, t.name = "") (s : Store) :
    s.replaceAll tools = (.error .emptyName, s) := by
  have hrecords : ∀ table, recordsOf table tools = .error .emptyName := by
    induction tools with
    | nil => simp at h
    | cons t tools ih =>
      intro table
      rw [recordsOf]
      split_ifs with hempty
      · rfl
      · refine ih ?_ _
        simpa [show t.name ≠ "" by simpa using hempty] using h
  rw [replaceAll, hrecords]

theorem replaceAll_named (h : ∀ t ∈ tools, t.name ≠ "") (s : Store) :
    s.replaceAll tools = (.ok (), { s with records := Table.ofList (tools.map entry) }) := by
  rw [replaceAll, recordsOf_eq_foldl h, Table.ofList]

/-- of the tools of a list with one name the last counts -/
theorem find?_ofList_entry (tools : List Tool) (name : String) :
    (Table.ofList (tools.map entry)).find? (key name) = (tools.reverse.find? (·.name = name)).map record := by
  have hkey : ((fun pair : Bytes × Bytes => decide (pair.1 = key name)) ∘ entry) = fun t => decide (t.name = name) := by
    funext t
    rw [Function.comp, entry_fst, decide_eq_decide, key_inj]
  have hvalue : (fun pair : Bytes × Bytes => pair.2) ∘ entry = record := by
    funext t
    exact entry_snd t
  rw [Table.find?_ofList, ← List.map_reverse, List.find?_map, hkey, Option.map_map, hvalue]

theorem replaceAll_find? (s : Store) (tools : List Tool) (name : String) :
    (s.replaceAll tools).2.records.find? (key name) =
      ((Registry.listLeaves name tools).map (Option.map record)).getD (s.records.find? (key name)) := by
  by_cases hnameless : ∃ t ∈ tools, t.name = ""
  · rw [replaceAll_nameless hnameless, Registry.listLeaves, if_pos (by simpa using hnameless)]
    rfl
  · rw [replaceAll_named (by simpa using hnameless), Registry.listLeaves, if_neg (by simpa using hnameless)]
    exact find?_ofList_entry tools name

/-- a refused operation changes nothing and has no say on any name -/
theorem refused {e : RegistryFault} (h : (s.perform op).1 = .error e) :
    s.step op = s ∧ ∀ name, op.leaves name = none := by
  cases op with
  | save t =>
    by_cases hname : t.name = ""
    · exact ⟨congrArg Prod.snd (save_nameless hname s), fun name => if_pos hname⟩
    · rw [perform, save_named hname] at h
      cases h
  | replaceAll tools =>
    by_cases hnameless : ∃ t ∈ tools, t.name = ""
    · exact ⟨congrArg Prod.snd (replaceAll_nameless hnameless s), fun name => if_pos (by simpa using hnameless)⟩
    · rw [perform, replaceAll_named (by simpa using hnameless)] at h
      cases h
  | remove other => cases h

/-! ## Invariant -/

/-- the tool has a name, and its record is read back as the tool -/
def Kept (t : Tool) : Prop :=
  t.name ≠ "" ∧ Tool.codec.read (record t) = .ok t

/-- the keys ascend, and each record is that of a tool which is read back from it -/
structure Inv (s : Store) : Prop where
  ascending : Table.Ascending s.records
  kept : ∀ pair ∈ s.records, ∃ t, Kept t ∧ pair = entry t

theorem inv_empty : Inv {} :=
  ⟨List.Pairwise.nil, nofun⟩

theorem save_inv (h : s.Inv) (hread : Tool.codec.read (record t) = .ok t) : (s.save t).2.Inv := by
  by_cases hname : t.name = ""
  · rw [save_nameless hname]
    exact h
  · rw [save_named hname]
    refine ⟨Table.insert_ascending _ _ h.ascending, fun pair hpair => ?_⟩
    rcases Table.mem_of_mem_insert hpair with rfl | hpair
    · exact ⟨t, ⟨hname, hread⟩, rfl⟩
    · exact h.kept pair hpair

theorem replaceAll_inv (h : s.Inv) (hread : ∀ t ∈ tools, Tool.codec.read (record t) = .ok t) :
    (s.replaceAll tools).2.Inv := by
  by_cases hnameless : ∃ t ∈ tools, t.name = ""
  · rw [replaceAll_nameless hnameless]
    exact h
  · have hne : ∀ t ∈ tools, t.name ≠ "" := by simpa using hnameless
    rw [replaceAll_named hne]
    refine ⟨Table.ofList_ascending _, fun pair hpair => ?_⟩
    obtain ⟨t, ht, rfl⟩ := List.mem_map.1 (Table.mem_of_mem_ofList hpair)
    exact ⟨t, ⟨hne t ht, hread t ht⟩, rfl⟩

theorem remove_inv (h : s.Inv) (name : String) : (s.remove name).2.Inv :=
  ⟨Table.erase_ascending _ h.ascending, fun pair hpair => h.kept pair (Table.mem_of_mem_erase hpair)⟩

theorem step_inv (h : s.Inv) (hread : ∀ t ∈ op.tools, Tool.codec.read (record t) = .ok t) : (s.step op).Inv := by
  cases op with
  | save t => exact save_inv h (hread t (List.mem_singleton_self t))
  | replaceAll tools => exact replaceAll_inv h hread
  | remove name => exact remove_inv h name

/-- **At every moment of a run the records are those of tools which are read back.** -/
theorem run_inv (hread : ∀ op ∈ ops, ∀ t ∈ op.tools, Tool.codec.read (record t) = .ok t) : (run ops).Inv := by
  induction ops using List.reverseRecOn with
  | nil => exact inv_empty
  | append_singleton ops op ih =>
    rw [run, List.foldl_append, List.foldl_cons, List.foldl_nil, ← run]
    refine step_inv (ih fun earlier hearlier => hread earlier (List.mem_append_left _ hearlier)) (hread op ?_)
    exact List.mem_append_right _ (List.mem_singleton_self op)

/-! ## The map -/

/-- **An operation leaves the records of the tools it says**, and where it has no say it changes nothing. -/
theorem step_find? (h : s.Inv) (op : Op) (name : String) :
    (s.step op).records.find? (key name) =
      ((op.leaves name).map (Option.map record)).getD (s.records.find? (key name)) := by
  cases op with
  | save t =>
    by_cases hempty : t.name = ""
    · rw [step, perform, save_nameless hempty, Op.leaves, if_pos hempty]
      rfl
    · rw [step, perform, save_named hempty, Op.leaves, if_neg hempty]
      by_cases hname : t.name = name
      · subst hname
        rw [if_pos rfl]
        exact Table.find?_insert_self _ _ _
      · rw [if_neg hname]
        exact Table.find?_insert_of_ne _ _ fun heq => hname (key_inj.1 heq.symm)
  | replaceAll tools => exact replaceAll_find? s tools name
  | remove other =>
    rw [step, perform, remove, Op.leaves]
    by_cases hname : other = name
    · subst hname
      rw [if_pos rfl]
      exact Table.find?_erase_self h.ascending.nodup _
    · rw [if_neg hname]
      exact Table.find?_erase_of_ne _ fun heq => hname (key_inj.1 heq.symm)

/-- **Under a key stands the record of what the last operation with a say on the name left there.** -/
theorem run_find? (hread : ∀ op ∈ ops, ∀ t ∈ op.tools, Tool.codec.read (record t) = .ok t) (name : String) :
    (run ops).records.find? (key name) = (ops.reverse.findSome? (Op.leaves name)).bind (Option.map record) := by
  induction ops using List.reverseRecOn with
  | nil => rfl
  | append_singleton ops op ih =>
    have hearlier : ∀ op ∈ ops, ∀ t ∈ op.tools, Tool.codec.read (record t) = .ok t := fun earlier hmem =>
      hread earlier (List.mem_append_left _ hmem)
    rw [run, List.foldl_append, List.foldl_cons, List.foldl_nil, ← run, step_find? (run_inv hearlier), ih hearlier,
      List.reverse_append, List.reverse_singleton, List.singleton_append, List.findSome?_cons]
    cases op.leaves name <;> rfl

/-- what is left under a name is a tool that the operation brought along, and bears the name -/
theorem mem_of_leaves (h : op.leaves name = some (some t)) : t ∈ op.tools ∧ t.name = name := by
  cases op with
  | save u =>
    rw [Op.leaves] at h
    split_ifs at h with hempty hname
    cases h
    exact ⟨List.mem_singleton_self _, hname⟩
  | replaceAll tools =>
    rw [Op.leaves, Registry.listLeaves] at h
    split_ifs at h
    have hfind := Option.some.inj h
    exact ⟨List.mem_reverse.1 (List.mem_of_find?_eq_some hfind), by simpa using List.find?_some hfind⟩
  | remove other =>
    rw [Op.leaves] at h
    split_ifs at h
    cases h

theorem lastWrite_iff : LastWrite ops name t ↔ ops.reverse.findSome? (Op.leaves name) = some (some t) :=
  Table.findSome?_reverse_eq_some.symm

/-! ## Loading -/

/-- a record is read back as one tool only -/
theorem eq_of_record {u : Tool} (hu : Tool.codec.read (record u) = .ok u) (ht : Tool.codec.read (record t) = .ok t)
    (h : record u = record t) : u = t :=
  Except.ok.inj (hu.symm.trans ((congrArg Tool.codec.read h).trans ht))

theorem Kept.holds (h : Kept t) : Holds (entry t) t := by
  rw [Holds, entry_fst, entry_snd, key]
  exact ⟨h.2, rfl⟩

/-- so the records are those of some tools, in the order of the keys -/
theorem Inv.exists_tools (h : s.Inv) : ∃ tools : List Tool, s.records = tools.map entry ∧ ∀ t ∈ tools, Kept t := by
  have hkept := h.kept
  generalize s.records = records at hkept ⊢
  induction records with
  | nil => exact ⟨[], rfl, List.forall_mem_nil _⟩
  | cons pair records ih =>
    obtain ⟨t, ht, hpair⟩ := hkept pair List.mem_cons_self
    obtain ⟨tools, hrecords, htools⟩ := ih fun later hlater => hkept later (List.mem_cons_of_mem _ hlater)
    refine ⟨t :: tools, ?_, List.forall_mem_cons.2 ⟨ht, htools⟩⟩
    rw [List.map_cons, ← hpair, ← hrecords]

/-- **Loading never fails**, and gives the tools whose records there are. -/
theorem Inv.exists_load (h : s.Inv) :
    ∃ tools, s.load = .ok tools ∧ s.records = tools.map entry ∧ ∀ t ∈ tools, Kept t := by
  obtain ⟨tools, hrecords, htools⟩ := h.exists_tools
  refine ⟨tools, load_eq_ok.2 ?_, hrecords, htools⟩
  rw [hrecords, List.forall₂_map_left_iff, List.forall₂_same]
  exact fun t ht => (htools t ht).holds

section Loaded

variable (h : s.Inv) (hrecords : s.records = tools.map entry)
include h hrecords

theorem loaded_ascending : tools.Pairwise fun a b => Utf8.encode a.name < Utf8.encode b.name := by
  have hasc := h.ascending
  rw [hrecords, Table.Ascending, List.pairwise_map] at hasc
  simpa only [entry_fst, key] using hasc

/-- of the tools that are loaded one has the name exactly if there is a record under its key -/
theorem exists_loaded_iff : (∃ t ∈ tools, t.name = name) ↔ (s.records.find? (key name)).isSome = true := by
  rw [Option.isSome_iff_exists]
  constructor
  · rintro ⟨t, ht, rfl⟩
    refine ⟨record t, Table.find?_of_mem h.ascending.nodup ?_⟩
    rw [hrecords]
    exact List.mem_map_of_mem ht
  · rintro ⟨value, hfind⟩
    have hmem := Table.mem_of_find? hfind
    rw [hrecords] at hmem
    obtain ⟨t, ht, hentry⟩ := List.mem_map.1 hmem
    have hkey := congrArg Prod.fst hentry
    simp only [entry_fst] at hkey
    exact ⟨t, ht, key_inj.1 hkey⟩

/-- a tool that is read back from its record is loaded exactly if that record stands under its name -/
theorem mem_loaded (hkept : ∀ t ∈ tools, Kept t) (hread : Tool.codec.read (record t) = .ok t) :
    t ∈ tools ↔ s.records.find? (key t.name) = some (record t) := by
  constructor
  · intro ht
    refine Table.find?_of_mem h.ascending.nodup ?_
    rw [hrecords]
    exact List.mem_map_of_mem ht
  · intro hfind
    have hmem := Table.mem_of_find? hfind
    rw [hrecords] at hmem
    obtain ⟨u, hu, hentry⟩ := List.mem_map.1 hmem
    have hsame := congrArg Prod.snd hentry
    simp only [entry_snd] at hsame
    obtain rfl : u = t := eq_of_record (hkept u hu).2 hread hsame
    exact hu

end Loaded

/-- **A tool is loaded exactly if it is the one last written under its name.** -/
theorem mem_loaded_iff (hread : ∀ op ∈ ops, ∀ t ∈ op.tools, Tool.codec.read (record t) = .ok t)
    (hrecords : (run ops).records = tools.map entry) (hkept : ∀ t ∈ tools, Kept t) :
    t ∈ tools ∧ t.name = name ↔ LastWrite ops name t := by
  have hinv := run_inv hread
  rw [lastWrite_iff]
  constructor
  · rintro ⟨ht, rfl⟩
    have hfind := (mem_loaded hinv hrecords hkept (hkept t ht).2).1 ht
    rw [run_find? hread] at hfind
    obtain ⟨left, hlast, hleft⟩ := Option.bind_eq_some_iff.1 hfind
    obtain ⟨u, rfl, hsame⟩ := Option.map_eq_some_iff.1 hleft
    -- what was left there has the record of the tool, and both are read back from it
    obtain ⟨before, op, after, hops, hleaves, -⟩ := Table.findSome?_reverse_eq_some.1 hlast
    have hu : Tool.codec.read (record u) = .ok u :=
      hread op (hops ▸ List.mem_append_right _ List.mem_cons_self) u (mem_of_leaves hleaves).1
    rw [hlast, eq_of_record hu (hkept t ht).2 hsame]
  · intro hlast
    obtain ⟨before, op, after, hops, hleaves, -⟩ := Table.findSome?_reverse_eq_some.1 hlast
    obtain ⟨hmem, rfl⟩ := mem_of_leaves hleaves
    have ht : Tool.codec.read (record t) = .ok t := hread op (hops ▸ List.mem_append_right _ List.mem_cons_self) t hmem
    refine ⟨(mem_loaded hinv hrecords hkept ht).2 ?_, rfl⟩
    rw [run_find? hread, hlast]
    rfl

/-! ## Batches -/

/-- operations on the database that take effect together: a key with a value to put there, or without one to take it
out -/
abbrev Batch := List (Bytes × Option Bytes)

/-- what a batch leaves under a key: what the last of its operations on the key says, or what was there -/
def Batch.leaves (batch : Batch) (records : Table Bytes Bytes) (key : Bytes) : Option Bytes :=
  ((batch.reverse.find? (·.1 = key)).map (·.2)).getD (records.find? key)

/-- every old key is taken out, then the record of each tool is put in -/
def replacement (s : Store) (tools : List Tool) : Batch :=
  s.records.keys.map (fun key => (key, none)) ++ (tools.map entry).map fun pair => (pair.1, some pair.2)

/-- an old key that a tool of the list has, too, is not lost -/
theorem replacement_leaves (s : Store) (tools : List Tool) (key : Bytes) :
    (s.replacement tools).leaves s.records key = (Table.ofList (tools.map entry)).find? key := by
  have hnew : ((tools.map entry).map fun pair => (pair.1, some pair.2)).reverse.find? (·.1 = key) =
      ((tools.map entry).reverse.find? (·.1 = key)).map fun pair => (pair.1, some pair.2) := by
    rw [← List.map_reverse, List.find?_map]
    rfl
  rw [Batch.leaves, replacement, List.reverse_append, List.find?_append, hnew, Table.find?_ofList]
  cases (tools.map entry).reverse.find? (·.1 = key) with
  | some pair => rfl
  | none =>
    -- no tool has the key: it was there and is taken out, or it was not there
    cases hold : (s.records.keys.map fun key => (key, (none : Option Bytes))).reverse.find? (·.1 = key) with
    | some pair =>
      obtain ⟨old, -, hpair⟩ := List.mem_map.1 (List.mem_reverse.1 (List.mem_of_find?_eq_some hold))
      rw [← hpair]
      rfl
    | none =>
      refine Table.find?_eq_none fun pair hpair heq => ?_
      have habsent := List.find?_eq_none.1 hold (pair.1, none)
        (List.mem_reverse.2 (List.mem_map_of_mem (List.mem_map_of_mem hpair)))
      exact habsent (decide_eq_true heq)

/-- **A replacement is what its batch leaves**, in the only order in which the keys ascend. -/
theorem replaceAll_iff_batch (hne : ∀ t ∈ tools, t.name ≠ "") (s : Store) (records : Table Bytes Bytes) :
    s.replaceAll tools = (.ok (), { records }) ↔
      Table.Ascending records ∧ ∀ key, records.find? key = (s.replacement tools).leaves s.records key := by
  rw [replaceAll_named hne]
  have hasc : Table.Ascending (Table.ofList (tools.map entry)) := Table.ofList_ascending _
  constructor
  · intro h
    cases h
    exact ⟨hasc, fun key => (replacement_leaves s tools key).symm⟩
  · rintro ⟨hrecords, hfind⟩
    have hsame : Table.ofList (tools.map entry) = records :=
      Table.eq_of_find? hasc hrecords fun key => (replacement_leaves s tools key).symm.trans (hfind key).symm
    rw [hsame]

/-! ## Main result -/

/-- **The store is a map that ascends by name, in which the last writer wins.** At every moment of every run from an
empty store, if the tools that are written can be read back from their records:

- loading succeeds, and gives one tool for each record, in the order of the octets of the names, which is that of the
  names and that of a listing of the registry;
- a tool is loaded exactly if it is what the last operation with a say on its name left there: a save, the last tool of
  the name in a replacement, or a removal, which leaves none; refused operations change nothing and have no say;
- the size is the number of tools loaded, and a removal says whether there was a tool of the name;
- a replacement leaves what its batch does, in which every old key is taken out before the new records are put in and
  the last operation on a key counts. -/
theorem load_last_writes (ops : List Op)
    (hread : ∀ op ∈ ops, ∀ t ∈ op.tools, Tool.codec.read (record t) = .ok t) :
    let s := run ops
    ∃ tools, s.load = .ok tools ∧
      s.records.keys = tools.map (fun t => key t.name) ∧
      (tools.Pairwise fun a b => Utf8.encode a.name < Utf8.encode b.name) ∧
      (tools.Pairwise fun a b => a.name < b.name) ∧
      (∀ r : Registry, (r.replaceAll tools).1 = .ok () ∧ (r.replaceAll tools).2.list.tools = tools) ∧
      (∀ name t, t ∈ tools ∧ t.name = name ↔ LastWrite ops name t) ∧
      (∀ op e, (s.perform op).1 = .error e → s.step op = s ∧ ∀ name, op.leaves name = none) ∧
      s.size = tools.length ∧
      (∀ name, (s.remove name).1 = true ↔ ∃ t ∈ tools, t.name = name) ∧
      ∀ replacing, (∀ t ∈ replacing, t.name ≠ "") → ∀ records, s.replaceAll replacing = (.ok (), { records }) ↔
        Table.Ascending records ∧ ∀ key, records.find? key = (s.replacement replacing).leaves s.records key := by
  intro s
  have hinv : s.Inv := run_inv hread
  obtain ⟨tools, hload, hrecords, hkept⟩ := hinv.exists_load
  have hoctets := loaded_ascending hinv hrecords
  have hnames : tools.Pairwise fun a b => a.name < b.name := hoctets.imp Utf8.encode_lt_encode.1
  refine ⟨tools, hload, ?_, hoctets, hnames, fun r => ?_, fun name t => mem_loaded_iff hread hrecords hkept,
    fun op e hrefused => refused hrefused, ?_, fun name => ?_,
    fun replacing hne records => replaceAll_iff_batch hne s records⟩
  · rw [hrecords, Table.keys, List.map_map]
    rfl
  · rw [Registry.replaceAll_ascending (fun t ht => (hkept t ht).1) hnames]
    refine ⟨rfl, ?_⟩
    rw [Registry.list, Table.values, List.map_map]
    exact List.map_id tools
  · rw [size, hrecords, List.length_map]
  · rw [exists_loaded_iff hinv hrecords]
    rfl

/-- a replacement that keeps a name that was there, with two tools of it, then a save that is refused and a removal -/
theorem load_last_writes_kept_name :
    let tool (name description : String) : Tool := { Tool.named name with description }
    let ops : List Op := [.save (tool "a" "1"), .save (tool "b" "1"),
      .replaceAll [tool "c" "1", tool "a" "2", tool "a" "3"], .save (tool "" "1"), .remove "c"]
    let s := run ops
    let last := tool "a" "4"
    ∃ tools, s.load = .ok tools ∧ tool "a" "3" ∈ tools ∧ (∀ t ∈ tools, t.name ≠ "b" ∧ t.name ≠ "c") ∧
      s.size = tools.length ∧ (s.remove "a").1 = true ∧
      ∀ key, Table.find? key [entry last] = (s.replacement [last]).leaves s.records key := by
  intro tool ops s last
  have hreread : ∀ name description, Tool.codec.read (record (tool name description)) = .ok (tool name description) := by
    intro name description
    have hstorable : (tool name description).Storable := Tool.storable_named name
    have hnull : (tool name description).NoNull := Tool.noNull_named name
    have hheld := (holds_entry hstorable hnull).1
    rwa [entry_snd] at hheld
  have hread : ∀ op ∈ ops, ∀ t ∈ op.tools, Tool.codec.read (record t) = .ok t := by
    simp only [ops, List.forall_mem_cons, List.not_mem_nil, Op.tools, hreread, IsEmpty.forall_iff, implies_true,
      and_self]
  obtain ⟨tools, hload, -, -, -, -, hmem, -, hsize, hremove, hbatch⟩ := load_last_writes ops hread
  have hlast : LastWrite ops "a" (tool "a" "3") := lastWrite_iff.2 rfl
  have hkept := (hmem "a" _).2 hlast
  have hgone : ∀ t ∈ tools, t.name ≠ "b" ∧ t.name ≠ "c" := by
    refine fun t ht => ⟨fun hname => ?_, fun hname => ?_⟩
    · cases lastWrite_iff.1 ((hmem "b" t).1 ⟨ht, hname⟩)
    · cases lastWrite_iff.1 ((hmem "c" t).1 ⟨ht, hname⟩)
  have hnamed : ∀ t ∈ [last], t.name ≠ "" := by
    rw [List.forall_mem_singleton]
    decide
  have hreplaced : s.replaceAll [last] = (.ok (), { records := [entry last] }) := by
    rw [replaceAll_named hnamed, List.map_cons, List.map_nil, Table.ofList_eq_self (List.pairwise_singleton _ _)]
  exact ⟨tools, hload, hkept.1, hgone, hsize, (hremove "a").2 ⟨_, hkept⟩, ((hbatch _ hnamed _).1 hreplaced).2⟩

end ToolGateway.Store
