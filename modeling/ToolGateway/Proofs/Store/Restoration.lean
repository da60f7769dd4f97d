import ToolGateway.Proofs.Store.Snapshot

/-!
Restoring from any store: all of it, as it is, or nothing.

A store is any finite map from octet strings to octet strings; its records may be edited, broken or under the wrong key.
A record is sound if it can be read as a tool that names the key which it stands under (`Holds`), and otherwise there is
one thing wrong with it (`Offends`).

- `load_eq_ok`, `load_eq_error`: all records are sound and their tools are given in the order of the keys, or the first
  record that is not sound decides what is reported.
- `restore_of_holds`: tools are put into the registry as they are; one under the empty key refuses them all.
- `restore_exact_or_refused`: both together.
-/

namespace ToolGateway

namespace Store

/-! ## Records -/

/-- the record can be read as this tool, which names the key of the record -/
def Holds (entry : Bytes × Bytes) (t : Tool) : Prop :=
  Tool.codec.read entry.2 = .ok t ∧ Utf8.encode t.name = entry.1

/-- what is wrong with a record, as it is reported -/
inductive Offends (entry : Bytes × Bytes) : RegistryFault → Prop where
  | unreadable {e : ReadError} (h : Tool.codec.read entry.2 = .error e) : Offends entry (.unreadable e)
  | mislabelled {t : Tool} (h : Tool.codec.read entry.2 = .ok t) (hname : Utf8.encode t.name ≠ entry.1) :
      Offends entry (.invalidDefinition
        ("snapshot key '" ++ Utf8.decodeLossy entry.1 ++ "' holds tool '" ++ t.name ++ "'"))

theorem readRecord_eq_ok {entry : Bytes × Bytes} {t : Tool} :
    readRecord entry.1 entry.2 = .ok t ↔ Holds entry t := by
  rw [readRecord, Holds]
  cases hread : Tool.codec.read entry.2 with
  | error e => exact iff_of_false (fun h => by cases h) (by simp)
  | ok u =>
    constructor
    · intro h
      simp only at h
      split_ifs at h with hkey
      cases h
      exact ⟨rfl, hkey⟩
    · rintro ⟨⟨⟩, hkey⟩
      exact if_pos hkey

theorem readRecord_eq_error {entry : Bytes × Bytes} {e : RegistryFault} :
    readRecord entry.1 entry.2 = .error e ↔ Offends entry e := by
  constructor
  · intro h
    rw [readRecord] at h
    cases hread : Tool.codec.read entry.2 with
    | error cause =>
      rw [hread] at h
      cases h
      exact .unreadable hread
    | ok t =>
      rw [hread] at h
      simp only at h
      split_ifs at h with hkey
      cases h
      exact .mislabelled hread hkey
  · rintro (⟨hread⟩ | ⟨hread, hkey⟩)
    · rw [readRecord, hread]
    · rw [readRecord, hread]
      exact if_neg hkey

/-- the record that is written of a tool holds it -/
theorem holds_entry {t : Tool} (h : t.Storable) (hnull : t.NoNull) : Holds (entry t) t := by
  refine readRecord_eq_ok.1 ?_
  rw [entry, readRecord_record h, Tool.settled_eq_self.2 hnull]

theorem readRecords_eq_mapM (records : Table Bytes Bytes) :
    readRecords records = records.mapM fun entry => readRecord entry.1 entry.2 := by
  induction records with
  | nil => rfl
  | cons entry records ih =>
    rw [List.mapM_cons, ← ih]
    rfl

variable {s : Store} {tools : List Tool}

/-! ## Loading -/

/-- **Loading gives the tools of the records, in the order of the keys**, if every record is sound. -/
theorem load_eq_ok : s.load = .ok tools ↔ List.Forall₂ Holds s.records tools := by
  rw [load, readRecords_eq_mapM, mapM_eq_ok]
  simp only [readRecord_eq_ok]

theorem exists_load_eq_ok : (∃ tools, s.load = .ok tools) ↔ ∀ entry ∈ s.records, ∃ t, Holds entry t := by
  rw [load, readRecords_eq_mapM, exists_mapM_eq_ok]
  simp only [readRecord_eq_ok]

/-- the fault is that of the first record that is not sound -/
def FirstOffence (records : Table Bytes Bytes) (e : RegistryFault) : Prop :=
  ∃ before entry after, records = before ++ entry :: after ∧ (∀ sound ∈ before, ∃ t, Holds sound t) ∧ Offends entry e

/-- **Loading is refused for the first record that is not sound.** -/
theorem load_eq_error {e : RegistryFault} : s.load = .error e ↔ FirstOffence s.records e := by
  rw [load, readRecords_eq_mapM, mapM_eq_error]
  simp only [readRecord_eq_ok, readRecord_eq_error, FirstOffence]

theorem map_key_of_holds {records : Table Bytes Bytes} (h : List.Forall₂ Holds records tools) :
    records.map (·.1) = tools.map fun t => Utf8.encode t.name := by
  induction h with
  | nil => rfl
  | cons hfirst _ ih => rw [List.map_cons, List.map_cons, hfirst.2, ih]

/-- the order of the keys is the order of the names -/
theorem ascending_of_holds (hasc : Table.Ascending s.records) (h : List.Forall₂ Holds s.records tools) :
    tools.Pairwise fun a b => a.name < b.name := by
  have hkeys : (tools.map fun t => Utf8.encode t.name).Pairwise (· < ·) := by
    rw [← map_key_of_holds h]
    exact List.pairwise_map.2 hasc
  exact (List.pairwise_map.1 hkeys).imp Utf8.encode_lt_encode.1

/-- only a tool without a name stands under the empty key -/
theorem nameless_of_holds (h : List.Forall₂ Holds s.records tools) :
    (∃ t ∈ tools, t.name = "") ↔ ∃ entry ∈ s.records, entry.1 = [] := by
  have hempty : ∀ name : String, Utf8.encode name = [] ↔ name = "" := fun name =>
    ⟨fun heq => Utf8.encode_injective heq, fun heq => heq ▸ rfl⟩
  have hkeys : (∃ key ∈ s.records.map (·.1), key = []) ↔ ∃ key ∈ tools.map fun t => Utf8.encode t.name, key = [] := by
    rw [map_key_of_holds h]
  simpa [hempty] using hkeys.symm

end Store

namespace Registry

variable {r : Registry} {s : Store} {tools : List Tool}

/-! ## Restoring -/

/-- **What is loaded is put in place of all others as it is**, unless a record stands under the empty key. -/
theorem restore_of_holds (hasc : Table.Ascending s.records) (h : List.Forall₂ Store.Holds s.records tools)
    (r : Registry) : r.restore s = if ∃ entry ∈ s.records, entry.1 = [] then (.error .emptyName, r)
      else (.ok tools.length, { r with tools := tools.map fun t => (t.name, t) }) := by
  rw [restore, Store.load_eq_ok.2 h]
  simp only
  split_ifs with hempty
  · rw [replaceAll_nameless ((Store.nameless_of_holds h).2 hempty)]
  · have hne : ∀ t ∈ tools, t.name ≠ "" := fun t ht hname => hempty ((Store.nameless_of_holds h).1 ⟨t, ht, hname⟩)
    rw [replaceAll_ascending hne (Store.ascending_of_holds hasc h)]

theorem restore_of_error {e : RegistryFault} (h : s.load = .error e) (r : Registry) : r.restore s = (.error e, r) := by
  rw [restore, h]

/-! ## Main result -/

/-- **Restoring from an arbitrary store is exact or refused.** Whatever octets a store holds under whatever keys, and
whatever the registry held before:

- loading succeeds exactly if each record can be read as a tool that names its key, and gives these tools in the order
  of the keys;
- otherwise its fault is that of the first record, in the order of the keys, that is not such;
- restoring succeeds exactly if loading does and no record stands under the empty key, and its count is that of the
  tools;
- the registry then holds these tools, hashes and all, and nothing else;
- a refused restoration leaves the registry as it was. -/
theorem restore_exact_or_refused (s : Store) (hasc : Table.Ascending s.records) (r : Registry) :
    ((∃ tools, s.load = .ok tools) ↔ ∀ entry ∈ s.records, ∃ t, Store.Holds entry t) ∧
    (∀ tools, s.load = .ok tools ↔ List.Forall₂ Store.Holds s.records tools) ∧
    (∀ e, s.load = .error e ↔ Store.FirstOffence s.records e) ∧
    (∀ k, (r.restore s).1 = .ok k ↔
      (∃ tools, s.load = .ok tools ∧ tools.length = k) ∧ ∀ entry ∈ s.records, entry.1 ≠ []) ∧
    (∀ k, (r.restore s).1 = .ok k → ∃ tools, List.Forall₂ Store.Holds s.records tools ∧
      (r.restore s).2 = { r with tools := tools.map fun t => (t.name, t) } ∧
      (r.restore s).2.list.tools = tools ∧ (r.restore s).2.size = k) ∧
    ∀ e, (r.restore s).1 = .error e → (r.restore s).2 = r ∧
      (s.load = .error e ∨ e = .emptyName ∧ ∃ entry ∈ s.records, entry.1 = []) := by
  refine ⟨Store.exists_load_eq_ok, fun tools => Store.load_eq_ok, fun e => Store.load_eq_error, ?_⟩
  cases hload : s.load with
  | error e =>
    rw [restore_of_error hload r]
    refine ⟨fun k => iff_of_false nofun ?_, nofun, fun e' h => ?_⟩
    · rintro ⟨⟨tools, htools, -⟩, -⟩
      cases htools
    · cases h
      exact ⟨rfl, .inl rfl⟩
  | ok tools =>
    have hholds := Store.load_eq_ok.1 hload
    have hrestore := restore_of_holds hasc hholds r
    by_cases hempty : ∃ entry ∈ s.records, entry.1 = []
    · rw [if_pos hempty] at hrestore
      rw [hrestore]
      refine ⟨fun k => iff_of_false nofun ?_, nofun, fun e h => ?_⟩
      · rintro ⟨-, hkeys⟩
        obtain ⟨entry, hentry, hkey⟩ := hempty
        exact hkeys entry hentry hkey
      · cases h
        exact ⟨rfl, .inr ⟨rfl, hempty⟩⟩
    · rw [if_neg hempty] at hrestore
      rw [hrestore]
      refine ⟨fun k => ?_, fun k h => ⟨tools, hholds, rfl, ?_, ?_⟩, nofun⟩
      · constructor
        · intro h
          cases h
          exact ⟨⟨tools, rfl, rfl⟩, fun entry hentry hkey => hempty ⟨entry, hentry, hkey⟩⟩
        · rintro ⟨⟨_, ⟨⟩, rfl⟩, -⟩
          rfl
      · simp [list, Table.values, Function.comp_def]
      · cases h
        simp [size]

/-- of a sound record, one under the wrong key and a broken one, the second is reported; the first alone is restored
with the forged checksum that it brings along -/
theorem restore_exact_or_refused_mislabelled :
    let r : Registry := { isSecured := true, tools := [("old", .named "old")] }
    let t : Tool := { Tool.named "a" with stamp := { checksum := "00" } }
    let s : Store := ⟨[Store.entry t, (Utf8.encode "b", Utf8.encode "[\"c\"]"), (Utf8.encode "c", Utf8.encode "[")]⟩
    let sound : Store := ⟨[Store.entry t]⟩
    Table.Ascending s.records ∧ s.load = .error (.invalidDefinition "snapshot key 'b' holds tool 'c'") ∧
      (∃ e, (r.restore s).1 = .error e) ∧ (r.restore s).2 = r ∧
      (r.restore sound).1 = .ok 1 ∧ (r.restore sound).2.list.tools = [t] := by
  intro r t s sound
  have hsound : Store.Holds (Store.entry t) t :=
    Store.holds_entry ((Tool.storable_named "a").stamped "00" "") ((Tool.noNull_named "a").stamped "00" "")
  have hread : Tool.codec.read (Utf8.encode "[\"c\"]") = .ok { name := "c" } := by rfl
  have hoffends : Store.Offends (Utf8.encode "b", Utf8.encode "[\"c\"]")
      (.invalidDefinition "snapshot key 'b' holds tool 'c'") := by
    have h : Store.Offends (Utf8.encode "b", Utf8.encode "[\"c\"]") _ := .mislabelled hread (by decide)
    rwa [Utf8.decodeLossy_encode] at h
  have hkeys : (s.records.map (·.1)).Pairwise (· < ·) := by decide
  have hasc : Table.Ascending s.records := List.pairwise_map.1 hkeys
  obtain ⟨-, -, hfault, -⟩ := restore_exact_or_refused s hasc r
  have hload := (hfault _).2 ⟨[Store.entry t], _, _, rfl, by simpa using ⟨t, hsound⟩, hoffends⟩
  have hrestore := restore_of_error hload r
  obtain ⟨-, hgiven, -, hcount, hrestored, -⟩ :=
    restore_exact_or_refused sound (List.pairwise_singleton _ _) r
  have htools := (hgiven [t]).2 (.cons hsound .nil)
  have hkeyed : (Store.entry t).1 ≠ [] := by decide
  have hone : (r.restore sound).1 = .ok 1 := (hcount 1).2 ⟨⟨[t], htools, rfl⟩, by simpa [sound] using hkeyed⟩
  obtain ⟨tools, hholds, -, hlist, -⟩ := hrestored 1 hone
  have hsame : tools = [t] := Except.ok.inj (((hgiven tools).2 hholds).symm.trans htools)
  exact ⟨hasc, hload, ⟨_, congrArg Prod.fst hrestore⟩, congrArg Prod.snd hrestore, hone, hsame ▸ hlist⟩

end Registry

end ToolGateway
