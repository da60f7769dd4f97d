import ToolGateway.Proofs.Registry.Listing
import ToolGateway.Proofs.Tool.Document

/-!
Snapshots: what readers see of a registry that is written into a store and restored from it.

A snapshot puts the record of every tool under the octets of its name, in place of whatever the store held, and
restoring reads the records back. Both succeed for every registry that a run can reach, as long as a text can stand for
every value that its tools hold.

- `restore_snapshot`: each tool is restored as `Tool.settled` leaves it. Stamps are kept; an optional value that is
  `null` is lost, since its record says `null` and is read as if nothing were there.
- `get_restored_null`: so a tool whose input schema is `null` is given while hashes are validated, and refused once it
  is restored.
- `restore_snapshot_looksLike_iff`: readers see no difference exactly if no tool holds such a value.
-/

namespace ToolGateway

/-! ## Records -/

namespace Store

/-- the record of a tool under its key -/
def entry (t : Tool) : Bytes × Bytes :=
  (key t.name, record t)

@[simp] theorem entry_fst (t : Tool) : (entry t).1 = key t.name := by
  simp only [entry]

@[simp] theorem entry_snd (t : Tool) : (entry t).2 = record t := by
  simp only [entry]

theorem recordsOf_eq_foldl {tools : List Tool} (hne : ∀ t ∈ tools, t.name ≠ "") (table : Table Bytes Bytes) :
    recordsOf table tools =
      .ok ((tools.map entry).foldl (fun table pair => table.insert pair.1 pair.2) table) := by
  induction tools generalizing table with
  | nil => rfl
  | cons t tools ih =>
    have ht : t.name ≠ "" := hne t List.mem_cons_self
    rw [recordsOf, if_neg (by simpa using ht), ih fun u hu => hne u (List.mem_cons_of_mem _ hu), List.map_cons,
      List.foldl_cons, entry]

/-- the order of names is the order of keys -/
theorem recordsOf_eq_map {tools : List Tool} (hne : ∀ t ∈ tools, t.name ≠ "")
    (hasc : tools.Pairwise fun a b => a.name < b.name) : recordsOf [] tools = .ok (tools.map entry) := by
  have hkeys : Table.Ascending (tools.map entry) :=
    List.pairwise_map.2 (hasc.imp fun hlt => Utf8.encode_lt_encode.2 hlt)
  rw [recordsOf_eq_foldl hne, ← Table.ofList, Table.ofList_eq_self hkeys]

/-- a record is read back as its tool, optional values settled -/
theorem readRecord_record {t : Tool} (h : t.Storable) : readRecord (key t.name) (record t) = .ok t.settled := by
  rw [readRecord, record, Codec.read_write (Tool.readsBack h)]
  exact if_pos rfl

theorem readRecords_map {tools : List Tool} (h : ∀ t ∈ tools, t.Storable) :
    readRecords (tools.map entry) = .ok (tools.map Tool.settled) := by
  induction tools with
  | nil => rfl
  | cons t tools ih =>
    have ht : t.Storable := h t List.mem_cons_self
    have hrest := ih fun u hu => h u (List.mem_cons_of_mem _ hu)
    rw [List.map_cons, entry, readRecords, readRecord_record ht, hrest]
    rfl

end Store

namespace Registry

/-! ## Restoring -/

/-- the registry with every tool settled -/
def settled (r : Registry) : Registry :=
  { r with tools := r.tools.map fun entry => (entry.1, entry.2.settled) }

theorem list_settled (r : Registry) : r.settled.list.tools = r.list.tools.map Tool.settled := by
  simp [settled, list, Table.values]

/-- tools are taken from a list as they stand in it, but under their names -/
theorem Inv.tableOf_settled {r : Registry} (h : r.Inv) :
    tableOf [] (r.list.tools.map Tool.settled) = .ok r.settled.tools := by
  have hne : ∀ t ∈ r.list.tools.map Tool.settled, t.name ≠ "" := by
    intro t ht
    obtain ⟨u, hu, rfl⟩ := List.mem_map.1 ht
    exact h.list_nonempty u hu
  rw [tableOf_eq_map hne (List.pairwise_map.2 h.list_ascending), settled, list, Table.values]
  simp only [List.map_map, Except.ok.injEq]
  refine List.map_congr_left fun entry he => ?_
  exact Prod.ext (h.named entry he) rfl

/-- a snapshot puts the records of all tools in place of whatever the store held -/
theorem snapshot_eq {r : Registry} (h : r.Inv) (s : Store) :
    r.snapshot s = (.ok r.size, { s with records := r.list.tools.map Store.entry }) := by
  rw [snapshot, Store.replaceAll, Store.recordsOf_eq_map h.list_nonempty h.list_ascending, ← length_list]

/-- **A snapshot is restored as the registry with every tool settled**, whatever the store and the other registry held
before. -/
theorem restore_snapshot {r other : Registry} (h : r.Inv) (hstorable : ∀ t ∈ r.list.tools, t.Storable) (s : Store)
    (hs : other.isSecured = r.isSecured) (hp : other.policy = r.policy) :
    (r.snapshot s).1 = .ok r.size ∧ other.restore (r.snapshot s).2 = (.ok r.size, r.settled) := by
  rw [snapshot_eq h]
  refine ⟨rfl, ?_⟩
  rw [restore, Store.load, Store.readRecords_map hstorable]
  simp only [replaceAll, h.tableOf_settled, List.length_map, length_list, Prod.mk.injEq, true_and]
  rw [settled, ← hs, ← hp]

/-- a registry without a `null` is settled -/
theorem settled_eq_self {r : Registry} (h : ∀ t ∈ r.list.tools, t.NoNull) : r.settled = r := by
  have htools : (r.tools.map fun entry => (entry.1, entry.2.settled)) = r.tools.map id := by
    refine List.map_congr_left fun entry he => ?_
    exact Prod.ext rfl (Tool.settled_eq_self.2 (h entry.2 (List.mem_map_of_mem he)))
  rw [settled, htools, List.map_id]

/-! ## Readers -/

/-- readers cannot tell the registries apart: both list the same, and by each name both give the same tool or refuse it
for the same reason -/
structure LooksLike (r other : Registry) : Prop where
  list : r.list = other.list
  get : ∀ name, r.get name = other.get name

/-- a listing shows every stored tool, so one that is not settled is noticed there -/
theorem settled_looksLike_iff (r : Registry) : r.settled.LooksLike r ↔ ∀ t ∈ r.list.tools, t.NoNull := by
  constructor
  · intro h t ht
    have hmap : r.list.tools.map Tool.settled = r.list.tools.map id := by
      rw [← list_settled, h.list, List.map_id]
    exact Tool.settled_eq_self.1 (List.map_inj_left.1 hmap t ht)
  · intro h
    rw [settled_eq_self h]
    exact ⟨rfl, fun _ => rfl⟩

/-- **A tool with the input schema `null` is given before the snapshot and refused after it**, if hashes are validated:
it comes back without a schema, so that there is nothing to take its fingerprint of. -/
theorem get_restored_null {r other : Registry} (h : r.Inv) (hstorable : ∀ t ∈ r.list.tools, t.Storable) (s : Store)
    (hs : other.isSecured = r.isSecured) (hp : other.policy = r.policy) (hsecured : r.isSecured = true)
    {name : String} {t : Tool} (hread : r.Reads name t) (hnull : t.inputSchema = some .null) :
    (other.restore (r.snapshot s).2).2.get name = .error (.missingSchema name) := by
  obtain ⟨hv, hget⟩ := hread
  rw [(restore_snapshot h hstorable s hs hp).2]
  unfold get at hget
  cases hfind : r.tools.find? name with
  | none =>
    rw [hfind] at hget
    cases hget
  | some stored =>
    rw [hfind] at hget
    obtain ⟨rfl, hchecksum, -⟩ := judge_verified hsecured hv hget
    have hname : t.settled.name = name := h.named _ (Table.mem_of_find? hfind)
    have hsettled : t.settled.checksum = t.settled.stamp.checksum := (Tool.checksum_settled t).trans hchecksum.symm
    have hmissing : t.settled.fingerprint = .error (.missingSchema name) := by
      rw [Tool.fingerprint_settled_of_null hnull, h.named _ (Table.mem_of_find? hfind)]
    have hrestored : r.settled.tools.find? name = some t.settled := by
      rw [settled, Table.find?_map, hfind]
      rfl
    rw [get, hrestored]
    simp only [judge, settled, hsecured, hv, if_true, Tool.checkChecksum, if_pos hsettled, Tool.checkSignature,
      hmissing, bind, Except.bind]

/-! ## Main result -/

/-- **A snapshot is restored in full, and readers see no difference exactly if no tool holds a `null`.** Whatever
operations have led to a registry, whatever the store held, and whatever another registry with the same security held:
writing succeeds, restoring succeeds with the same count, and each tool comes back with its optional values settled. The
restored registry then looks like the first one if and only if none of its tools has `null` for its arguments or for one
of its schemas. -/
theorem restore_snapshot_looksLike_iff (isSecured : Bool) (policy : Policy) (ops : List Op) (s : Store)
    (other : Registry) :
    let r := run { isSecured, policy } ops
    let restored := other.restore (r.snapshot s).2
    (∀ t ∈ r.list.tools, t.Storable) → other.isSecured = r.isSecured → other.policy = r.policy →
      (r.snapshot s).1 = .ok r.size ∧ restored.1 = .ok r.size ∧
        restored.2.list.tools = r.list.tools.map Tool.settled ∧
        (restored.2.LooksLike r ↔ ∀ t ∈ r.list.tools, t.NoNull) := by
  intro r restored hstorable hs hp
  obtain ⟨hsnapshot, hrestore⟩ := restore_snapshot (run_inv (inv_empty isSecured policy) ops) hstorable s hs hp
  have hrestored : restored = (.ok r.size, r.settled) := hrestore
  rw [hrestored]
  exact ⟨hsnapshot, rfl, list_settled r, settled_looksLike_iff r⟩

/-- a new tool, stamped when it is registered, is restored over another one, from a store that held something else -/
theorem restore_snapshot_echo :
    let r := run (secured { validatesChecksums := true }) [.register (.named "echo")]
    let other : Registry := { secured { validatesChecksums := true } with tools := [("old", .named "old")] }
    let restored := other.restore (r.snapshot { records := [([0], [0])] }).2
    (∀ t ∈ r.list.tools, t.Storable ∧ t.NoNull) ∧ (r.snapshot { records := [([0], [0])] }).1 = .ok 1 ∧
      restored.1 = .ok 1 ∧ restored.2.LooksLike r := by
  intro r other restored
  have hr : r = { secured { validatesChecksums := true } with
      tools := [("echo", ((Tool.named "echo").withChecksum (Tool.named "echo").checksum).withSignature
        Tool.defaultSchema.hexDigest)] } := by
    simp only [r, run, List.foldl_cons, List.foldl_nil, step]
    rw [register_unstamped rfl (by decide) rfl rfl rfl]
    rfl
  have hsize : r.size = 1 := by rw [hr]; rfl
  have htools : ∀ t ∈ r.list.tools, t.Storable ∧ t.NoNull := by
    intro t ht
    rw [hr] at ht
    obtain rfl := List.mem_singleton.1 ht
    exact ⟨(Tool.storable_named "echo").stamped _ _, (Tool.noNull_named "echo").stamped _ _⟩
  obtain ⟨hsnapshot, hrestore, -, hlooks⟩ := restore_snapshot_looksLike_iff true { validatesChecksums := true }
    [.register (.named "echo")] { records := [([0], [0])] } other (fun t ht => (htools t ht).1)
    (congrArg Registry.isSecured hr).symm (congrArg Registry.policy hr).symm
  refine ⟨htools, ?_, ?_, hlooks.2 fun t ht => (htools t ht).2⟩
  · rw [← hsize]
    exact hsnapshot
  · rw [← hsize]
    exact hrestore

/-- a tool with the input schema `null` is given before the snapshot and refused after it -/
theorem restore_snapshot_null_schema :
    let r := run (secured { validatesChecksums := true }) [.register { name := "t", inputSchema := some .null }]
    let restored := ((secured { validatesChecksums := true }).restore (r.snapshot {}).2).2
    (∃ t, r.get "t" = .ok t) ∧ restored.get "t" = .error (.missingSchema "t") ∧ ¬ restored.LooksLike r := by
  intro r restored
  let t : Tool := { name := "t", inputSchema := some .null }
  let given := (t.withChecksum t.checksum).withSignature Json.null.hexDigest
  have hr : r = { secured { validatesChecksums := true } with tools := [("t", given)] } := by
    simp only [r, run, List.foldl_cons, List.foldl_nil, step]
    rw [register_unstamped rfl (by decide) rfl rfl rfl]
    rfl
  have hget : r.get "t" = .ok given := by
    rw [hr]
    have hchecksum : given.checksum = t.checksum := by simp [given]
    exact judge_of_hashes _ "t" hchecksum.symm (Tool.fingerprint_of_schema rfl)
  have hinv : r.Inv := run_inv (inv_empty true _) _
  have ht : t.Storable := by
    intro j hj
    have hcases : j = .null ∨ j = .object [] := by simpa [t, Tool.values] using hj
    rcases hcases with rfl | rfl
    · exact ⟨by simp [Json.Readable, Json.Everywhere], by simp [Json.DoublesReread, Json.Everywhere], by decide⟩
    · exact ⟨by simp [Json.readable_object, Table.Ascending], by simp [Json.doublesReread_object], by decide⟩
  have hstorable : ∀ u ∈ r.list.tools, u.Storable := by
    intro u hu
    rw [hr] at hu
    obtain rfl := List.mem_singleton.1 hu
    exact ht.stamped _ _
  have hsecured : r.isSecured = true := run_isSecured _ _
  have hpolicy : r.policy = { validatesChecksums := true } := congrArg Registry.policy hr
  have hrefused : restored.get "t" = .error (.missingSchema "t") :=
    get_restored_null hinv hstorable {} hsecured.symm hpolicy.symm hsecured ⟨by rw [hpolicy], hget⟩ rfl
  refine ⟨⟨given, hget⟩, hrefused, fun hlooks => ?_⟩
  rw [hlooks.get "t", hget] at hrefused
  cases hrefused

end Registry

end ToolGateway
