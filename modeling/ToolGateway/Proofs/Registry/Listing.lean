import ToolGateway.Proofs.Registry.Judgement

/-!
The registry as a finite map, in which the last writer wins.

An operation has its say on some names (`Op.Leaves`): it leaves a tool there, or none. A registration has its say on the
name of the tool that was submitted, and leaves that tool there, with the hashes that it lacks if the registry is
secured; a removal has its say on one name, a replacement of all tools on every name, be they from a list, a store or
the catalog. A refused operation and a change of policy have none.

- `find?_tableOf`: of the tools of a list with one name the last counts.
- `step_leaves`, `step_keeps`: an operation leaves what it says, and where it has no say it changes nothing.
- `find?_run_eq_some`: so under a name stands what the last operation that had its say on it left there.
- `Inv.mem_list`, `Inv.replaceAll_list`: a listing shows what stands, and to put it in place of all changes nothing.
- `list_last_writes`: so a listing, and with it all other views of the registry, is known from the history alone.
-/

namespace ToolGateway.Registry

/-! ## Lists of tools -/

theorem tableOf_eq_foldl {tools : List Tool} (hne : ∀ t ∈ tools, t.name ≠ "") (table : Table String Tool) :
    tableOf table tools =
      .ok ((tools.map fun t => (t.name, t)).foldl (fun table pair => table.insert pair.1 pair.2) table) := by
  induction tools generalizing table with
  | nil => rfl
  | cons t tools ih =>
    have ht : t.name ≠ "" := hne t List.mem_cons_self
    rw [tableOf, if_neg (by simpa using ht), ih fun u hu => hne u (List.mem_cons_of_mem _ hu)]
    rfl

theorem tableOf_eq_map {tools : List Tool} (hne : ∀ t ∈ tools, t.name ≠ "")
    (hasc : tools.Pairwise fun a b => a.name < b.name) :
    tableOf [] tools = .ok (tools.map fun t => (t.name, t)) := by
  have hnames : Table.Ascending (tools.map fun t => (t.name, t)) := List.pairwise_map.2 hasc
  rw [tableOf_eq_foldl hne, ← Table.ofList, Table.ofList_eq_self hnames]

/-- a tool without a name, wherever it stands in a list, refuses the whole list -/
theorem tableOf_nameless {tools : List Tool} (h : ∃ t ∈ tools, t.name = "") (table : Table String Tool) :
    tableOf table tools = .error .emptyName := by
  induction tools generalizing table with
  | nil => simp at h
  | cons t tools ih =>
    rw [tableOf]
    split_ifs with hempty
    · rfl
    · refine ih ?_ _
      simpa [show t.name ≠ "" by simpa using hempty] using h

theorem replaceAll_nameless {tools : List Tool} (h : ∃ t ∈ tools, t.name = "") (r : Registry) :
    r.replaceAll tools = (.error .emptyName, r) := by
  rw [replaceAll, tableOf_nameless h]

/-- tools with names that ascend are put in place of all others as they are -/
theorem replaceAll_ascending {tools : List Tool} (hne : ∀ t ∈ tools, t.name ≠ "")
    (hasc : tools.Pairwise fun a b => a.name < b.name) (r : Registry) :
    r.replaceAll tools = (.ok (), { r with tools := tools.map fun t => (t.name, t) }) := by
  rw [replaceAll, tableOf_eq_map hne hasc]

/-- **Of the tools of a list with one name the last counts.** -/
theorem find?_tableOf {tools : List Tool} (hne : ∀ t ∈ tools, t.name ≠ "") (name : String) :
    ∃ table, tableOf [] tools = .ok table ∧ table.find? name = tools.reverse.find? (·.name = name) := by
  refine ⟨Table.ofList (tools.map fun t : Tool => (t.name, t)), tableOf_eq_foldl hne [], ?_⟩
  rw [Table.find?_ofList, ← List.map_reverse, List.find?_map, Option.map_map]
  exact Option.map_id'

/-! ## What an operation leaves -/

/-- what a list of tools leaves under a name when it replaces all others: the last tool of the name, or none; a list
with a nameless tool is refused and has no say -/
def listLeaves (name : String) (tools : List Tool) : Option (Option Tool) :=
  if tools.any (·.name.isEmpty) then none else some (tools.reverse.find? (·.name = name))

/-- an operation has its say on a name and leaves this there: a tool, or none. A registration leaves the tool that was
submitted, as it is or with the hashes that it lacks. -/
def Op.Leaves (isSecured : Bool) (name : String) : Op → Option Tool → Prop
  | .register t, left => t.name = name ∧ name ≠ "" ∧
    ∃ stored, left = some stored ∧ if isSecured then Tool.Filled t stored else stored = t
  | .replaceAll tools, left => listLeaves name tools = some left
  | .remove other, left => other = name ∧ left = none
  | .restore s, left => ∃ tools, s.load = .ok tools ∧ listLeaves name tools = some left
  | .sync exchange c, left => ∃ tools, Catalog.fetch exchange c = .ok tools ∧ listLeaves name tools = some left
  | .setPolicy _, _ => False

/-- an operation without a say on a name -/
def Op.Spares (isSecured : Bool) (name : String) (op : Op) : Prop :=
  ∀ left, ¬ op.Leaves isSecured name left

/-- the tool was left under the name by the last of some operations that had its say on it -/
def LastWrite (isSecured : Bool) (ops : List Op) (name : String) (t : Tool) : Prop :=
  ∃ before op after, ops = before ++ op :: after ∧ op.Leaves isSecured name (some t) ∧
    ∀ later ∈ after, later.Spares isSecured name

variable {r : Registry}

theorem replaceAll_find? (r : Registry) (tools : List Tool) (name : String) :
    (r.replaceAll tools).2.tools.find? name = (listLeaves name tools).getD (r.tools.find? name) := by
  by_cases hnameless : ∃ t ∈ tools, t.name = ""
  · have hany : tools.any (·.name.isEmpty) = true := by simpa using hnameless
    rw [replaceAll, tableOf_nameless hnameless, listLeaves, if_pos hany]
    rfl
  · have hany : ¬ tools.any (·.name.isEmpty) = true := by simpa using hnameless
    obtain ⟨table, htable, hfind⟩ := find?_tableOf (by simpa using hnameless) name
    rw [replaceAll, htable, listLeaves, if_neg hany]
    exact hfind

theorem listLeaves_of_refused {tools : List Tool} {e : RegistryFault} (h : (r.replaceAll tools).1 = .error e)
    (name : String) : listLeaves name tools = none := by
  by_cases hnameless : ∃ t ∈ tools, t.name = ""
  · exact if_pos (by simpa using hnameless)
  · obtain ⟨table, htable, -⟩ := find?_tableOf (by simpa using hnameless) name
    rw [replaceAll, htable] at h
    cases h

/-- a refused operation has no say on any name -/
theorem spares_of_refused {op : Op} {e : RegistryFault} (h : (r.perform op).1 = .error e) (name : String) :
    op.Spares r.isSecured name := by
  intro left hleaves
  cases op with
  | register t =>
    obtain ⟨rfl, hne, stored, -, hstored⟩ := hleaves
    have h : (r.register t).1 = .error e := h
    rw [register, prepare_eq_ok.2 ⟨hne, hstored⟩] at h
    cases h
  | replaceAll tools =>
    have hnone := listLeaves_of_refused h name
    rw [Op.Leaves, hnone] at hleaves
    cases hleaves
  | remove other => cases h
  | restore s =>
    obtain ⟨tools, hload, hleaves⟩ := hleaves
    rw [perform_restore hload] at h
    rw [listLeaves_of_refused h] at hleaves
    cases hleaves
  | sync exchange c =>
    obtain ⟨tools, hfetch, hleaves⟩ := hleaves
    rw [perform_sync hfetch] at h
    rw [listLeaves_of_refused h] at hleaves
    cases hleaves
  | setPolicy policy => exact hleaves

/-- **An operation leaves what it says.** -/
theorem step_leaves (h : r.Inv) {op : Op} {name : String} {left : Option Tool}
    (hleaves : op.Leaves r.isSecured name left) : (r.step op).tools.find? name = left := by
  cases op with
  | register t =>
    obtain ⟨rfl, hne, stored, rfl, hstored⟩ := hleaves
    have hprepare : r.prepare t = .ok stored := prepare_eq_ok.2 ⟨hne, hstored⟩
    rw [step, register, hprepare, ← name_of_prepare hprepare]
    exact Table.find?_insert_self _ _ _
  | replaceAll tools =>
    rw [step, replaceAll_find?, hleaves, Option.getD_some]
  | remove other =>
    obtain ⟨rfl, rfl⟩ := hleaves
    exact Table.find?_erase_self h.ascending.nodup _
  | restore s =>
    obtain ⟨tools, hload, hleaves⟩ := hleaves
    have hstep : r.step (.restore s) = (r.replaceAll tools).2 := congrArg Prod.snd (perform_restore hload)
    rw [hstep, replaceAll_find?, hleaves, Option.getD_some]
  | sync exchange c =>
    obtain ⟨tools, hfetch, hleaves⟩ := hleaves
    have hstep : r.step (.sync exchange c) = (r.replaceAll tools).2 := congrArg Prod.snd (perform_sync hfetch)
    rw [hstep, replaceAll_find?, hleaves, Option.getD_some]
  | setPolicy policy => exact hleaves.elim

/-- **Where it has no say it changes nothing.** -/
theorem step_keeps {op : Op} {name : String} (hspares : op.Spares r.isSecured name) :
    (r.step op).tools.find? name = r.tools.find? name := by
  have hlist : ∀ tools, (∀ left, listLeaves name tools ≠ some left) →
      (r.replaceAll tools).2.tools.find? name = r.tools.find? name := by
    intro tools hnone
    rw [replaceAll_find?, Option.eq_none_iff_forall_ne_some.2 hnone, Option.getD_none]
  cases op with
  | register t =>
    rw [step, register]
    cases hprepare : r.prepare t with
    | error e => rfl
    | ok stored =>
      obtain ⟨hne, hstored⟩ := prepare_eq_ok.1 hprepare
      have hname := name_of_prepare hprepare
      refine Table.find?_insert_of_ne _ _ fun heq => hspares (some stored) ?_
      have hsame : t.name = name := hname.symm.trans heq.symm
      exact ⟨hsame, hsame ▸ hne, stored, rfl, hstored⟩
  | replaceAll tools => exact hlist tools hspares
  | remove other => exact Table.find?_erase_of_ne _ fun heq => hspares none ⟨heq.symm, rfl⟩
  | restore s =>
    rcases restore_cases r s with ⟨e, -, heq⟩ | ⟨tools, hload, heq⟩
    · rw [step, heq]
    · rw [step, heq]
      exact hlist tools fun left hleaves => hspares left ⟨tools, hload, hleaves⟩
  | sync exchange c =>
    rcases sync_cases exchange c r with ⟨e, -, heq⟩ | ⟨tools, hfetch, heq⟩
    · rw [step, heq]
    · rw [step, heq]
      exact hlist tools fun left hleaves => hspares left ⟨tools, hfetch, hleaves⟩
  | setPolicy policy => rfl

/-- so after an operation a tool stands under a name if the operation left it there, or if it stood there and the
operation has no say -/
theorem step_find?_eq_some (h : r.Inv) {op : Op} {name : String} {t : Tool} :
    (r.step op).tools.find? name = some t ↔
      op.Leaves r.isSecured name (some t) ∨ op.Spares r.isSecured name ∧ r.tools.find? name = some t := by
  by_cases hspares : op.Spares r.isSecured name
  · rw [step_keeps hspares]
    exact ⟨fun hfind => .inr ⟨hspares, hfind⟩, fun hcase => hcase.elim (absurd · (hspares _)) (·.2)⟩
  · obtain ⟨left, hleft⟩ : ∃ left, op.Leaves r.isSecured name left := by simpa [Op.Spares] using hspares
    constructor
    · intro hfind
      rw [step_leaves h hleft] at hfind
      exact .inl (hfind ▸ hleft)
    · rintro (hleaves | ⟨hnone, -⟩)
      · exact step_leaves h hleaves
      · exact absurd hnone hspares

/-- the last write of a run is that of its last operation, if that has its say, and else the one before -/
theorem lastWrite_concat {isSecured : Bool} {ops : List Op} {op : Op} {name : String} {t : Tool} :
    LastWrite isSecured (ops ++ [op]) name t ↔
      op.Leaves isSecured name (some t) ∨ op.Spares isSecured name ∧ LastWrite isSecured ops name t := by
  constructor
  · rintro ⟨before, last, after, hops, hleaves, hspares⟩
    induction after using List.reverseRecOn with
    | nil =>
      obtain ⟨-, hlast⟩ := List.append_inj' hops rfl
      cases hlast
      exact .inl hleaves
    | append_singleton after op' ih =>
      rw [← List.cons_append, ← List.append_assoc] at hops
      obtain ⟨rfl, hlast⟩ := List.append_inj' hops rfl
      cases hlast
      refine .inr ⟨hspares op (by simp), before, last, after, rfl, hleaves, fun later hlater => ?_⟩
      exact hspares later (List.mem_append_left _ hlater)
  · rintro (hleaves | ⟨hop, before, last, after, rfl, hleaves, hspares⟩)
    · exact ⟨ops, op, [], rfl, hleaves, List.forall_mem_nil _⟩
    · refine ⟨before, last, after ++ [op], by simp, hleaves, fun later hlater => ?_⟩
      rcases List.mem_append.1 hlater with hlater | hlater
      · exact hspares later hlater
      · rwa [List.mem_singleton.1 hlater]

/-- **Under a name stands what the last operation with a say on it left there.** -/
theorem find?_run_eq_some {isSecured : Bool} {policy : Policy} {ops : List Op} {name : String} {t : Tool} :
    (run { isSecured, policy } ops).tools.find? name = some t ↔ LastWrite isSecured ops name t := by
  induction ops using List.reverseRecOn with
  | nil => exact iff_of_false nofun (by simp [LastWrite])
  | append_singleton ops op ih =>
    have hinv : (run { isSecured, policy } ops).Inv := run_inv (inv_empty isSecured policy) ops
    rw [run, List.foldl_append, List.foldl_cons, List.foldl_nil, ← run, lastWrite_concat, step_find?_eq_some hinv,
      run_isSecured, ih]

/-! ## Views of the map -/

theorem length_list (r : Registry) : r.list.tools.length = r.size := by
  simp [list, Table.values, size]

theorem Inv.list_nonempty (h : r.Inv) : ∀ t ∈ r.list.tools, t.name ≠ "" := by
  intro t ht
  obtain ⟨entry, hentry, rfl⟩ := List.mem_map.1 ht
  rw [h.named entry hentry]
  exact h.nonempty entry hentry

theorem Inv.list_ascending (h : r.Inv) : r.list.tools.Pairwise fun a b => a.name < b.name := by
  refine List.pairwise_map.2 (h.ascending.imp_of_mem fun ha hb hlt => ?_)
  rw [h.named _ ha, h.named _ hb]
  exact hlt

/-- a listing shows exactly what stands under the names -/
theorem Inv.mem_list (h : r.Inv) {name : String} {t : Tool} :
    t ∈ r.list.tools ∧ t.name = name ↔ r.tools.find? name = some t := by
  constructor
  · rintro ⟨ht, rfl⟩
    obtain ⟨entry, hentry, rfl⟩ := List.mem_map.1 ht
    refine Table.find?_of_mem h.ascending.nodup ?_
    rw [h.named entry hentry]
    exact hentry
  · intro hfind
    have hmem := Table.mem_of_find? hfind
    exact ⟨List.mem_map_of_mem hmem, h.named _ hmem⟩

/-- its tools are a table as they stand -/
theorem Inv.tableOf_list (h : r.Inv) : tableOf [] r.list.tools = .ok r.tools := by
  rw [tableOf_eq_map h.list_nonempty h.list_ascending, list, Table.values, List.map_map]
  refine congrArg Except.ok ((List.map_congr_left fun entry he => ?_).trans (List.map_id r.tools))
  exact Prod.ext (h.named entry he) rfl

theorem Inv.replaceAll_list (h : r.Inv) : r.replaceAll r.list.tools = (.ok (), r) := by
  rw [replaceAll, h.tableOf_list]

/-- a name is there if a tool of it is listed -/
theorem Inv.exists_mem_list (h : r.Inv) {name : String} :
    (∃ t ∈ r.list.tools, t.name = name) ↔ (r.tools.find? name).isSome = true := by
  rw [Option.isSome_iff_exists]
  exact exists_congr fun t => h.mem_list

/-- **A read says that there is no such tool exactly for the names that are not listed**, whatever the policy. -/
theorem Inv.get_notFound_iff (h : r.Inv) {name : String} :
    (∃ missing, r.get name = .error (.notFound missing)) ↔ ∀ t ∈ r.list.tools, t.name ≠ name := by
  have hlisted : _ ↔ (r.tools.find? name).isSome = true := h.exists_mem_list
  cases hfind : r.tools.find? name with
  | none =>
    rw [hfind] at hlisted
    have hget : r.get name = .error (.notFound name) := by rw [get, hfind]
    exact iff_of_true ⟨name, hget⟩ fun t ht hname => by simpa using hlisted.1 ⟨t, ht, hname⟩
  | some t =>
    obtain ⟨ht, hname⟩ := h.mem_list.2 hfind
    refine iff_of_false ?_ fun hnone => hnone t ht hname
    rintro ⟨missing, hget⟩
    rw [get, hfind] at hget
    exact judge_ne_notFound r name missing t hget

/-! ## Main result -/

/-- **The registry is a finite map in which the last writer wins.** At every moment of every run from an empty registry:

- a tool is listed exactly if it is what the last operation with a say on its name left there: a registration of the
  tool, which in a secured registry fills in the hashes that it lacks and changes nothing else, the last tool of the
  name in a replacement, or a removal, which leaves none; refused operations have no say;
- the listing ascends strictly by name, in the order of the UTF-8 octets, so it has one tool for each name;
- the other views agree with it: what is contained, how many there are, what a removal gives back, and which reads fail
  because there is no such tool;
- to put the listed tools in place of all that are there succeeds and leaves the registry as it was. -/
theorem list_last_writes (isSecured : Bool) (policy : Policy) (ops : List Op) :
    let r := run { isSecured, policy } ops
    (∀ name t, t ∈ r.list.tools ∧ t.name = name ↔ LastWrite isSecured ops name t) ∧
    (∀ op e, (r.perform op).1 = .error e → ∀ name, op.Spares isSecured name) ∧
    (r.list.tools.Pairwise fun a b => Utf8.encode a.name < Utf8.encode b.name) ∧
    (∀ name, r.contains name = true ↔ ∃ t ∈ r.list.tools, t.name = name) ∧
    r.size = r.list.tools.length ∧ (r.isEmpty = true ↔ r.list.tools = []) ∧
    (∀ name t, (r.remove name).1 = some t ↔ t ∈ r.list.tools ∧ t.name = name) ∧
    (∀ name, (∃ missing, r.get name = .error (.notFound missing)) ↔ ∀ t ∈ r.list.tools, t.name ≠ name) ∧
    r.replaceAll r.list.tools = (.ok (), r) := by
  intro r
  have hinv : r.Inv := run_inv (inv_empty isSecured policy) ops
  have hsecured : r.isSecured = isSecured := run_isSecured _ ops
  refine ⟨fun name t => ?_, fun op e hrefused name => ?_, ?_, fun name => ?_, ?_, ?_, fun name t => ?_,
    fun name => hinv.get_notFound_iff, hinv.replaceAll_list⟩
  · rw [hinv.mem_list, find?_run_eq_some]
  · rw [← hsecured]
    exact spares_of_refused hrefused name
  · exact hinv.list_ascending.imp fun hlt => Utf8.encode_lt_encode.2 hlt
  · rw [hinv.exists_mem_list]
    rfl
  · exact (length_list r).symm
  · simp [isEmpty, list, Table.values]
  · rw [hinv.mem_list]
    rfl

/-- a tool of a repeated name in a replacement, another with content that is registered without hashes, a removal, and
two operations that are refused -/
theorem list_last_writes_replaced :
    let last : Tool := { name := "a", description := "2" }
    let submitted : Tool := { name := "b", description := "d", inputSchema := some .null, outputSchema := some .null }
    let ops : List Op := [.replaceAll [{ name := "c" }, { name := "a" }, last], .register submitted, .register {},
      .remove "c", .replaceAll [{ name := "d" }, {}]]
    let stored := { submitted with stamp := { checksum := submitted.checksum, signature := Json.null.hexDigest } }
    (run (secured {}) ops).list.tools = [last, stored] ∧ LastWrite true ops "a" last ∧
      LastWrite true ops "b" stored := by
  intro last submitted ops stored
  have hregister : ∀ tools, (Registry.mk tools true {}).register submitted =
      (.ok (), ⟨tools.insert "b" stored, true, {}⟩) := fun tools => register_unstamped rfl (by decide) rfl rfl rfl
  have hnameless : ∀ r : Registry, r.register {} = (.error .emptyName, r) := fun _ => rfl
  have hlist : (run (secured {}) ops).list.tools = [last, stored] := by
    simp only [run, List.foldl_cons, List.foldl_nil, step, ops, secured, replaceAll, tableOf, String.isEmpty_iff,
      String.reduceEq, ↓reduceIte, Table.insert, String.reduceLT, String.lt_irrefl, hregister, hnameless, remove,
      Table.erase, list, Table.values, List.map_cons, List.map_nil, last]
  obtain ⟨hwrites, -⟩ := list_last_writes true {} ops
  refine ⟨hlist, (hwrites "a" last).1 ⟨?_, rfl⟩, (hwrites "b" stored).1 ⟨?_, rfl⟩⟩
  · change last ∈ (run (secured {}) ops).list.tools
    rw [hlist]
    exact List.mem_cons_self
  · change stored ∈ (run (secured {}) ops).list.tools
    rw [hlist]
    exact List.mem_cons_of_mem _ (List.mem_singleton_self stored)

end ToolGateway.Registry
