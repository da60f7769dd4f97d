import ToolGateway.Gateway
import ToolGateway.Proofs.Store.Snapshot

/-!
Runs of a gateway, and which tools get past its registration policy.

Four operations change a gateway, all through `step`, in any order: `register` with any tool, `sync` with any answer of
the catalog, `loadSnapshot` from any store, and `setPolicy`. Reads give an answer and change nothing. The first one
screens a tool before the registry sees it (`Configuration.Admits`); the next two put tools in place of all others as
they come.

- `step_gated`, `run_gated`: every stored tool has passed the screen, or it came in when the registry was last replaced
  as a whole (`imported`).
- `find_imported`: such a replacement looks at hashes only. A snapshot with one tool that has the hashes of its content
  makes the gateway give that tool out, at any moment, whatever its description and its source.
- `find_admitted_iff_imported`: so the policy gates all that a run gives out exactly if it would have let in those of
  the imported tools that are given out.
-/

namespace ToolGateway

/-- the policy lets the tool in: it says where it comes from and its description hides nothing, as far as the
configuration asks for that -/
structure Configuration.Admits (c : Configuration) (t : Tool) : Prop where
  sourced : c.registry.requiresProvenance = true → t.stamp.source ≠ ""
  clean : c.validation.scansDescriptions = true → HiddenText.screen t.description = .ok ()

/-- hashes do not count -/
theorem Configuration.Admits.stamped {c : Configuration} {t : Tool} (h : c.Admits t) (checksum signature : String) :
    c.Admits ((t.withChecksum checksum).withSignature signature) :=
  ⟨h.sourced, h.clean⟩

namespace Gateway

/-! ## Runs -/

/-- what changes a gateway -/
inductive Op where
  | register (t : Tool)
  | sync (exchange : Catalog.Exchange)
  | loadSnapshot (s : Store)
  | setPolicy (policy : Policy)

/-- the gateway after an operation, be it refused or not -/
def step (g : Gateway) : Op → Gateway
  | .register t => (g.register t).2
  | .sync exchange => (g.sync exchange).2
  | .loadSnapshot s => (g.loadSnapshot s).2
  | .setPolicy policy => g.setPolicy policy

/-- the gateway after some operations -/
def run (g : Gateway) (ops : List Op) : Gateway :=
  ops.foldl step g

theorem run_snoc (g : Gateway) (ops : List Op) (op : Op) : g.run (ops ++ [op]) = (g.run ops).step op := by
  simp [run, List.foldl_append]

/-- whether an operation puts other tools in place of all that are there -/
def imports (g : Gateway) : Op → Bool
  | .sync exchange => (g.sync exchange).1.isOk
  | .loadSnapshot s => (g.loadSnapshot s).1.isOk
  | _ => false

/-- the tools in the registry when it was last replaced as a whole, or `tools` if it never was -/
def importedAfter (tools : List Tool) (g : Gateway) : List Op → List Tool
  | [] => tools
  | op :: ops => importedAfter (if g.imports op then (g.step op).list.tools else tools) (g.step op) ops

/-- the tools that came in without registration: with the last import, or with the registry that the gateway was made
around -/
def imported (g : Gateway) (ops : List Op) : List Tool :=
  importedAfter g.list.tools g ops

/-! ## What an operation can do -/

/-- the screen lets through what the configuration admits -/
theorem screen_eq_ok {g : Gateway} {t : Tool} : g.screen t = .ok () ↔ g.configuration.Admits t := by
  unfold screen
  by_cases hsource : (g.configuration.registry.requiresProvenance && t.stamp.source.isEmpty) = true
  · rw [if_pos hsource]
    simp only [Bool.and_eq_true, String.isEmpty_iff] at hsource
    exact ⟨nofun, fun h => absurd hsource.2 (h.sourced hsource.1)⟩
  · rw [if_neg hsource]
    have hsourced : g.configuration.registry.requiresProvenance = true → t.stamp.source ≠ "" := by
      intro hrequires hempty
      exact hsource (by simp [hrequires, hempty])
    by_cases hscans : g.configuration.validation.scansDescriptions = true
    · rw [if_pos hscans]
      cases hscreen : HiddenText.screen t.description with
      | error alarm =>
        refine ⟨nofun, fun h => ?_⟩
        have hclean := h.clean hscans
        rw [hscreen] at hclean
        cases hclean
      | ok => exact ⟨fun _ => ⟨hsourced, fun _ => hscreen⟩, fun _ => rfl⟩
    · rw [if_neg hscans]
      exact ⟨fun _ => ⟨hsourced, fun h => absurd h hscans⟩, fun _ => rfl⟩

/-- a registration is refused, or the tool was admitted and is stored with its hashes written anew -/
theorem register_cases (g : Gateway) (t : Tool) : (g.register t).2 = g ∨
    (g.configuration.Admits t ∧ (g.register t).2 = { g with registry := (g.registry.register t).2 }) := by
  unfold register
  cases h : g.screen t with
  | error e => exact .inl rfl
  | ok => exact .inr ⟨screen_eq_ok.1 h, rfl⟩

/-- a refused operation on the registry leaves the gateway as it was -/
theorem onRegistry_refused {α : Type} {g : Gateway} {r : Except RegistryFault α × Registry}
    (hr : ∀ e, r.1 = .error e → r.2 = g.registry) (h : (g.onRegistry r).1.isOk = false) : (g.onRegistry r).2 = g := by
  obtain ⟨answer, r⟩ := r
  cases answer with
  | ok a => cases h
  | error e =>
    have hsame : r = g.registry := hr e rfl
    rw [onRegistry, hsame]

theorem sync_refused {g : Gateway} {exchange : Catalog.Exchange} (h : (g.sync exchange).1.isOk = false) :
    (g.sync exchange).2 = g := by
  unfold sync at h ⊢
  cases hc : Catalog.credentials g.configuration.catalog.url g.configuration.catalog.apiKey with
  | error e => rfl
  | ok c =>
    rw [hc] at h
    exact onRegistry_refused (fun _ he => Registry.sync_refused he) h

theorem loadSnapshot_refused {g : Gateway} {s : Store} (h : (g.loadSnapshot s).1.isOk = false) :
    (g.loadSnapshot s).2 = g :=
  onRegistry_refused (fun _ he => Registry.restore_refused he) h

theorem step_configuration (g : Gateway) (op : Op) : (g.step op).configuration = g.configuration := by
  cases op with
  | register t =>
    rcases register_cases g t with heq | ⟨-, heq⟩ <;> rw [step, heq]
  | sync exchange =>
    rw [step, sync]
    split <;> rfl
  | loadSnapshot s => rfl
  | setPolicy policy => rfl

theorem run_configuration (g : Gateway) (ops : List Op) : (g.run ops).configuration = g.configuration := by
  induction ops generalizing g with
  | nil => rfl
  | cons op ops ih => exact (ih (g.step op)).trans (step_configuration g op)

/-! ## The invariant -/

/-- every stored tool was admitted, or it is one of these -/
def Gated (g : Gateway) (tools : List Tool) : Prop :=
  ∀ t ∈ g.list.tools, g.configuration.Admits t ∨ t ∈ tools

theorem gated_self (g : Gateway) : g.Gated g.list.tools :=
  fun _ ht => .inr ht

/-- a tool that was registered was admitted as it is stored, but for its hashes -/
theorem register_gated {g : Gateway} {tools : List Tool} (h : g.Gated tools) (t : Tool) :
    (g.register t).2.Gated tools := by
  rcases register_cases g t with heq | ⟨hadmits, heq⟩
  · rw [heq]
    exact h
  · rw [heq]
    rcases Registry.register_cases g.registry t with hsame | ⟨checksum, signature, -, hinsert⟩
    · rw [hsame]
      exact h
    · rw [hinsert]
      intro u hu
      obtain ⟨entry, hentry, rfl⟩ := List.mem_map.1 hu
      rcases Table.mem_of_mem_insert hentry with rfl | hold
      · exact .inl (hadmits.stamped checksum signature)
      · exact h entry.2 (List.mem_map_of_mem hold)

theorem step_gated {g : Gateway} {tools : List Tool} (h : g.Gated tools) (op : Op) :
    (g.step op).Gated (if g.imports op then (g.step op).list.tools else tools) := by
  by_cases himports : g.imports op = true
  · rw [if_pos himports]
    exact gated_self _
  · rw [if_neg himports]
    cases op with
    | register t => exact register_gated h t
    | sync exchange =>
      rw [step, sync_refused (Bool.eq_false_iff.2 himports)]
      exact h
    | loadSnapshot s =>
      rw [step, loadSnapshot_refused (Bool.eq_false_iff.2 himports)]
      exact h
    | setPolicy policy => exact h

theorem run_gatedAfter {g : Gateway} {tools : List Tool} (h : g.Gated tools) (ops : List Op) :
    (g.run ops).Gated (importedAfter tools g ops) := by
  induction ops generalizing g tools with
  | nil => exact h
  | cons op ops ih => exact ih (step_gated h op)

/-- **Every stored tool has passed the screen or came in unscreened.** -/
theorem run_gated (g : Gateway) (ops : List Op) : (g.run ops).Gated (g.imported ops) :=
  run_gatedAfter (gated_self g) ops

/-! ## Reads -/

/-- what is given out is stored -/
theorem mem_list_of_find {g : Gateway} {name : String} {t : Tool} (h : g.find name = .ok t) : t ∈ g.list.tools := by
  rw [find, Registry.get] at h
  cases hfind : g.registry.tools.find? name with
  | none =>
    rw [hfind] at h
    cases h
  | some stored =>
    rw [hfind] at h
    simp only at h
    cases hjudge : g.registry.judge name stored with
    | error e =>
      rw [hjudge] at h
      cases h
    | ok given =>
      rw [hjudge] at h
      cases h
      rw [Registry.judge_given hjudge]
      exact List.mem_map_of_mem (Table.mem_of_find? hfind)

/-- a genuine tool is given out under every policy -/
theorem find_genuine {g : Gateway} {name : String} {t : Tool} (h : Registry.Genuine name t)
    (hfind : g.registry.tools.find? name = some t) : g.find name = .ok t := by
  rw [find, Registry.get_genuine h hfind]
  rfl

/-- a store that holds one tool -/
def snapshotOf (t : Tool) : Store :=
  (Store.save {} t).2

theorem load_snapshotOf {t : Tool} (hne : t.name ≠ "") (hstorable : t.Storable) (hnull : t.NoNull) :
    (snapshotOf t).load = .ok [t] := by
  have hrecord : Store.readRecord (Store.key t.name) (Store.record t) = .ok t := by
    rw [Store.readRecord_record hstorable, Tool.settled_eq_self.2 hnull]
  have hsave : snapshotOf t = { records := [(Store.key t.name, Store.record t)] } := by
    rw [snapshotOf, Store.save, if_neg (by simpa using hne)]
    rfl
  rw [hsave, Store.load, Store.readRecords, hrecord]
  rfl

/-- **A snapshot gets any tool with the hashes of its content past the policy**, whatever was there before. -/
theorem find_imported (g : Gateway) {t : Tool} (hgenuine : Registry.Genuine t.name t) (hstorable : t.Storable)
    (hnull : t.NoNull) : (g.step (.loadSnapshot (snapshotOf t))).find t.name = .ok t := by
  have htable : Registry.tableOf [] [t] = .ok [(t.name, t)] := by
    rw [Registry.tableOf, if_neg (by simpa using hgenuine.nonempty)]
    rfl
  have hload : (g.loadSnapshot (snapshotOf t)).2 =
      { g with registry := { g.registry with tools := [(t.name, t)] } } := by
    rw [loadSnapshot, onRegistry, Registry.restore, load_snapshotOf hgenuine.nonempty hstorable hnull]
    simp only [Registry.replaceAll, htable]
  rw [step, hload]
  exact find_genuine hgenuine (if_pos rfl)

/-! ## Main result -/

/-- **The policy gates all that is given out exactly as far as imports respect it.** Whatever gateway, made around
whatever registry, and whatever operations: every tool that it gives out in the end passes the policy if and only if
those do that it gives out and that came in with the last import or stood in the registry from the start. Imports need
not respect it: a snapshot makes the gateway give out any tool with the hashes of its content. -/
theorem find_admitted_iff_imported (g : Gateway) (ops : List Op) :
    ((∀ name t, (g.run ops).find name = .ok t → g.configuration.Admits t) ↔
      ∀ t ∈ g.imported ops, ∀ name, (g.run ops).find name = .ok t → g.configuration.Admits t) ∧
    ∀ t : Tool, Registry.Genuine t.name t → t.Storable → t.NoNull →
      (g.run (ops ++ [.loadSnapshot (snapshotOf t)])).find t.name = .ok t := by
  refine ⟨⟨fun h t _ name hfind => h name t hfind, fun h name t hfind => ?_⟩, fun t hgenuine hstorable hnull => ?_⟩
  · have hstored : t ∈ (g.run ops).list.tools := mem_list_of_find hfind
    rcases run_gated g ops t hstored with hadmits | himported
    · rw [run_configuration] at hadmits
      exact hadmits
    · exact h t himported name hfind
  · rw [run_snoc]
    exact find_imported (g.run ops) hgenuine hstorable hnull

/-- a run without imports: a tool is registered and given out, and all that is given out passes the policy -/
theorem find_admitted_registered :
    let g := ofConfiguration { registry := { requiresProvenance := true } }
    let t : Tool := { Tool.named "echo" with description := "Echo", stamp := { source := "here" } }
    (∃ given, (g.run [.register t]).find "echo" = .ok given) ∧
      ∀ name given, (g.run [.register t]).find name = .ok given → g.configuration.Admits given := by
  intro g t
  have hscreen : g.screen t = .ok () := by decide
  have hgenuine : Registry.Genuine "echo" ((t.withChecksum t.checksum).withSignature Tool.defaultSchema.hexDigest) :=
    Registry.genuine_stamped (t := t) (by decide) rfl
  have hregister : (g.run [.register t]).registry.tools =
      [("echo", (t.withChecksum t.checksum).withSignature Tool.defaultSchema.hexDigest)] := by
    simp only [run, List.foldl_cons, List.foldl_nil, step, register, hscreen, onRegistry]
    rw [Registry.register_unstamped rfl (by decide) rfl rfl rfl]
    rfl
  have hfind : (g.run [.register t]).registry.tools.find? "echo" =
      some ((t.withChecksum t.checksum).withSignature Tool.defaultSchema.hexDigest) := by
    rw [hregister]
    rfl
  refine ⟨⟨_, find_genuine hgenuine hfind⟩, (find_admitted_iff_imported g [.register t]).1.2 fun given hgiven => ?_⟩
  exact absurd hgiven List.not_mem_nil

/-- a tool with a hidden character and no source is given out of a snapshot -/
theorem find_hidden_imported :
    let g := ofConfiguration { registry := { requiresProvenance := true } }
    let plain : Tool := { Tool.named "t" with description := "a\u200b" }
    let t := (plain.withChecksum plain.checksum).withSignature Tool.defaultSchema.hexDigest
    g.configuration.validation.scansDescriptions = true ∧
      (g.run [.loadSnapshot (snapshotOf t)]).find "t" = .ok t ∧
      HiddenText.screen t.description = .error (.hidden 1) ∧ t.stamp.source = "" := by
  intro g plain t
  have hgenuine : Registry.Genuine "t" t := Registry.genuine_stamped (t := plain) (by decide) rfl
  have hstorable : t.Storable := (Tool.storable_named "t").stamped plain.checksum Tool.defaultSchema.hexDigest
  have hnull : t.NoNull := (Tool.noNull_named "t").stamped plain.checksum Tool.defaultSchema.hexDigest
  exact ⟨rfl, find_imported g hgenuine hstorable hnull, by decide, rfl⟩

end Gateway

end ToolGateway
