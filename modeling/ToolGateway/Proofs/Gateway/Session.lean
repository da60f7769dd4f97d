import ToolGateway.Proofs.Gateway.Run

/-!
Sessions: a gateway, the registry behind it, and a store, changed by any operations in any order.

`step` gives the answer of an operation and the session after it. Operations come through the gateway, to the registry
behind it, and to the store beside it; a snapshot is taken from the store as it stands, and any octets can be put there.

- `run_registry`: whatever a session does, its registry is one that operations on a registry lead to.
- `step_refused`: an operation that is refused leaves the session as it was, at whatever point the refusal comes.
- `refused_changes_nothing`: so the refused operations of a run can be left out of it.
-/

namespace ToolGateway

/-- a gateway and a store -/
structure Session where
  gateway : Gateway
  store : Store

namespace Session

/-- what changes a session -/
inductive Op where
  | register (t : Tool)
  | sync (exchange : Catalog.Exchange)
  | loadSnapshot
  | saveSnapshot
  /-- an operation on the registry itself -/
  | registry (op : Registry.Op)
  | saveTool (t : Tool)
  | saveTools (tools : List Tool)
  | removeTool (name : String)
  /-- puts any octets under any key of the store -/
  | put (key value : Bytes)

/-- a session whose registry is new -/
def opened (c : Configuration) (isSecured : Bool) (policy : Policy) (store : Store) : Session :=
  ⟨⟨c, { isSecured, policy }⟩, store⟩

variable {α : Type}

/-- the answer, without what it reports, and the session with this gateway -/
def onGateway (s : Session) (r : Except GatewayFault α × Gateway) : Except GatewayFault Unit × Session :=
  (r.1.map fun _ => (), { s with gateway := r.2 })

/-- the answer, without what it reports, and the session with this store -/
def onStore (s : Session) (r : Except GatewayFault α × Store) : Except GatewayFault Unit × Session :=
  (r.1.map fun _ => (), { s with store := r.2 })

/-- the answer of an operation and the session after it, be it refused or not -/
def step (s : Session) : Op → Except GatewayFault Unit × Session
  | .register t => s.onGateway (s.gateway.register t)
  | .sync exchange => s.onGateway (s.gateway.sync exchange)
  | .loadSnapshot => s.onGateway (s.gateway.loadSnapshot s.store)
  | .saveSnapshot => s.onStore (s.gateway.saveSnapshot s.store)
  | .registry op => s.onGateway (s.gateway.onRegistry (s.gateway.registry.perform op))
  | .saveTool t => s.onStore ((s.store.save t).map (·.mapError .registry) id)
  | .saveTools tools => s.onStore ((s.store.replaceAll tools).map (·.mapError .registry) id)
  | .removeTool name => (.ok (), { s with store := (s.store.remove name).2 })
  | .put key value => (.ok (), { s with store := s.store.put key value })

/-- the session after some operations -/
def run (s : Session) (ops : List Op) : Session :=
  ops.foldl (fun s op => (s.step op).2) s

/-- those of some operations that are not refused when they come -/
def accepted (s : Session) : List Op → List Op
  | [] => []
  | op :: ops =>
    let rest := accepted (s.step op).2 ops
    if (s.step op).1.isOk then op :: rest else rest

end Session

variable {α : Type}

/-! ## What a refusal leaves -/

/-- a tool without a name, wherever it stands in a list, refuses the whole list -/
theorem Store.recordsOf_nameless {tools : List Tool} (h : ∃ t ∈ tools, t.name = "") (table : Table Bytes Bytes) :
    recordsOf table tools = .error .emptyName := by
  induction tools generalizing table with
  | nil => simp at h
  | cons t tools ih =>
    rw [recordsOf]
    split_ifs with hempty
    · rfl
    · refine ih ?_ _
      simpa [show t.name ≠ "" by simpa using hempty] using h

theorem Store.save_refused {s : Store} {t : Tool} {e : RegistryFault} (h : (s.save t).1 = .error e) :
    (s.save t).2 = s := by
  unfold save at h ⊢
  split_ifs at h ⊢ with hempty
  rfl

/-- the records are all made before the first is written -/
theorem Store.replaceAll_refused {s : Store} {tools : List Tool} {e : RegistryFault}
    (h : (s.replaceAll tools).1 = .error e) : (s.replaceAll tools).2 = s := by
  unfold replaceAll at h ⊢
  cases hrecords : recordsOf [] tools with
  | error e => rfl
  | ok records =>
    rw [hrecords] at h
    cases h

theorem Registry.snapshot_refused {r : Registry} {s : Store} {e : RegistryFault} (h : (r.snapshot s).1 = .error e) :
    (r.snapshot s).2 = s := by
  unfold snapshot at h ⊢
  simp only at h ⊢
  rcases hs : s.replaceAll r.list.tools with ⟨e' | done, after⟩
  · have hsame := Store.replaceAll_refused (congrArg Prod.fst hs)
    rw [hs] at hsame
    exact hsame
  · rw [hs] at h
    cases h

theorem isOk_of_error {ε α : Type} {r : Except ε α} {e : ε} (h : r = .error e) : r.isOk = false := by
  rw [h]
  rfl

theorem Gateway.register_refused {g : Gateway} {t : Tool} (h : (g.register t).1.isOk = false) :
    (g.register t).2 = g := by
  unfold register at h ⊢
  cases hscreen : g.screen t with
  | error e => rfl
  | ok =>
    rw [hscreen] at h
    exact onRegistry_refused (fun _ he => Registry.register_refused he) h

namespace Session

variable {s : Session}

theorem onGateway_refused {r : Except GatewayFault α × Gateway} (hr : r.1.isOk = false → r.2 = s.gateway)
    {e : GatewayFault} (h : (s.onGateway r).1 = .error e) : (s.onGateway r).2 = s := by
  rw [onGateway, hr (isOk_of_error (error_of_map h))]

theorem onStore_refused {r : Except GatewayFault α × Store} (hr : ∀ e, r.1 = .error e → r.2 = s.store)
    {e : GatewayFault} (h : (s.onStore r).1 = .error e) : (s.onStore r).2 = s := by
  rw [onStore, hr e (error_of_map h)]

/-- a refusal of the store comes out as one of the registry -/
theorem error_of_mapError {r : Except RegistryFault α} {e : GatewayFault} (h : r.mapError .registry = .error e) :
    ∃ cause, r = .error cause := by
  cases r with
  | error cause => exact ⟨cause, rfl⟩
  | ok a => cases h

/-- **An operation that is refused leaves the session as it was.** -/
theorem step_refused {op : Op} {e : GatewayFault} (h : (s.step op).1 = .error e) : (s.step op).2 = s := by
  cases op with
  | register t => exact onGateway_refused Gateway.register_refused h
  | sync exchange => exact onGateway_refused Gateway.sync_refused h
  | loadSnapshot => exact onGateway_refused Gateway.loadSnapshot_refused h
  | saveSnapshot =>
    refine onStore_refused (fun e he => ?_) h
    obtain ⟨cause, hcause⟩ := error_of_mapError he
    exact Registry.snapshot_refused hcause
  | registry op =>
    refine onGateway_refused (Gateway.onRegistry_refused fun _ he => ?_) h
    exact Registry.perform_refused he
  | saveTool t =>
    refine onStore_refused (fun e he => ?_) h
    obtain ⟨cause, hcause⟩ := error_of_mapError he
    exact Store.save_refused hcause
  | saveTools tools =>
    refine onStore_refused (fun e he => ?_) h
    obtain ⟨cause, hcause⟩ := error_of_mapError he
    exact Store.replaceAll_refused hcause
  | removeTool name => cases h
  | put key value => cases h

/-- refused operations can be left out of a run -/
theorem run_accepted (s : Session) (ops : List Op) : s.run (s.accepted ops) = s.run ops := by
  induction ops generalizing s with
  | nil => rfl
  | cons op ops ih =>
    have hops : s.run (op :: ops) = (s.step op).2.run ops := rfl
    rw [hops, ← ih, accepted]
    cases hanswer : (s.step op).1 with
    | ok => rfl
    | error e =>
      rw [step_refused hanswer]
      rfl

/-- and without them nothing is refused any more -/
theorem accepted_accepted (s : Session) (ops : List Op) : s.accepted (s.accepted ops) = s.accepted ops := by
  induction ops generalizing s with
  | nil => rfl
  | cons op ops ih =>
    rw [accepted]
    by_cases hok : (s.step op).1.isOk = true
    · rw [if_pos hok, accepted, if_pos hok, ih]
    · rw [if_neg hok]
      cases hanswer : (s.step op).1 with
      | ok =>
        rw [hanswer] at hok
        exact absurd rfl hok
      | error e =>
        rw [step_refused hanswer]
        exact ih s

/-! ## The registry of a session -/

/-- an operation of a session comes down to operations on its registry, or to none -/
theorem step_registry (s : Session) (op : Op) :
    ∃ inner : List Registry.Op, (s.step op).2.gateway.registry = s.gateway.registry.run inner := by
  cases op with
  | register t =>
    rcases Gateway.register_cases s.gateway t with heq | ⟨-, heq⟩
    · refine ⟨[], ?_⟩
      rw [step, onGateway, heq]
      rfl
    · refine ⟨[.register t], ?_⟩
      rw [step, onGateway, heq]
      rfl
  | sync exchange =>
    rw [step, onGateway, Gateway.sync]
    split
    · exact ⟨[], rfl⟩
    · exact ⟨[.sync exchange _], rfl⟩
  | loadSnapshot => exact ⟨[.restore s.store], rfl⟩
  | registry op => exact ⟨[op], rfl⟩
  | saveSnapshot => exact ⟨[], rfl⟩
  | saveTool t => exact ⟨[], rfl⟩
  | saveTools tools => exact ⟨[], rfl⟩
  | removeTool name => exact ⟨[], rfl⟩
  | put key value => exact ⟨[], rfl⟩

/-- **The registry of a session is one that operations on a registry lead to.** -/
theorem run_registry (s : Session) (ops : List Op) :
    ∃ inner : List Registry.Op, (s.run ops).gateway.registry = s.gateway.registry.run inner := by
  induction ops generalizing s with
  | nil => exact ⟨[], rfl⟩
  | cons op ops ih =>
    obtain ⟨first, hfirst⟩ := s.step_registry op
    obtain ⟨rest, hrest⟩ := ih (s.step op).2
    refine ⟨first ++ rest, ?_⟩
    calc (s.run (op :: ops)).gateway.registry
        = (s.step op).2.gateway.registry.run rest := hrest
      _ = (s.gateway.registry.run first).run rest := by rw [hfirst]
      _ = s.gateway.registry.run (first ++ rest) := (List.foldl_append ..).symm

/-- so a session that was opened with a new registry keeps what every registry keeps -/
theorem opened_inv (c : Configuration) (isSecured : Bool) (policy : Policy) (store : Store) (ops : List Op) :
    ((opened c isSecured policy store).run ops).gateway.registry.Inv := by
  obtain ⟨inner, hinner⟩ := (opened c isSecured policy store).run_registry ops
  rw [hinner]
  exact Registry.run_inv (Registry.inv_empty isSecured policy) inner

/-! ## Main result -/

/-- **Refused operations change nothing.** At every moment of every run, whatever the session was at the start:

- an operation that is refused leaves the gateway with its registry and policy, and the store, as they were;
- so the run ends as it would have ended without its refused operations, and without them nothing is refused;
- and a list that holds a tool without a name, before or behind any number of good ones, is refused as a whole, by the
  registry and by the store. -/
theorem refused_changes_nothing (s : Session) (ops : List Op) :
    (∀ op e, ((s.run ops).step op).1 = .error e → ((s.run ops).step op).2 = s.run ops) ∧
    s.run (s.accepted ops) = s.run ops ∧ s.accepted (s.accepted ops) = s.accepted ops ∧
    ∀ tools : List Tool, (∃ t ∈ tools, t.name = "") →
      (s.run ops).step (.saveTools tools) = (.error (.registry .emptyName), s.run ops) ∧
      (s.run ops).step (.registry (.replaceAll tools)) = (.error (.registry .emptyName), s.run ops) := by
  refine ⟨fun op e h => step_refused h, s.run_accepted ops, s.accepted_accepted ops, fun tools h => ⟨?_, ?_⟩⟩
  · rw [step, Store.replaceAll, Store.recordsOf_nameless h]
    rfl
  · simp only [step, Registry.perform, Registry.step, Registry.replaceAll, Registry.tableOf_nameless h]
    rfl

/-- a tool is registered; then a list with a tool without a name, and a catalog without credentials -/
theorem refused_behind_good :
    let s := (opened {} true {} {}).run [.register (.named "a")]
    s.step (.saveTools [.named "b", {}]) = (.error (.registry .emptyName), s) ∧
      (s.step (.sync fun _ => .error "")).1 = .error (.registry .missingCredentials) ∧
      (s.step (.sync fun _ => .error "")).2 = s := by
  intro s
  have hnameless : ∃ t ∈ [Tool.named "b", {}], t.name = "" := ⟨{}, by simp, rfl⟩
  have hmissing : (s.step (.sync fun _ => .error "")).1 = .error (.registry .missingCredentials) := by
    have hconfiguration : s.gateway.configuration = {} := Gateway.run_configuration ⟨{}, { isSecured := true }⟩
      [.register (.named "a")]
    rw [step, onGateway, Gateway.sync, hconfiguration]
    rfl
  obtain ⟨hrefused, -, -, hlists⟩ := refused_changes_nothing (opened {} true {} {}) [.register (.named "a")]
  exact ⟨(hlists _ hnameless).1, hmissing, hrefused _ _ hmissing⟩

end Session

end ToolGateway
