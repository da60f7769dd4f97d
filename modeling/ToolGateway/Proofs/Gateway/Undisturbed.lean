import ToolGateway.Proofs.Gateway.Session

/-!
A tool that is registered without hashes, and what is done after that.

The registry fills the hashes in, so the stored tool passes under every policy, and it stays until its name is written
again. An operation leaves a name alone if it registers or removes another one, or if it changes no tools at all
(`Op.Spares`); so does every operation that is refused, whatever its name (`Undisturbed`).

- `step_find?_of_spares`, `run_find?_of_undisturbed`: what stands under a name that is left alone stays there.
- `unstamped_readable`: so a tool that came without hashes is given out, with both, after every such run.
-/

namespace ToolGateway

/-- a registration says nothing about another name -/
theorem Registry.register_find?_of_ne (r : Registry) {t : Tool} {name : String} (h : t.name ≠ name) :
    (r.register t).2.tools.find? name = r.tools.find? name := by
  rcases register_cases r t with heq | ⟨checksum, signature, -, heq⟩
  · rw [heq]
  · rw [heq]
    exact Table.find?_insert_of_ne _ _ h.symm

/-- a secured registry has no fingerprint for a tool that comes without an input schema and without hashes -/
theorem Registry.register_schemaless {r : Registry} (hs : r.isSecured = true) {t : Tool} (hne : t.name ≠ "")
    (hschema : t.inputSchema = none) (hc : t.stamp.checksum = "") (hsig : t.stamp.signature = "") :
    r.register t = (.error (.missingSchema t.name), r) := by
  have hprepare : r.prepare t = .error (.missingSchema t.name) := by
    simp [prepare, hne, hs, hc, Tool.withChecksum, hsig, Tool.fingerprint, hschema, Except.map]
  rw [register, hprepare]

namespace Session

/-- the operation registers or removes another name, or it changes no tools of the registry at all -/
def Op.Spares (name : String) : Op → Prop
  | .register t | .registry (.register t) => t.name ≠ name
  | .registry (.remove other) => other ≠ name
  | .registry (.setPolicy _) | .saveSnapshot | .saveTool _ | .saveTools _ | .removeTool _ | .put _ _ => True
  | .sync _ | .loadSnapshot | .registry (.replaceAll _) | .registry (.restore _) | .registry (.sync _ _) => False

/-- each operation of a run spares the name, or it is refused when it comes -/
def Undisturbed (name : String) : Session → List Op → Prop
  | _, [] => True
  | s, op :: ops => (op.Spares name ∨ (s.step op).1.isOk = false) ∧ Undisturbed name (s.step op).2 ops

variable {s : Session} {name : String}

theorem step_find?_of_spares {op : Op} (h : op.Spares name) :
    (s.step op).2.gateway.registry.tools.find? name = s.gateway.registry.tools.find? name := by
  cases op with
  | register t =>
    rcases Gateway.register_cases s.gateway t with heq | ⟨-, heq⟩
    · rw [step, onGateway, heq]
    · rw [step, onGateway, heq]
      exact Registry.register_find?_of_ne _ h
  | registry op =>
    cases op with
    | register t => exact Registry.register_find?_of_ne _ h
    | remove other => exact Table.find?_erase_of_ne _ (Ne.symm h)
    | setPolicy policy => rfl
    | replaceAll tools => exact h.elim
    | restore store => exact h.elim
    | sync exchange c => exact h.elim
  | sync exchange => exact h.elim
  | loadSnapshot => exact h.elim
  | saveSnapshot => rfl
  | saveTool t => rfl
  | saveTools tools => rfl
  | removeTool other => rfl
  | put key value => rfl

/-- **What stands under a name goes on standing there while the name is left alone.** -/
theorem run_find?_of_undisturbed {ops : List Op} (h : Undisturbed name s ops) :
    (s.run ops).gateway.registry.tools.find? name = s.gateway.registry.tools.find? name := by
  induction ops generalizing s with
  | nil => rfl
  | cons op ops ih =>
    obtain ⟨hop, hops⟩ := h
    refine (ih hops).trans ?_
    rcases hop with hspares | hrefused
    · exact step_find?_of_spares hspares
    · cases hanswer : (s.step op).1 with
      | ok =>
        rw [hanswer] at hrefused
        cases hrefused
      | error e => rw [step_refused hanswer]

/-! ## Main result -/

/-- **A tool that is registered without hashes stays readable.** Whatever tools and policy a secured registry has, a
tool with a name and without hashes is registered exactly if it has an input schema, which may be `null`; if it has
none, the refusal says so. From then on, whatever is done that leaves its name alone or is refused, and whatever
policies are set, a read gives the tool as it came, with the checksum and the fingerprint of its content. -/
theorem unstamped_readable (s : Session) (hsecured : s.gateway.registry.isSecured = true) (t : Tool)
    (hname : t.name ≠ "") (hchecksum : t.stamp.checksum = "") (hsignature : t.stamp.signature = "") :
    let registered := s.step (.registry (.register t))
    (registered.1 = .ok () ↔ t.inputSchema.isSome = true) ∧
    (t.inputSchema = none → registered = (.error (.registry (.missingSchema t.name)), s)) ∧
    ∀ ops, registered.1 = .ok () → Undisturbed t.name registered.2 ops →
      ∃ signature, t.fingerprint = .ok signature ∧ (registered.2.run ops).gateway.registry.get t.name =
        .ok { t with stamp := { t.stamp with checksum := t.checksum, signature } } := by
  intro registered
  rcases Option.eq_none_or_eq_some t.inputSchema with hschema | ⟨schema, hschema⟩
  · have hregister := Registry.register_schemaless hsecured hname hschema hchecksum hsignature
    have hrefused : registered = (.error (.registry (.missingSchema t.name)), s) := by
      simp only [registered, step, Registry.perform, Registry.step, hregister]
      rfl
    refine ⟨?_, fun _ => hrefused, fun ops hok => ?_⟩
    · rw [hrefused, hschema]
      simp
    · rw [hrefused] at hok
      cases hok
  · let stored := (t.withChecksum t.checksum).withSignature schema.hexDigest
    have hregister := Registry.register_unstamped hsecured hname hschema hchecksum hsignature
    have hanswer : registered.1 = .ok () := by
      simp only [registered, step, Registry.perform, hregister]
      rfl
    have hfind : registered.2.gateway.registry.tools.find? t.name = some stored := by
      have htools : registered.2.gateway.registry = (s.gateway.registry.register t).2 := rfl
      rw [htools, hregister]
      exact Table.find?_insert_self _ _ _
    refine ⟨by simp [hanswer, hschema], fun hnone => ?_, fun ops _ hops => ?_⟩
    · rw [hschema] at hnone
      cases hnone
    · refine ⟨schema.hexDigest, Tool.fingerprint_of_schema hschema, ?_⟩
      exact Registry.get_genuine (Registry.genuine_stamped hname hschema) ((run_find?_of_undisturbed hops).trans hfind)

/-- a tool with the schema `null`; then a registration of the same name is refused, other names come and go, a snapshot
is taken, and the strictest policy is set -/
theorem unstamped_readable_strict :
    let t : Tool := { name := "t", stamp := { source := "here" }, inputSchema := some .null }
    let strict : Policy := { validatesChecksums := true, rejectsUnsigned := true }
    let ops : List Op := [.registry (.register { name := "t" }), .register { name := "u", inputSchema := some .null },
      .saveSnapshot, .registry (.remove "u"), .registry (.setPolicy strict)]
    (((opened {} true {} {}).step (.registry (.register t))).2.run ops).gateway.registry.get "t" =
      .ok { t with stamp := { t.stamp with checksum := t.checksum, signature := Json.null.hexDigest } } := by
  intro t strict ops
  obtain ⟨hregisters, -, hreads⟩ := unstamped_readable (opened {} true {} {}) rfl t (by decide) rfl rfl
  have hundisturbed : Undisturbed "t" ((opened {} true {} {}).step (.registry (.register t))).2 ops := by
    refine ⟨.inr ?_, .inl ?_, .inl trivial, .inl ?_, .inl trivial, trivial⟩
    · rfl
    · simp [Op.Spares]
    · simp [Op.Spares]
  obtain ⟨signature, hsignature, hget⟩ := hreads ops (hregisters.2 rfl) hundisturbed
  have hsame : Json.null.hexDigest = signature := Except.ok.inj ((Tool.fingerprint_of_schema rfl).symm.trans hsignature)
  rw [hsame]
  exact hget

end Session

end ToolGateway
