import ToolGateway.Proofs.Catalog.Sync
import ToolGateway.Proofs.Command.Step
import ToolGateway.Proofs.Store.Snapshot

/-!
The catalog in the store: what `list` prints after `sync`.

Commands run in a world that a host works on. Of the host nothing is assumed but that it keeps stores (`Host.Keeps`):
one that is opened is as it was kept last, and only keeping one changes any.

- `perform_sync`, `perform_sync_refused`: the records of a consistent answer are put in place of all that the store
  held; for any other answer the command fails and every store stays as it was.
- `perform_list`: a store that holds the snapshot of a registry is listed as the registry stands.
- `Row`, `listEntries_eq`, `rows_readsBack`, `rowOf_isVerified`: what a listing says of the tools, and that it is read
  from what is printed.
- `list_after_sync`: so the two commands together report what the catalog gave.
-/

namespace ToolGateway

/-! ## Hosts that keep stores -/

variable {σ : Type}

/-- a host in whose worlds there is a store at each path: opening one and asking the catalog change none, and keeping
one changes no other -/
structure Host.Keeps (host : Host (StateM σ)) (stores : σ → String → Store) : Prop where
  opened : ∀ path w, ((host.loadStore path).run w).1 = .ok (stores w path)
  stores_opened : ∀ path w, stores ((host.loadStore path).run w).2 = stores w
  kept : ∀ path s w, ((host.saveStore path s).run w).1 = .ok ()
  stores_kept : ∀ path s w, stores ((host.saveStore path s).run w).2 = Function.update (stores w) path s
  stores_asked : ∀ seconds c w, stores ((host.exchange seconds c).run w).2 = stores w

namespace Command

/-! ## Opening and keeping stores -/

variable {host : Host (StateM σ)} {stores : σ → String → Store}

theorem perform_ask (hkeeps : host.Keeps stores) (seconds : Nat) (credentials : Catalog.Credentials) (w : σ) :
    ∃ w', perform (liftM (host.exchange seconds credentials)) w =
      (.ok ((host.exchange seconds credentials).run w).1, w') ∧ stores w' = stores w :=
  ⟨_, perform_lift _ w, hkeeps.stores_asked seconds credentials w⟩

theorem perform_open (hkeeps : host.Keeps stores) (path : String) (w : σ) :
    ∃ w', perform (openStore host path) w = (.ok (stores w path), w') ∧ stores w' = stores w := by
  refine ⟨_, ?_, hkeeps.stores_opened path w⟩
  rw [openStore, perform_bind (perform_lift (host.loadStore path) w), hkeeps.opened path w]
  rfl

theorem perform_keep (hkeeps : host.Keeps stores) (path : String) (s : Store) (w : σ) :
    ∃ w', perform (keepStore host path s) w = (.ok (), w') ∧ stores w' = Function.update (stores w) path s := by
  refine ⟨_, ?_, hkeeps.stores_kept path s w⟩
  rw [keepStore, perform_bind (perform_lift (host.saveStore path s) w), hkeeps.kept path s w]
  rfl

/-! ## Syncing -/

/-- the registry that a consistent answer with these entries leaves, where the configuration asks for these checks -/
def registryOf (c : Configuration) (pairs : List (String × Tool)) : Registry :=
  { isSecured := c.registry.isSecured, policy := c.registry.policy, tools := Catalog.tableOf pairs }

variable {c : Configuration} {credentials : Catalog.Credentials} {reply : Catalog.Reply}
  {pairs : List (String × Tool)} {w : σ}

theorem inv_registryOf (h : reply.Consistent pairs) : (registryOf c pairs).Inv :=
  Catalog.inv_of_consistent h (Gateway.ofConfiguration c).registry

theorem configuration_ofConfiguration (c : Configuration) : (Gateway.ofConfiguration c).configuration = c := rfl

/-- with credentials a sync is one of the registry -/
theorem sync_ofConfiguration (hcredentials : Catalog.credentials c.catalog.url c.catalog.apiKey = .ok credentials)
    (exchange : Catalog.Exchange) : (Gateway.ofConfiguration c).sync exchange = (Gateway.ofConfiguration c).onRegistry
      (Catalog.sync exchange credentials (Gateway.ofConfiguration c).registry) := by
  rw [Gateway.sync, configuration_ofConfiguration, hcredentials]

section

variable (hkeeps : host.Keeps stores)
  (hcredentials : Catalog.credentials c.catalog.url c.catalog.apiKey = .ok credentials)
  (hreply : ((host.exchange c.catalog.timeoutSeconds credentials).run w).1 = .ok reply)

include hkeeps hcredentials hreply

/-- **A sync puts the records of a consistent answer in place of all that the store held.** -/
theorem perform_sync (h : reply.Consistent pairs) :
    (perform (runWith host c .sync) w).1 =
      .ok (printed ("Synchronized " ++ toString (registryOf c pairs).size ++ " tools")) ∧
    stores (perform (runWith host c .sync) w).2 c.registry.snapshotPath =
      ⟨(registryOf c pairs).list.tools.map Store.entry⟩ := by
  obtain ⟨w₁, hask, -⟩ := perform_ask hkeeps c.catalog.timeoutSeconds credentials w
  obtain ⟨w₂, hopen, -⟩ := perform_open hkeeps c.registry.snapshotPath w₁
  obtain ⟨w₃, hkeep, hstores⟩ := perform_keep hkeeps c.registry.snapshotPath
    ⟨(registryOf c pairs).list.tools.map Store.entry⟩ w₂
  have hsave : (⟨c, registryOf c pairs⟩ : Gateway).saveSnapshot (stores w₁ c.registry.snapshotPath) =
      (.ok (registryOf c pairs).size, ⟨(registryOf c pairs).list.tools.map Store.entry⟩) := by
    rw [Gateway.saveSnapshot, Registry.snapshot_eq (inv_registryOf h)]
    rfl
  have hsync : (Gateway.ofConfiguration c).sync (fun _ => .ok reply) =
      (.ok (registryOf c pairs).size, ⟨c, registryOf c pairs⟩) := by
    rw [sync_ofConfiguration hcredentials, Catalog.sync_of_consistent rfl h]
    rfl
  have hend : perform (runWith host c .sync) w =
      (.ok (printed ("Synchronized " ++ toString (registryOf c pairs).size ++ " tools")), w₃) := by
    rw [hreply] at hask
    rw [runWith, runSync]
    simp only [configuration_ofConfiguration, hcredentials]
    rw [perform_bind hask]
    simp only [hsync]
    rw [perform_bind (perform_granted_ok _ _), perform_bind hopen]
    simp only [hsave]
    rw [perform_bind (perform_granted_ok _ _), perform_bind hkeep, perform_pure]
  rw [hend]
  exact ⟨rfl, by rw [hstores, Function.update_self]⟩

/-- any other answer fails the command, and every store stays as it was -/
theorem perform_sync_refused {e : RegistryFault} (h : reply.Refuses e) :
    (perform (runWith host c .sync) w).1 = .error (.ofGateway (.registry e)) ∧
      stores (perform (runWith host c .sync) w).2 = stores w := by
  obtain ⟨w', hask, hstores⟩ := perform_ask hkeeps c.catalog.timeoutSeconds credentials w
  have hsync : (Gateway.ofConfiguration c).sync (fun _ => .ok reply) =
      (.error (.registry e), Gateway.ofConfiguration c) := by
    rw [sync_ofConfiguration hcredentials, Catalog.sync_of_refuses rfl h]
    rfl
  have hend : perform (runWith host c .sync) w = (.error (.ofGateway (.registry e)), w') := by
    rw [hreply] at hask
    rw [runWith, runSync]
    simp only [configuration_ofConfiguration, hcredentials]
    rw [perform_bind hask]
    simp only [hsync]
    rw [perform_bind_error (perform_granted_error _ _)]
  rw [hend]
  exact ⟨rfl, hstores⟩

theorem perform_sync_ok_iff :
    (∃ result, (perform (runWith host c .sync) w).1 = .ok result) ↔ ∃ pairs, reply.Consistent pairs := by
  constructor
  · rintro ⟨result, hok⟩
    rcases reply.consistent_or_refuses with hconsistent | ⟨e, h⟩
    · exact hconsistent
    · rw [(perform_sync_refused hkeeps hcredentials hreply h).1] at hok
      cases hok
  · rintro ⟨pairs, h⟩
    exact ⟨_, (perform_sync hkeeps hcredentials hreply h).1⟩

theorem stores_of_sync_error {failure : Failure} (herror : (perform (runWith host c .sync) w).1 = .error failure) :
    stores (perform (runWith host c .sync) w).2 = stores w := by
  rcases reply.consistent_or_refuses with ⟨pairs, h⟩ | ⟨e, h⟩
  · rw [(perform_sync hkeeps hcredentials hreply h).1] at herror
    cases herror
  · exact (perform_sync_refused hkeeps hcredentials hreply h).2

end

/-! ## Listing -/

section

variable (h : reply.Consistent pairs) (hdoubles : ∀ key t, Table.LastOf pairs key t → t.DoublesReread)

include h hdoubles

/-- the tools of a consistent answer are read from their records as they are, if their doubles are -/
theorem storable_registryOf : ∀ t ∈ (registryOf c pairs).list.tools, t.Storable ∧ t.NoNull := by
  intro t ht
  obtain ⟨labelled, hlabelled, rfl⟩ := List.mem_map.1 ht
  obtain ⟨entry, hentry, rfl⟩ := List.mem_map.1 hlabelled
  have hgives : Tool.codec.Gives (124 + 2) entry.2 := h.body.gives entry (Table.mem_of_mem_ofList hentry)
  have hdepth : 124 + 1 < nestingLimit := by decide
  have hstorable : entry.2.Storable ∧ entry.2.NoNull :=
    Tool.storable_of_gives hdepth hgives (hdoubles entry.1 entry.2 (Table.mem_ofList.1 hentry))
  -- the name that is filled in does not count
  exact hstorable

theorem restore_registryOf :
    (Gateway.ofConfiguration c).registry.restore ⟨(registryOf c pairs).list.tools.map Store.entry⟩ =
      (.ok (registryOf c pairs).size, registryOf c pairs) := by
  have hinv : (registryOf c pairs).Inv := inv_registryOf h
  have hstorable := storable_registryOf (c := c) h hdoubles
  have hsecured : (Gateway.ofConfiguration c).registry.isSecured = (registryOf c pairs).isSecured := rfl
  obtain ⟨-, hrestore⟩ := Registry.restore_snapshot hinv (fun t ht => (hstorable t ht).1) {} hsecured rfl
  rw [Registry.snapshot_eq hinv, Registry.settled_eq_self fun t ht => (hstorable t ht).2] at hrestore
  exact hrestore

/-- **A store that holds the tools of a consistent answer is listed as the catalog gave them.** -/
theorem perform_list (hkeeps : host.Keeps stores)
    (hstore : stores w c.registry.snapshotPath = ⟨(registryOf c pairs).list.tools.map Store.entry⟩) :
    ∃ w', perform (runWith host c .list) w = (.ok (printed (Json.array
      ((registryOf c pairs).list.tools.map (listEntry ⟨c, registryOf c pairs⟩))).pretty), w') := by
  obtain ⟨w', hopen, -⟩ := perform_open hkeeps c.registry.snapshotPath w
  have hload : (Gateway.ofConfiguration c).loadSnapshot (stores w c.registry.snapshotPath) =
      (.ok (registryOf c pairs).size, ⟨c, registryOf c pairs⟩) := by
    rw [Gateway.loadSnapshot, hstore, restore_registryOf h hdoubles]
    rfl
  refine ⟨w', ?_⟩
  rw [runWith, runList]
  simp only [configuration_ofConfiguration]
  rw [perform_bind hopen]
  simp only [hload]
  rw [perform_bind (perform_granted_ok _ _), perform_pure]
  rfl

end

/-! ## Rows -/

/-- what a listing says of a tool -/
structure Row where
  name : String
  checksum : String
  isVerified : Bool
  /-- why the tool is not given out, if it is not -/
  refusal : Option String

/-- rows as documents; a tool that is given out has no `error` -/
def Row.codec : Codec Row :=
  Codec.record "ListEntry"
    (.field "name" .text none (fun _ => false) <|
      .field "checksum" .text none (fun _ => false) <|
      .field "verified" .flag none (fun _ => false) <|
      .field "error" (.optional .text) (some none) Option.isNone .done)
    (fun (name, checksum, isVerified, refusal, ()) => ⟨name, checksum, isVerified, refusal⟩)
    (fun row => (row.name, row.checksum, row.isVerified, row.refusal, ()))

theorem Row.readsBack (row : Row) (depth : Nat) : Row.codec.ReadsBack (depth + 1) row row := by
  refine Codec.record_readsBack ?_ (row.name, row.checksum, row.isVerified, row.refusal, ()) rfl ?_
  · simp [Fields.names]
  · refine ⟨Codec.text_readsBack _ _, Codec.text_readsBack _ _, Codec.flag_readsBack _ _, ?_, trivial⟩
    cases row.refusal with
    | none => rfl
    | some cause => exact Codec.optional_some (Codec.text_readsBack cause _) rfl

/-- what the listing of a gateway says of a tool -/
def rowOf (g : Gateway) (t : Tool) : Row :=
  let refusal := match g.find t.name with
    | .ok _ => none
    | .error e => some (String.intercalate ": " (e.message :: e.causes.take 1))
  { name := t.name, checksum := t.stamp.checksum, isVerified := refusal.isNone, refusal }

theorem listEntry_eq (g : Gateway) (t : Tool) : listEntry g t = Row.codec.toJson (rowOf g t) := by
  rw [listEntry, rowOf]
  cases g.find t.name with
  | ok given => rfl
  | error e => rfl

/-- the list that is printed is the document of the rows -/
theorem listEntries_eq (g : Gateway) (tools : List Tool) :
    Json.array (tools.map (listEntry g)) = (Codec.list Row.codec).toJson (tools.map (rowOf g)) := by
  rw [List.map_congr_left fun t _ => listEntry_eq g t]
  exact congrArg Json.array List.map_map.symm

/-- which is read as these rows -/
theorem rows_readsBack (rows : List Row) : (Codec.list Row.codec).ReadsBack nestingLimit rows rows :=
  Codec.list_readsBack fun row _ => row.readsBack _

/-- a tool is verified exactly if it passes what is checked -/
theorem rowOf_isVerified {g : Gateway} {t : Tool} (hfind : g.registry.tools.find? t.name = some t) :
    (rowOf g t).isVerified = true ↔ g.registry.Passes t := by
  have hget : g.registry.get t.name = .ok t ↔ g.registry.Passes t := by
    rw [Registry.get_eq_ok]
    exact and_iff_right hfind
  rw [← hget, rowOf, Gateway.find]
  cases hread : g.registry.get t.name with
  | error e => simp [Except.mapError]
  | ok given =>
    obtain ⟨hgiven, -⟩ := Registry.get_eq_ok.1 hread
    rw [hfind] at hgiven
    cases hgiven
    simp [Except.mapError]

/-- the tools of a consistent answer are the last entries of the keys, each under its key -/
theorem mem_registryOf (h : reply.Consistent pairs) {key : String} {t : Tool} :
    t ∈ (registryOf c pairs).list.tools ∧ t.name = key ↔
      ∃ u, Table.LastOf pairs key u ∧ { u with name := key } = t :=
  Catalog.mem_list_tableOf h (Gateway.ofConfiguration c).registry

theorem mem_records (h : reply.Consistent pairs) {record : Bytes × Bytes} :
    record ∈ (registryOf c pairs).list.tools.map Store.entry ↔
      ∃ key t, Table.LastOf pairs key t ∧ record = Store.entry { t with name := key } := by
  rw [List.mem_map]
  constructor
  · rintro ⟨t, ht, rfl⟩
    obtain ⟨u, hlast, hsame⟩ := (mem_registryOf h).1 ⟨ht, rfl⟩
    exact ⟨t.name, u, hlast, by rw [hsame]⟩
  · rintro ⟨key, t, hlast, rfl⟩
    exact ⟨_, ((mem_registryOf h).2 ⟨t, hlast, rfl⟩).1, rfl⟩

/-! ## Main result -/

/-- **What is listed after a sync is what the catalog gave.** Whatever the configuration, whatever the store held, and
whatever answer the catalog gives:

- the sync succeeds exactly if the answer is consistent, and else every store stays as it was;
- if it is, the command says how many tools there are, and the store then holds records of its tools only;
- listing it, in any world in which it still stands as the sync left it, ends well if the doubles of its tools are read
  back, and its output is the document of one row for each key, ascending strictly by name, which is read as these rows;
- each row has the checksum that the last entry of its key brings along;
- it is verified exactly if the registry is not secured or the definition of that entry, under its key, passes what the
  configuration checks: both hashes there and those of the content, or at least there. -/
theorem list_after_sync (host : Host (StateM σ)) (stores : σ → String → Store) (hkeeps : host.Keeps stores)
    (c : Configuration) (credentials : Catalog.Credentials)
    (hcredentials : Catalog.credentials c.catalog.url c.catalog.apiKey = .ok credentials) (w : σ)
    (reply : Catalog.Reply) (hreply : ((host.exchange c.catalog.timeoutSeconds credentials).run w).1 = .ok reply) :
    let synced := perform (runWith host c .sync) w
    let path := c.registry.snapshotPath
    ((∃ result, synced.1 = .ok result) ↔ ∃ pairs, reply.Consistent pairs) ∧
    ((∃ failure, synced.1 = .error failure) → stores synced.2 = stores w) ∧
    ∀ pairs, reply.Consistent pairs →
      synced.1 = .ok ⟨0, "Synchronized " ++ toString (stores synced.2 path).records.length ++ " tools" ++ "\n",
        ""⟩ ∧
      (∀ record, record ∈ (stores synced.2 path).records ↔ ∃ key t, Table.LastOf pairs key t ∧
        record = Store.entry { t with name := key }) ∧
      ((∀ key t, Table.LastOf pairs key t → t.DoublesReread) →
        ∀ later, stores later path = stores synced.2 path → ∃ (rows : List Row) (result : Result),
        (perform (runWith host c .list) later).1 = .ok result ∧ result.Shows (.list Row.codec) rows ∧
        (rows.Pairwise fun a b => a.name < b.name) ∧
        (∀ row ∈ rows, ∃ t, Table.LastOf pairs row.name t) ∧
        ∀ key t, Table.LastOf pairs key t → ∃ row ∈ rows, row.name = key ∧ row.checksum = t.stamp.checksum ∧
          (row.isVerified = true ↔ (c.registry.isSecured = true →
            (c.registry.validatesChecksums = true → Tool.Attested { t with name := key }) ∧
            (c.registry.rejectsUnsigned = true → t.stamp.isUnsigned = false)))) := by
  intro synced path
  refine ⟨perform_sync_ok_iff hkeeps hcredentials hreply, ?_, fun pairs h => ?_⟩
  · rintro ⟨failure, herror⟩
    exact stores_of_sync_error hkeeps hcredentials hreply herror
  · obtain ⟨hsynced, hstore⟩ := perform_sync hkeeps hcredentials hreply h
    have hinv : (registryOf c pairs).Inv := inv_registryOf h
    refine ⟨?_, fun record => ?_, fun hdoubles later hlater => ?_⟩
    · rw [hstore, List.length_map, Registry.length_list, hsynced]
      rfl
    · rw [hstore]
      exact mem_records h
    · obtain ⟨w', hlist⟩ := perform_list h hdoubles hkeeps (hlater.trans hstore)
      rw [listEntries_eq] at hlist
      refine ⟨(registryOf c pairs).list.tools.map (rowOf ⟨c, registryOf c pairs⟩), _, congrArg Prod.fst hlist,
        shows_printed (rows_readsBack _), ?_, fun row hrow => ?_, fun key t hlast => ?_⟩
      · exact List.pairwise_map.2 hinv.list_ascending
      · obtain ⟨t, ht, rfl⟩ := List.mem_map.1 hrow
        obtain ⟨u, hlast, -⟩ := (mem_registryOf h).1 ⟨ht, rfl⟩
        exact ⟨u, hlast⟩
      · have hmem := (mem_registryOf (c := c) h).2 ⟨t, hlast, rfl⟩
        exact ⟨_, List.mem_map_of_mem hmem.1, rfl, rfl, rowOf_isVerified (hinv.mem_list.1 hmem)⟩

/-- a host whose world is its stores, and whose catalog always gives this answer -/
def storeHost (reply : Catalog.Reply) : Host (StateM (String → Store)) where
  exists? _ := pure false
  loadFile _ := pure (.error "no file")
  saveFile _ _ := pure (.error "no file")
  environment := pure []
  loadStore path := do return .ok ((← get) path)
  saveStore path s := do
    modify fun stores => Function.update stores path s
    return .ok ()
  exchange _ _ := pure (.ok reply)
  nonce := pure []

theorem storeHost_keeps (reply : Catalog.Reply) : (storeHost reply).Keeps id where
  opened _ _ := rfl
  stores_opened _ _ := rfl
  kept _ _ _ := rfl
  stores_kept _ _ _ := rfl
  stores_asked _ _ _ := rfl

/-- Where only a missing hash is minded, over a store that held another tool: in the body
`{"b":{},"a":{"secMetaData":{"checksum":"00","signature":"11"}}}` the tool `a` has two hashes and `b` has none. -/
theorem list_after_sync_unsigned :
    let reply : Catalog.Reply := ⟨200,
      [0x7B, 0x22, 0x62, 0x22, 0x3A, 0x7B, 0x7D, 0x2C, 0x22, 0x61, 0x22, 0x3A, 0x7B, 0x22, 0x73, 0x65, 0x63, 0x4D,
      0x65, 0x74, 0x61, 0x44, 0x61, 0x74, 0x61, 0x22, 0x3A, 0x7B, 0x22, 0x63, 0x68, 0x65, 0x63, 0x6B, 0x73, 0x75,
      0x6D, 0x22, 0x3A, 0x22, 0x30, 0x30, 0x22, 0x2C, 0x22, 0x73, 0x69, 0x67, 0x6E, 0x61, 0x74, 0x75, 0x72, 0x65,
      0x22, 0x3A, 0x22, 0x31, 0x31, 0x22, 0x7D, 0x7D, 0x7D]⟩
    let c : Configuration :=
      { registry := { validatesChecksums := false }, catalog := { url := some "u", apiKey := some "k" } }
    let synced := perform (runWith (storeHost reply) c .sync) fun _ => ⟨[Store.entry (.named "old")]⟩
    (∃ result, synced.1 = .ok result) ∧ ∃ (rows : List Row) (result : Result),
      (perform (runWith (storeHost reply) c .list) synced.2).1 = .ok result ∧ result.Shows (.list Row.codec) rows ∧
      (∃ row ∈ rows, row.name = "a" ∧ row.checksum = "00" ∧ row.isVerified = true) ∧
      ∃ row ∈ rows, row.name = "b" ∧ row.checksum = "" ∧ row.isVerified = false := by
  intro reply c synced
  let signed : Tool := { stamp := { checksum := "00", signature := "11" } }
  have hsorted : Table.ofList [("b", ({} : Tool)), ("a", signed)] = [("a", signed), ("b", {})] := by
    simp only [Table.ofList, List.foldl_cons, List.foldl_nil, Table.insert, String.reduceLT, ↓reduceIte]
  have hconsistent : reply.Consistent [("b", {}), ("a", signed)] := by
    refine ⟨rfl, ⟨Cursor.start _, ⟨[], 1, 63⟩, rfl, rfl, rfl⟩, Catalog.labelled_iff.1 ?_, by simp⟩
    rw [hsorted]
    simp [Catalog.Labelled, signed]
  -- neither tool has a number in it
  have hdoubles : ∀ key t, Table.LastOf [("b", {}), ("a", signed)] key t → t.DoublesReread := by
    intro key t hlast j hj
    have hmem := Table.mem_ofList.2 hlast
    rw [hsorted] at hmem
    obtain rfl : j = .object [] := by
      rcases List.mem_pair.1 hmem with h | h <;> cases h <;> simpa [Tool.values, signed] using hj
    simp [Json.doublesReread_object]
  obtain ⟨hok, -, hrows⟩ := list_after_sync (storeHost reply) id (storeHost_keeps reply) c ⟨"u", "k"⟩ rfl
    (fun _ => ⟨[Store.entry (.named "old")]⟩) reply rfl
  obtain ⟨-, -, hlisted⟩ := hrows _ hconsistent
  obtain ⟨rows, result, hlist, hshows, -, -, hkeys⟩ := hlisted hdoubles _ rfl
  refine ⟨hok.2 ⟨_, hconsistent⟩, rows, result, hlist, hshows, ?_, ?_⟩
  · obtain ⟨row, hrow, hname, hchecksum, hverified⟩ := hkeys "a" signed ⟨[_], [], rfl, by simp⟩
    have htrusting : ¬ c.registry.validatesChecksums = true := Bool.false_ne_true
    exact ⟨row, hrow, hname, hchecksum, hverified.2 fun _ => ⟨fun h => absurd h htrusting, fun _ => by decide⟩⟩
  · obtain ⟨row, hrow, hname, hchecksum, hverified⟩ := hkeys "b" {} ⟨[], [_], rfl, by simp⟩
    refine ⟨row, hrow, hname, hchecksum, Bool.eq_false_of_not_eq_true fun h => ?_⟩
    have hsigned := (hverified.1 h rfl).2 rfl
    revert hsigned
    decide

end Command

end ToolGateway
