import Mathlib.Tactic
import ToolGateway.Proofs.Document.Rereading
import ToolGateway.Proofs.Registry.Listing

/-!
Syncing with the catalog: the consistent answers are taken, and no others.

An answer is consistent if its status is 200 and its body is an object of tools under names, of which each entry that
counts names no other tool than its key does and none has the empty key (`Consistent`). Of a repeated key the last entry
counts; the others have to be tools, and nothing else is asked of them.

- `Codec.read_dictionary`: a body is read as the table of its entries.
- `sync_of_consistent`: what a registry holds afterwards, whatever it held before.
- `Refuses`, `sync_of_refuses`: the faults of all other answers, in the order in which they are looked for.
- `sync_ok_iff_consistent`: both together.
-/

namespace ToolGateway

/-! ## Entries in the order of the text -/

namespace Codec

variable {α : Type}

/-- the text is an object with these entries, in the order of the text, repeated names and all -/
def Lists (inner : Codec α) (bytes : Bytes) (pairs : List (String × α)) : Prop :=
  ∃ c past, (Cursor.start bytes).readFound = .ok (.map, c) ∧
    Cursor.inObject (readEntries inner (nestingLimit - 1) (c.rest.length + 1) true c.step) = .ok (pairs, past) ∧
    past.readEnd = .ok ()

theorem fromText_dictionary {inner : Codec α} {c past : Cursor} (h : c.readFound = .ok (.map, past)) :
    (dictionary inner).fromText nestingLimit c =
      (Cursor.inObject (readEntries inner (nestingLimit - 1) (past.rest.length + 1) true past.step)).map
        fun r => (Table.ofList r.1, r.2) := by
  simp only [dictionary, h, placing, Except.mapError, bind, Except.bind]
  rfl

/-- **A dictionary is read as the table of its entries.** -/
theorem read_dictionary {inner : Codec α} {bytes : Bytes} {table : Table String α} :
    (dictionary inner).read bytes = .ok table ↔ ∃ pairs, inner.Lists bytes pairs ∧ Table.ofList pairs = table := by
  rw [read_eq_ok]
  constructor
  · rintro ⟨past, htext, hend⟩
    obtain ⟨⟨found, c⟩, hfound, htext⟩ := ok_of_bind htext
    cases found with
    | map =>
      obtain ⟨⟨pairs, c'⟩, hpairs, htext⟩ := ok_of_bind htext
      cases htext
      exact ⟨pairs, ⟨c, past, Cursor.ok_of_placing hfound, hpairs, hend⟩, rfl⟩
    | _ => cases htext
  · rintro ⟨pairs, ⟨c, past, hfound, hpairs, hend⟩, rfl⟩
    refine ⟨past, (fromText_dictionary hfound).trans ?_, hend⟩
    rw [hpairs]
    rfl

/-- what stands under a name was read there -/
theorem Lists.gives {inner : Codec α} {bytes : Bytes} {pairs : List (String × α)} (h : inner.Lists bytes pairs) :
    ∀ pair ∈ pairs, inner.Gives (nestingLimit - 1) pair.2 := by
  obtain ⟨c, past, -, hpairs, -⟩ := h
  obtain ⟨before, hentries⟩ := Cursor.ok_of_inObject hpairs
  exact gives_of_mem_readEntries hentries

end Codec

namespace Catalog

/-! ## Entries and their tools -/

/-- the tool of the entry does not claim another name than its key -/
def Labelled (entry : String × Tool) : Prop :=
  entry.2.name = "" ∨ entry.2.name = entry.1

/-- the tool of an entry under the name of the entry; all else is as it was decoded -/
def toolOf (entry : String × Tool) : Tool :=
  { entry.2 with name := entry.1 }

theorem named_eq_ok {key : String} {t u : Tool} :
    named key t = .ok u ↔ Labelled (key, t) ∧ toolOf (key, t) = u := by
  rw [named, Labelled, toolOf]
  split_ifs with hempty hkey
  · have hempty : t.name = "" := by simpa using hempty
    simp [hempty]
  · subst hkey
    simp
  · have hempty : t.name ≠ "" := by simpa using hempty
    simp [hempty, hkey]

theorem named_eq_error {key : String} {t : Tool} {e : RegistryFault} : named key t = .error e ↔ ¬ Labelled (key, t) ∧
    e = .catalogContent ("entry '" ++ key ++ "' declares name '" ++ t.name ++ "'") := by
  rw [named, Labelled]
  split_ifs with hempty hkey
  · have hempty : t.name = "" := by simpa using hempty
    simp [hempty]
  · simp [hkey]
  · have hempty : t.name ≠ "" := by simpa using hempty
    simp [hempty, hkey, eq_comm]

theorem toolsOf_eq_mapM (table : Table String Tool) :
    toolsOf table = table.mapM fun entry => named entry.1 entry.2 := by
  induction table with
  | nil => rfl
  | cons entry table ih =>
    rw [List.mapM_cons, ← ih]
    rfl

variable {table : Table String Tool}

theorem toolsOf_eq_ok {tools : List Tool} :
    toolsOf table = .ok tools ↔ (∀ entry ∈ table, Labelled entry) ∧ table.map toolOf = tools := by
  rw [toolsOf_eq_mapM, mapM_eq_ok]
  simp only [named_eq_ok]
  rw [List.forall₂_and_left, ← List.forall₂_map_left_iff, List.forall₂_eq_eq_eq]

/-- the first entry, in the order of the keys, whose tool claims another name is reported -/
theorem toolsOf_eq_error {e : RegistryFault} :
    toolsOf table = .error e ↔ ∃ before entry after, table = before ++ entry :: after ∧
      (∀ sound ∈ before, Labelled sound) ∧ ¬ Labelled entry ∧
      e = .catalogContent ("entry '" ++ entry.1 ++ "' declares name '" ++ entry.2.name ++ "'") := by
  rw [toolsOf_eq_mapM, mapM_eq_error]
  simp only [named_eq_ok, named_eq_error, exists_and_left, exists_eq', and_true]

/-! ## Answers -/

/-- an answer that is taken, and the entries of its body in the order of the text -/
structure Reply.Consistent (reply : Reply) (pairs : List (String × Tool)) : Prop where
  status : reply.status = 200
  body : Tool.codec.Lists reply.body pairs
  labelled : ∀ key t, Table.LastOf pairs key t → t.name = "" ∨ t.name = key
  keyed : ∀ pair ∈ pairs, pair.1 ≠ ""

/-- the fault of an answer that is not taken; one that stands further up is looked for first -/
inductive Reply.Refuses (reply : Reply) : RegistryFault → Prop
  | status (h : reply.status ≠ 200) : Refuses reply (.catalogStatus reply.status)
  | unreadable {e : ReadError} (h : reply.status = 200)
      (hread : (Codec.dictionary Tool.codec).read reply.body = .error e) : Refuses reply (.catalogContent e.message)
  | mislabelled {pairs before after : List (String × Tool)} {entry : String × Tool} (h : reply.status = 200)
      (hbody : Tool.codec.Lists reply.body pairs) (hpairs : Table.ofList pairs = before ++ entry :: after)
      (hbefore : ∀ sound ∈ before, Labelled sound) (hentry : ¬ Labelled entry) :
      Refuses reply (.catalogContent ("entry '" ++ entry.1 ++ "' declares name '" ++ entry.2.name ++ "'"))
  | unkeyed {pairs : List (String × Tool)} (h : reply.status = 200) (hbody : Tool.codec.Lists reply.body pairs)
      (hlabelled : ∀ key t, Table.LastOf pairs key t → t.name = "" ∨ t.name = key)
      (hempty : ∃ pair ∈ pairs, pair.1 = "") : Refuses reply .emptyName

variable {reply : Reply} {pairs : List (String × Tool)}

/-- what is asked of the last entry of each key is asked of the table -/
theorem labelled_iff :
    (∀ entry ∈ Table.ofList pairs, Labelled entry) ↔
      ∀ key t, Table.LastOf pairs key t → t.name = "" ∨ t.name = key := by
  constructor
  · intro h key t hlast
    exact h (key, t) (Table.mem_ofList.2 hlast)
  · rintro h ⟨key, t⟩ hentry
    exact h key t (Table.mem_ofList.1 hentry)

/-- an answer is taken or refused -/
theorem Reply.consistent_or_refuses (reply : Reply) : (∃ pairs, reply.Consistent pairs) ∨ ∃ e, reply.Refuses e := by
  by_cases hstatus : reply.status = 200
  · cases hread : (Codec.dictionary Tool.codec).read reply.body with
    | error e => exact .inr ⟨_, .unreadable hstatus hread⟩
    | ok table =>
      obtain ⟨pairs, hbody, rfl⟩ := Codec.read_dictionary.1 hread
      cases htools : toolsOf (Table.ofList pairs) with
      | error e =>
        obtain ⟨before, entry, after, hpairs, hbefore, hentry, -⟩ := toolsOf_eq_error.1 htools
        exact .inr ⟨_, .mislabelled hstatus hbody hpairs hbefore hentry⟩
      | ok tools =>
        have hlabelled := labelled_iff.1 (toolsOf_eq_ok.1 htools).1
        by_cases hempty : ∃ pair ∈ pairs, pair.1 = ""
        · exact .inr ⟨_, .unkeyed hstatus hbody hlabelled hempty⟩
        · exact .inl ⟨pairs, hstatus, hbody, hlabelled, fun pair hpair hkey => hempty ⟨pair, hpair, hkey⟩⟩
  · exact .inr ⟨_, .status hstatus⟩

/-- what is fetched of an answer with such a body -/
theorem accept_of_lists (hstatus : reply.status = 200) (hbody : Tool.codec.Lists reply.body pairs) :
    accept reply = toolsOf (Table.ofList pairs) := by
  rw [accept, if_pos hstatus, decode, Codec.read_dictionary.2 ⟨pairs, hbody, rfl⟩]

/-! ## Registries -/

variable {exchange : Exchange} {c : Credentials} {r : Registry}

/-- the table of the tools of some entries, each under its key -/
def tableOf (pairs : List (String × Tool)) : Table String Tool :=
  (Table.ofList pairs).map fun entry => (entry.1, toolOf entry)

/-- each tool stands under its key, which is not empty -/
theorem inv_of_consistent (h : reply.Consistent pairs) (r : Registry) :
    Registry.Inv { r with tools := tableOf pairs } where
  named := by
    intro entry hentry
    obtain ⟨pair, -, rfl⟩ := List.mem_map.1 hentry
    rfl
  nonempty := by
    intro entry hentry
    obtain ⟨pair, hpair, rfl⟩ := List.mem_map.1 hentry
    exact h.keyed pair (Table.mem_of_mem_ofList hpair)
  ascending := List.pairwise_map.2 (Table.ofList_ascending pairs)

theorem list_tableOf (r : Registry) :
    (Registry.list { r with tools := tableOf pairs }).tools = (Table.ofList pairs).map toolOf := by
  rw [Registry.list, Table.values, tableOf, List.map_map]
  rfl

/-- **The tools of a consistent answer are put in place of all others.** -/
theorem sync_of_consistent (hreply : exchange c = .ok reply) (h : reply.Consistent pairs) :
    sync exchange c r = (.ok (tableOf pairs).length, { r with tools := tableOf pairs }) := by
  have htools : fetch exchange c = .ok ((Table.ofList pairs).map toolOf) := by
    rw [fetch, hreply]
    exact (accept_of_lists h.status h.body).trans (toolsOf_eq_ok.2 ⟨labelled_iff.2 h.labelled, rfl⟩)
  have hreplace : r.replaceAll ((Table.ofList pairs).map toolOf) = (.ok (), { r with tools := tableOf pairs }) := by
    rw [← list_tableOf r, Registry.replaceAll, (inv_of_consistent h r).tableOf_list]
  rw [sync, htools]
  simp only [hreplace, tableOf, List.length_map]

/-- **An answer with a fault is refused for it, and nothing changes.** -/
theorem sync_of_refuses {e : RegistryFault} (hreply : exchange c = .ok reply) (h : reply.Refuses e) :
    sync exchange c r = (.error e, r) := by
  rw [sync, fetch, hreply]
  simp only
  cases h with
  | status hstatus => rw [accept, if_neg hstatus]
  | unreadable hstatus hread => rw [accept, if_pos hstatus, decode, hread]
  | mislabelled hstatus hbody hpairs hbefore hentry =>
    rw [accept_of_lists hstatus hbody, toolsOf_eq_error.2 ⟨_, _, _, hpairs, hbefore, hentry, rfl⟩]
  | @unkeyed pairs hstatus hbody hlabelled hempty =>
    obtain ⟨pair, hpair, hkey⟩ := hempty
    rw [accept_of_lists hstatus hbody, toolsOf_eq_ok.2 ⟨labelled_iff.2 hlabelled, rfl⟩]
    have hnameless : ∃ t ∈ (Table.ofList pairs).map toolOf, t.name = "" := by
      obtain ⟨entry, hentry, hentryKey⟩ := List.mem_map.1 (Table.mem_keys_ofList.2 (List.mem_map_of_mem hpair))
      exact ⟨toolOf entry, List.mem_map_of_mem hentry, hentryKey.trans hkey⟩
    simp only [Registry.replaceAll_nameless hnameless]

theorem mem_tableOf {key : String} {t : Tool} :
    (key, t) ∈ tableOf pairs ↔ ∃ u, Table.LastOf pairs key u ∧ { u with name := key } = t := by
  rw [tableOf, List.mem_map]
  constructor
  · rintro ⟨⟨k, u⟩, hentry, hsame⟩
    cases hsame
    exact ⟨u, Table.mem_ofList.1 hentry, rfl⟩
  · rintro ⟨u, hlast, rfl⟩
    exact ⟨(key, u), Table.mem_ofList.2 hlast, rfl⟩

/-- what is listed is the last entry of each key, under its key -/
theorem mem_list_tableOf (h : reply.Consistent pairs) (r : Registry) {key : String} {t : Tool} :
    t ∈ (Registry.list { r with tools := tableOf pairs }).tools ∧ t.name = key ↔
      ∃ u, Table.LastOf pairs key u ∧ { u with name := key } = t := by
  have hinv := inv_of_consistent h r
  rw [hinv.mem_list, ← mem_tableOf]
  exact ⟨Table.mem_of_find?, Table.find?_of_mem hinv.ascending.nodup⟩

theorem length_tableOf (pairs : List (String × Tool)) : (tableOf pairs).length = (pairs.map (·.1)).dedup.length := by
  rw [tableOf, List.length_map, Table.length_ofList]

theorem sync_eq_ok (hreply : exchange c = .ok reply) {k : Nat} :
    (sync exchange c r).1 = .ok k ↔ ∃ pairs, reply.Consistent pairs ∧ (pairs.map (·.1)).dedup.length = k := by
  constructor
  · intro hok
    rcases reply.consistent_or_refuses with ⟨pairs, h⟩ | ⟨e, h⟩
    · rw [sync_of_consistent hreply h] at hok
      exact ⟨pairs, h, (length_tableOf pairs).symm.trans (Except.ok.inj hok)⟩
    · rw [sync_of_refuses hreply h] at hok
      cases hok
  · rintro ⟨pairs, h, rfl⟩
    rw [sync_of_consistent hreply h, length_tableOf]

theorem sync_eq_error (hreply : exchange c = .ok reply) {e : RegistryFault} :
    (sync exchange c r).1 = .error e ↔ reply.Refuses e := by
  constructor
  · intro herror
    rcases reply.consistent_or_refuses with ⟨pairs, h⟩ | ⟨e', h⟩
    · rw [sync_of_consistent hreply h] at herror
      cases herror
    · rw [sync_of_refuses hreply h] at herror
      cases herror
      exact h
  · intro h
    rw [sync_of_refuses hreply h]

/-! ## Main result -/

/-- **The consistent answers of the catalog are taken, and no others.** Whatever a registry held, and whatever status
and body the catalog answers with:

- a sync succeeds exactly if the answer is consistent, and its count is that of the distinct keys;
- the registry then holds, for each key, the tool of the last entry of the key, under this name and otherwise as it was
  decoded, hashes and all; it holds nothing else, and as many tools as were counted;
- every other answer is refused: for its status, for a body that is no object of tools, for the first entry that claims
  another name than its key, or for an empty key, in this order; the registry is then as it was. -/
theorem sync_ok_iff_consistent (exchange : Exchange) (c : Credentials) (reply : Reply)
    (hreply : exchange c = .ok reply) (r : Registry) :
    let synced := sync exchange c r
    (∀ k, synced.1 = .ok k ↔ ∃ pairs, reply.Consistent pairs ∧ (pairs.map (·.1)).dedup.length = k) ∧
    (∀ pairs, reply.Consistent pairs →
      (∀ key t, t ∈ synced.2.list.tools ∧ t.name = key ↔
        ∃ u, Table.LastOf pairs key u ∧ { u with name := key } = t) ∧
      (∀ key t, synced.2.tools.find? key = some t ↔ t ∈ synced.2.list.tools ∧ t.name = key) ∧
      (synced.2.list.tools.Pairwise fun a b => a.name < b.name) ∧
      synced.1 = .ok synced.2.size ∧ synced.2.isSecured = r.isSecured ∧ synced.2.policy = r.policy) ∧
    (∀ e, synced.1 = .error e ↔ reply.Refuses e) ∧
    ∀ e, synced.1 = .error e → synced.2 = r := by
  intro synced
  refine ⟨fun k => sync_eq_ok hreply, fun pairs h => ?_, fun e => sync_eq_error hreply, fun e herror => ?_⟩
  · have hsynced : synced = (.ok (tableOf pairs).length, { r with tools := tableOf pairs }) :=
      sync_of_consistent hreply h
    have hinv := inv_of_consistent h r
    rw [hsynced]
    exact ⟨fun key t => mem_list_tableOf h r, fun key t => hinv.mem_list.symm, hinv.list_ascending, rfl, rfl, rfl⟩
  · have hsynced : synced = (.error e, r) := sync_of_refuses hreply ((sync_eq_error hreply).1 herror)
    rw [hsynced]

/-- The body is `{"b":{},"a":{"name":"x"},"a":{"name":"a","description":"y"}}`: of the repeated key the first entry claims
another name and does not count, and the entry of the other key has no name of its own. An answer `{"a":{},"":{}}` is
refused for its empty key. -/
theorem sync_ok_iff_consistent_repeated :
    let reply : Reply := ⟨200,
      [0x7B, 0x22, 0x62, 0x22, 0x3A, 0x7B, 0x7D, 0x2C, 0x22, 0x61, 0x22, 0x3A, 0x7B, 0x22, 0x6E, 0x61, 0x6D, 0x65,
      0x22, 0x3A, 0x22, 0x78, 0x22, 0x7D, 0x2C, 0x22, 0x61, 0x22, 0x3A, 0x7B, 0x22, 0x6E, 0x61, 0x6D, 0x65, 0x22,
      0x3A, 0x22, 0x61, 0x22, 0x2C, 0x22, 0x64, 0x65, 0x73, 0x63, 0x72, 0x69, 0x70, 0x74, 0x69, 0x6F, 0x6E, 0x22,
      0x3A, 0x22, 0x79, 0x22, 0x7D, 0x7D]⟩
    let unkeyed : Reply := ⟨200,
      [0x7B, 0x22, 0x61, 0x22, 0x3A, 0x7B, 0x7D, 0x2C, 0x22, 0x22, 0x3A, 0x7B, 0x7D, 0x7D]⟩
    let r : Registry := { isSecured := true, tools := [("old", .named "old")] }
    let synced := sync (fun _ => .ok reply) ⟨"u", "k"⟩ r
    synced.1 = .ok 2 ∧ { name := "b" } ∈ synced.2.list.tools ∧
      { name := "a", description := "y" } ∈ synced.2.list.tools ∧ synced.2.size = 2 ∧
      (sync (fun _ => .ok unkeyed) ⟨"u", "k"⟩ r).1 = .error .emptyName := by
  intro reply unkeyed r synced
  let pairs : List (String × Tool) := [("b", {}), ("a", { name := "x" }), ("a", { name := "a", description := "y" })]
  have hpairs : Table.ofList pairs = [("a", { name := "a", description := "y" }), ("b", {})] := by rfl
  have hconsistent : reply.Consistent pairs := by
    refine ⟨rfl, ⟨Cursor.start _, ⟨[], 1, 60⟩, rfl, rfl, rfl⟩, labelled_iff.1 ?_, by simp [pairs]⟩
    rw [hpairs]
    simp [Labelled]
  have hbody : Tool.codec.Lists unkeyed.body [("a", {}), ("", {})] :=
    ⟨Cursor.start _, ⟨[], 1, 14⟩, rfl, rfl, rfl⟩
  have hunkeyed : unkeyed.Refuses .emptyName := by
    have hsorted : Table.ofList [("a", ({} : Tool)), ("", {})] = [("", {}), ("a", {})] := by rfl
    refine .unkeyed rfl hbody (labelled_iff.1 ?_) ⟨("", {}), by simp, rfl⟩
    rw [hsorted]
    simp [Labelled]
  obtain ⟨hok, hheld, -, -⟩ := sync_ok_iff_consistent (fun _ => .ok reply) ⟨"u", "k"⟩ reply rfl r
  obtain ⟨hlisted, -, -, hsize, -⟩ := hheld pairs hconsistent
  have hcount : synced.1 = .ok 2 := (hok 2).2 ⟨pairs, hconsistent, by decide⟩
  obtain ⟨-, -, hrefused, -⟩ := sync_ok_iff_consistent (fun _ => .ok unkeyed) ⟨"u", "k"⟩ unkeyed rfl r
  refine ⟨hcount, ?_, ?_, ?_, (hrefused .emptyName).2 hunkeyed⟩
  · exact ((hlisted "b" _).2 ⟨{}, ⟨[], _, rfl, by simp⟩, rfl⟩).1
  · exact ((hlisted "a" _).2 ⟨_, ⟨[_, _], [], rfl, by simp⟩, rfl⟩).1
  · exact (Except.ok.inj (hsize.symm.trans hcount))

end Catalog

end ToolGateway
