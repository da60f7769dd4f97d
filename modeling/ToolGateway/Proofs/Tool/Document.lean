import ToolGateway.Proofs.Document.Rereading
import ToolGateway.Review
import ToolGateway.Tool.Document
import ToolGateway.Tool.Integrity

/-!
Tools that are read back from their documents.

- `readsBack`: the document of a tool is read as the same tool, but for optional values that are `null`: these are
  written like any other and read as missing, which is what `settled` makes of them.
- `settled_eq_self`: so exactly the tools without such a value are read back unchanged.
- `storable_of_gives`: a tool that some text is read as is one of them, if its doubles are read back.
-/

namespace ToolGateway

open Json

/-! ## Hints, stamps and reviews -/

/-- a text that is left out when it is empty -/
theorem Codec.text_field (s : String) (depth : Nat) :
    if s.isEmpty then ((some "" : Option String) <|> Codec.text.ifMissing) = some s
    else Codec.text.ReadsBack depth s s := by
  split_ifs with h
  · rw [String.isEmpty_iff.1 h]
    rfl
  · exact Codec.text_readsBack s depth

theorem Hints.readsBack (h : Hints) (depth : Nat) : Hints.codec.ReadsBack (depth + 1) h h := by
  refine Codec.record_readsBack ?_ (h.title, h.isReadOnly, h.isDestructive, h.isIdempotent, h.isOpenWorld, ()) rfl ?_
  · simp [Fields.names]
  · exact ⟨Codec.text_field _ _, Codec.flag_readsBack _ _, Codec.flag_readsBack _ _, Codec.flag_readsBack _ _,
      Codec.flag_readsBack _ _, trivial⟩

theorem Stamp.readsBack (s : Stamp) (depth : Nat) : Stamp.codec.ReadsBack (depth + 1) s s := by
  refine Codec.record_readsBack ?_ (s.source, s.signature, s.publicKeyId, s.version, s.checksum, ()) rfl ?_
  · simp [Fields.names]
  · exact ⟨Codec.text_field _ _, Codec.text_field _ _, Codec.text_field _ _, Codec.text_field _ _,
      Codec.text_field _ _, trivial⟩

theorem Review.readsBack (r : Review) (depth : Nat) : Review.codec.ReadsBack (depth + 1) r r := by
  refine Codec.record_readsBack ?_ (r.name, r.checksum, r.isValid, r.error, ()) rfl ?_
  · simp [Fields.names]
  · exact ⟨Codec.text_readsBack _ _, Codec.text_field _ _, Codec.flag_readsBack _ _, Codec.text_field _ _, trivial⟩

/-! ## Tools -/

namespace Tool

/-- an optional value as it is read back: `null` is read as none -/
def settle (a : Option Json) : Option Json :=
  a.filter fun j => !j.isNull

/-- the tool as it is read back -/
def settled (t : Tool) : Tool :=
  { t with arguments := settle t.arguments
           inputSchema := settle t.inputSchema
           outputSchema := settle t.outputSchema }

/-- no optional value of the tool is `null` -/
def NoNull (t : Tool) : Prop :=
  t.arguments ≠ some null ∧ t.inputSchema ≠ some null ∧ t.outputSchema ≠ some null

/-- the values of any form that a tool holds, its parameters as one object -/
def values (t : Tool) : List Json :=
  t.arguments.toList ++ t.inputSchema.toList ++ t.outputSchema.toList ++ [object t.parameters]

/-- every double in the tool is read back from its own text -/
def DoublesReread (t : Tool) : Prop :=
  ∀ j ∈ t.values, j.DoublesReread

/-- a text can stand for every value of the tool, inside the document, which is a container itself -/
def Storable (t : Tool) : Prop :=
  ∀ j ∈ t.values, j.Readable ∧ j.DoublesReread ∧ j.depth < nestingLimit

theorem Storable.doublesReread {t : Tool} (h : t.Storable) : t.DoublesReread :=
  fun j hj => (h j hj).2.1

/-- hashes do not count -/
theorem Storable.stamped {t : Tool} (h : t.Storable) (checksum signature : String) :
    ((t.withChecksum checksum).withSignature signature).Storable :=
  h

theorem NoNull.stamped {t : Tool} (h : t.NoNull) (checksum signature : String) :
    ((t.withChecksum checksum).withSignature signature).NoNull :=
  h

/-- a new tool can be stored -/
theorem storable_named (name : String) : (named name).Storable := by
  have hschema : defaultSchema = object [("properties", object []), ("type", string "object")] := rfl
  have hascending : Table.Ascending [("properties", object []), ("type", string "object")] :=
    List.pairwise_pair.2 (by decide)
  intro j hj
  have hcases : j = defaultSchema ∨ j = object [] := by simpa [values, named] using hj
  rcases hcases with rfl | rfl
  · rw [hschema]
    have hdoubles : (object [("properties", object []), ("type", string "object")]).DoublesReread := by
      simp [Json.DoublesReread, Everywhere, EverywhereMembers]
    refine ⟨readable_object.2 ⟨hascending, fun m hm => ?_⟩, hdoubles, by decide⟩
    rcases List.mem_pair.1 hm with rfl | rfl
    · simp [readable_object, Table.Ascending]
    · simp [Readable, Everywhere]
  · exact ⟨by simp [readable_object, Table.Ascending], by simp [doublesReread_object], by decide⟩

theorem noNull_named (name : String) : (named name).NoNull := by
  simp [NoNull, named, defaultSchema, ofMembers]

theorem settle_eq_self {a : Option Json} : settle a = a ↔ a ≠ some null := by
  cases a with
  | none => simp [settle]
  | some j => cases j <;> simp [settle, isNull, Option.filter]

/-- **A tool is read back unchanged exactly if none of its optional values is `null`.** -/
theorem settled_eq_self {t : Tool} : t.settled = t ↔ t.NoNull := by
  rw [NoNull, ← settle_eq_self, ← settle_eq_self, ← settle_eq_self]
  constructor
  · intro h
    exact ⟨congrArg arguments h, congrArg inputSchema h, congrArg outputSchema h⟩
  · rintro ⟨h1, h2, h3⟩
    rw [settled, h1, h2, h3]

/-- a missing schema and `null` have one checksum -/
theorem checksum_settled (t : Tool) : t.settled.checksum = t.checksum := by
  have hschema : (settle t.inputSchema).getD null = t.inputSchema.getD null := by
    cases hinput : t.inputSchema with
    | none => rfl
    | some j => cases j <;> rfl
  rw [checksum, checksum, projection, projection, settled, hschema]

/-- but `null` has a fingerprint, which a missing schema has not -/
theorem fingerprint_settled_of_null {t : Tool} (h : t.inputSchema = some null) :
    t.settled.fingerprint = .error (.missingSchema t.name) := by
  rw [fingerprint, settled, h]
  rfl

theorem optional_field {a : Option Json} {depth : Nat}
    (h : ∀ j ∈ a.toList, j.Readable ∧ j.DoublesReread ∧ j.depth ≤ depth) :
    if a.isNone then ((some none : Option (Option Json)) <|> (Codec.optional .free).ifMissing) = some (settle a)
    else (Codec.optional .free).ReadsBack depth a (settle a) := by
  cases a with
  | none => rfl
  | some j =>
    obtain ⟨hreadable, hdoubles, hdepth⟩ := h j (by simp)
    rw [if_neg (by simp)]
    by_cases hnull : j = null
    · rw [hnull]
      exact Codec.optional_of_null rfl
    · rw [settle_eq_self.2 (by simpa using hnull)]
      refine Codec.optional_some (Codec.free_readsBack hreadable hdoubles hdepth) ?_
      cases j with
      | null => exact absurd rfl hnull
      | _ => rfl

theorem parameters_field {parameters : Table String Json} {depth : Nat} (h : (object parameters).Readable)
    (hd : (object parameters).DoublesReread) (hdepth : (object parameters).depth ≤ depth + 1) :
    if parameters.isEmpty then
      ((some [] : Option (Table String Json)) <|> (Codec.dictionary .free).ifMissing) = some parameters
    else (Codec.dictionary .free).ReadsBack (depth + 1) parameters parameters := by
  split_ifs with hempty
  · rw [List.isEmpty_iff.1 hempty]
    rfl
  · obtain ⟨hascending, hinner⟩ := readable_object.1 h
    rw [Json.depth] at hdepth
    refine Codec.dictionary_readsBack
      (fun e he => Codec.free_readsBack (hinner e he) (doublesReread_object.1 hd e he) ?_) hascending
    exact depthMembers_le.1 (Nat.le_of_succ_le_succ hdepth) e he

/-- **The document of a tool is read as the tool, its optional values settled.** -/
theorem readsBack {t : Tool} (h : t.Storable) : Tool.codec.ReadsBack nestingLimit t t.settled := by
  have harguments : ∀ j ∈ t.arguments.toList, j.Readable ∧ j.DoublesReread ∧ j.depth ≤ 126 := fun j hj =>
    (h j (by simp [values, hj])).imp id (And.imp id Nat.le_of_lt_succ)
  have hinput : ∀ j ∈ t.inputSchema.toList, j.Readable ∧ j.DoublesReread ∧ j.depth ≤ 126 := fun j hj =>
    (h j (by simp [values, hj])).imp id (And.imp id Nat.le_of_lt_succ)
  have houtput : ∀ j ∈ t.outputSchema.toList, j.Readable ∧ j.DoublesReread ∧ j.depth ≤ 126 := fun j hj =>
    (h j (by simp [values, hj])).imp id (And.imp id Nat.le_of_lt_succ)
  obtain ⟨hparameters, hdoubles, hdepth⟩ := h (object t.parameters) (by simp [values])
  refine Codec.record_readsBack ?_ (t.name, t.description, settle t.arguments, t.parameters, settle t.inputSchema,
    settle t.outputSchema, t.hints, t.stamp, ()) rfl ?_
  · simp [Fields.names]
  · exact ⟨Codec.text_readsBack _ _, Codec.text_readsBack _ _, optional_field harguments,
      parameters_field hparameters hdoubles (Nat.le_of_lt_succ hdepth), optional_field hinput, optional_field houtput,
      Hints.readsBack _ _, Stamp.readsBack _ _, trivial⟩

/-! ### Tools that were read -/

theorem storable_optional {a : Option Json} {depth : Nat} (hdepth : depth < nestingLimit)
    (h : Fields.Holds (Codec.optional .free) (some none) depth a) :
    (∀ j ∈ a.toList, j.Readable ∧ j.depth < nestingLimit) ∧ a ≠ some null := by
  cases a with
  | none => simp
  | some j =>
    rcases h with hgives | hmissing
    · obtain ⟨hnull, hj⟩ := Codec.optional_free_gives hgives
      obtain ⟨hreadable, hbound⟩ := Codec.free_gives hj
      simpa using ⟨⟨hreadable, Nat.lt_of_le_of_lt hbound hdepth⟩, hnull⟩
    · cases hmissing

theorem storable_parameters {parameters : Table String Json} {depth : Nat} (hdepth : depth + 1 < nestingLimit)
    (h : Fields.Holds (Codec.dictionary .free) (some []) (depth + 1) parameters) :
    (object parameters).Readable ∧ (object parameters).depth < nestingLimit := by
  rcases h with hgives | hmissing
  · obtain ⟨hascending, hinner⟩ := Codec.dictionary_gives hgives
    refine ⟨readable_object.2 ⟨hascending, fun m hm => (Codec.free_gives (hinner m hm)).1⟩, ?_⟩
    have hmembers : depthMembers parameters ≤ depth := depthMembers_le.2 fun m hm => (Codec.free_gives (hinner m hm)).2
    rw [Json.depth]
    omega
  · cases hmissing
    exact ⟨by simp [readable_object, Table.Ascending], by decide⟩

/-- **A tool that some text is read as can be stored if its doubles are read back, and none of its optional values is
`null`.** -/
theorem storable_of_gives {t : Tool} {depth : Nat} (hdepth : depth + 1 < nestingLimit)
    (h : Tool.codec.Gives (depth + 2) t) (hd : t.DoublesReread) : t.Storable ∧ t.NoNull := by
  obtain ⟨⟨name, description, arguments, parameters, inputSchema, outputSchema, hints, stamp, ⟨⟩⟩, rfl, hheld⟩ :=
    Codec.record_gives h
  obtain ⟨-, -, harguments, hparameters, hinput, houtput, -⟩ := hheld
  obtain ⟨hargs, hargsNull⟩ := storable_optional hdepth harguments
  obtain ⟨hin, hinNull⟩ := storable_optional hdepth hinput
  obtain ⟨hout, houtNull⟩ := storable_optional hdepth houtput
  refine ⟨fun j hj => ?_, hargsNull, hinNull, houtNull⟩
  have hdoubles := hd j hj
  simp only [values, List.mem_append, List.mem_singleton] at hj
  rcases hj with ((hj | hj) | hj) | rfl
  · exact (hargs j hj).imp id (And.intro hdoubles)
  · exact (hin j hj).imp id (And.intro hdoubles)
  · exact (hout j hj).imp id (And.intro hdoubles)
  · exact (storable_parameters hdepth hparameters).imp id (And.intro hdoubles)

end Tool

end ToolGateway
