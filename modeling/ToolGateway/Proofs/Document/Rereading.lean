import ToolGateway.Proofs.Document.ReadBack

/-!
Documents that have been read once are read again.

Many texts are read as one value: members may come in any order, unknown ones are passed over, those with a fallback may
be left out, a record may be given as a list. `codec.Stable depth` says that whatever value some text was read as, what
is written of that value is read as the same one. Not every value is: an optional JSON value that is `null` is written
like a missing one. Such values are never read, so the law is about what reading gives (`Gives`).

- `optional_stable`, `list_stable`, `dictionary_stable`: the law is lifted through what a type is put together of.
- `record_stable`: a record keeps what was read if each field keeps what it can come to hold, be it read or a fallback.
- `rereads`: the law about whole texts.
-/

namespace ToolGateway

open Json Cursor

/-! ## What a cursor can find -/

namespace Cursor

variable {α : Type} {c past : Cursor}

/-- an integer is found only where it fits in 64 bits -/
theorem readFound_fits {i : Int} (h : c.readFound = .ok (.integer i, past)) : (Number.int i).Fits := by
  have hfits : ∀ {n : Number}, n.Fits → (Json.number n).found = .integer i → (Number.int i).Fits := by
    intro n hn hfound
    cases n with
    | int value =>
      cases hfound
      exact hn
    | real x => cases hfound
  unfold readFound at h
  simp only at h
  cases hpeek : c.skipBlanks.peek? with
  | none =>
    rw [hpeek] at h
    cases h
  | some b =>
    rw [hpeek] at h
    simp only at h
    split_ifs at h
    · obtain ⟨after, -, h⟩ := ok_of_bind h
      cases h
    · obtain ⟨after, -, h⟩ := ok_of_bind h
      cases h
    · obtain ⟨after, -, h⟩ := ok_of_bind h
      cases h
    · obtain ⟨⟨n, after⟩, hnumber, h⟩ := ok_of_bind h
      exact hfits (readNumber_fits hnumber) (congrArg Prod.fst (Except.ok.inj h))
    · obtain ⟨⟨n, after⟩, hnumber, h⟩ := ok_of_bind h
      exact hfits (readNumber_fits hnumber) (congrArg Prod.fst (Except.ok.inj h))
    · obtain ⟨⟨s, after⟩, -, h⟩ := ok_of_bind h
      cases h
    · cases h
    · cases h
    · cases h

/-- `null` is read only where it stands -/
theorem peek_of_readValue_null {fuel depth : Nat} (h : readValue fuel depth c = .ok (null, past)) :
    c.skipBlanks.peek? = some 0x6E := by
  cases fuel with
  | zero => cases h
  | succ fuel =>
    unfold readValue at h
    simp only at h
    cases hpeek : c.skipBlanks.peek? with
    | none =>
      rw [hpeek] at h
      cases h
    | some b =>
      rw [hpeek] at h
      simp only at h
      split_ifs at h with hnull
      · rw [hnull]
      · obtain ⟨after, -, h⟩ := ok_of_bind h
        cases h
      · obtain ⟨after, -, h⟩ := ok_of_bind h
        cases h
      · obtain ⟨after, -, h⟩ := ok_of_bind h
        cases h
      · obtain ⟨after, -, h⟩ := ok_of_bind h
        cases h
      · obtain ⟨after, -, h⟩ := ok_of_bind h
        cases h
      · cases depth with
        | zero => cases h
        | succ depth =>
          obtain ⟨after, -, h⟩ := ok_of_bind h
          cases h
      · cases depth with
        | zero => cases h
        | succ depth =>
          obtain ⟨after, -, h⟩ := ok_of_bind h
          cases h
      · cases h

theorem ok_of_placing {r : Except ReadError α} {a : α} (h : placing r = .ok a) : r = .ok a := by
  cases r with
  | error e => cases h
  | ok b =>
    cases h
    rfl

theorem ok_of_inList {r : Except Halt (α × Cursor)} {a : α} (h : inList r = .ok (a, past)) :
    ∃ before, r = .ok (a, before) := by
  match r with
  | .error (.placed e) => cases h
  | .error (.unplaced cause reached) => cases h
  | .ok (b, before) =>
    obtain ⟨after, -, hsame⟩ := ok_of_map h
    cases hsame
    exact ⟨before, rfl⟩

theorem ok_of_inObject {r : Except Halt (α × Cursor)} {a : α} (h : inObject r = .ok (a, past)) :
    ∃ before, r = .ok (a, before) := by
  match r with
  | .error (.placed e) => cases h
  | .error (.unplaced cause reached) => cases h
  | .ok (b, before) =>
    obtain ⟨after, -, hsame⟩ := ok_of_map h
    cases hsame
    exact ⟨before, rfl⟩

end Cursor

namespace Codec

variable {α β : Type} {depth : Nat} {inner : Codec α}

/-- some text is read as this value where `depth` containers may be opened -/
def Gives (codec : Codec α) (depth : Nat) (a : α) : Prop :=
  ∃ c past, codec.fromText depth c = .ok (a, past)

/-- what some text is read as is read back from what is written of it, as far as that goes for the doubles in it -/
def Stable (codec : Codec α) (depth : Nat) : Prop :=
  ∀ a, codec.Gives depth a → (codec.toJson a).DoublesReread → codec.ReadsBack depth a a

/-! ## Scalars, free values, optional values -/

theorem scalar_gives {judge : Found → Except Misfit α} {toJson : α → Json} {a : α}
    (h : (scalar judge toJson).Gives depth a) :
    ∃ found c past, Cursor.readFound c = .ok (found, past) ∧ judge found = .ok a := by
  obtain ⟨c, past, h⟩ := h
  obtain ⟨⟨found, after⟩, hfound, h⟩ := ok_of_bind h
  refine ⟨found, c, after, ok_of_placing hfound, ?_⟩
  cases hjudge : judge found with
  | error cause =>
    simp only [hjudge] at h
    cases h
  | ok b =>
    simp only [hjudge] at h
    cases h
    rfl

/-- a number that is read fits in 64 bits -/
theorem count_fits {expected : String} {n : Nat} (h : (count expected).Gives depth n) : (Number.int n).Fits := by
  obtain ⟨found, c, past, hfound, hjudge⟩ := scalar_gives h
  cases found with
  | integer i =>
    simp only at hjudge
    split_ifs at hjudge with hpos
    cases hjudge
    rw [Int.toNat_of_nonneg hpos]
    exact readFound_fits hfound
  | _ => cases hjudge

theorem count_stable (expected : String) (depth : Nat) : (count expected).Stable depth :=
  fun _ h _ => count_readsBack (count_fits h) expected depth

theorem free_gives {j : Json} (h : free.Gives depth j) : j.Readable ∧ j.depth ≤ depth := by
  obtain ⟨c, past, h⟩ := h
  exact (readsWithin _).value (ok_of_placing h)

theorem free_stable (depth : Nat) : free.Stable depth := fun _ h hd =>
  free_readsBack (free_gives h).1 hd (free_gives h).2

/-- an optional value that is read is read where no `null` begins -/
theorem optional_gives {a : α} (h : inner.optional.Gives depth (some a)) :
    ∃ c past, c.skipBlanks.peek? ≠ some 0x6E ∧ inner.fromText depth c = .ok (a, past) := by
  obtain ⟨c, past, h⟩ := h
  simp only [optional] at h
  split_ifs at h with hpeek
  · obtain ⟨after, -, h⟩ := ok_of_bind h
    cases h
  · obtain ⟨⟨value, after⟩, hvalue, h⟩ := ok_of_bind h
    cases h
    exact ⟨_, _, by rwa [skipBlanks_skipBlanks], hvalue⟩

/-- an optional value is kept if no value that stands there is written `null` -/
theorem optional_stable (h : inner.Stable depth)
    (hnull : ∀ c a past, c.skipBlanks.peek? ≠ some 0x6E → inner.fromText depth c = .ok (a, past) →
      (inner.toJson a).isNull = false) : inner.optional.Stable depth := by
  intro a hgives hd
  cases a with
  | none => exact optional_of_null rfl
  | some value =>
    obtain ⟨c, past, hpeek, hvalue⟩ := optional_gives hgives
    exact optional_some (h value ⟨c, past, hvalue⟩ hd) (hnull c value past hpeek hvalue)

theorem optional_text_stable (depth : Nat) : text.optional.Stable depth :=
  optional_stable (fun s _ _ => text_readsBack s depth) fun _ _ _ _ _ => rfl

/-- `null` is read as none, so a value of any form that is read is another one -/
theorem optional_free_gives {j : Json} (h : free.optional.Gives depth (some j)) : j ≠ null ∧ free.Gives depth j := by
  obtain ⟨c, past, hpeek, hvalue⟩ := optional_gives h
  refine ⟨?_, c, past, hvalue⟩
  rintro rfl
  exact hpeek (peek_of_readValue_null (ok_of_placing hvalue))

theorem optional_free_stable (depth : Nat) : free.optional.Stable depth := by
  refine optional_stable (free_stable depth) fun c j past hpeek hread => ?_
  cases j with
  | null => exact absurd (peek_of_readValue_null (ok_of_placing hread)) hpeek
  | _ => rfl

/-! ## Lists and dictionaries -/

theorem gives_of_mem_readItems {fuel : Nat} {isFirst : Bool} {c past : Cursor} {items : List α}
    (h : readItems inner depth fuel isFirst c = .ok (items, past)) : ∀ a ∈ items, inner.Gives depth a := by
  induction fuel generalizing isFirst c items with
  | zero => cases h
  | succ fuel ih =>
    rw [readItems] at h
    obtain ⟨⟨more, c⟩, -, h⟩ := ok_of_bind h
    cases more with
    | false =>
      cases h
      simp
    | true =>
      obtain ⟨⟨item, c'⟩, hitem, h⟩ := ok_of_bind h
      obtain ⟨⟨rest, c''⟩, hrest, h⟩ := ok_of_bind h
      cases h
      intro a ha
      rcases List.mem_cons.1 ha with rfl | ha
      · exact ⟨_, _, hitem⟩
      · exact ih hrest a ha

theorem list_stable (h : inner.Stable depth) : inner.list.Stable (depth + 1) := by
  rintro items ⟨c, past, hread⟩ hd
  refine list_readsBack fun a ha => h a ?_ (doublesReread_array.1 hd _ (List.mem_map_of_mem ha))
  obtain ⟨⟨found, c⟩, -, hread⟩ := ok_of_bind hread
  cases found with
  | list =>
    obtain ⟨before, hitems⟩ := ok_of_inList hread
    exact gives_of_mem_readItems hitems a ha
  | _ => cases hread

theorem gives_of_mem_readEntries {fuel : Nat} {isFirst : Bool} {c past : Cursor} {entries : List (String × α)}
    (h : readEntries inner depth fuel isFirst c = .ok (entries, past)) : ∀ e ∈ entries, inner.Gives depth e.2 := by
  induction fuel generalizing isFirst c entries with
  | zero => cases h
  | succ fuel ih =>
    rw [readEntries] at h
    obtain ⟨⟨more, c⟩, -, h⟩ := ok_of_bind h
    cases more with
    | false =>
      cases h
      simp
    | true =>
      obtain ⟨⟨key, c⟩, -, h⟩ := ok_of_bind h
      obtain ⟨c, -, h⟩ := ok_of_bind h
      obtain ⟨⟨value, c'⟩, hvalue, h⟩ := ok_of_bind h
      obtain ⟨⟨rest, c''⟩, hrest, h⟩ := ok_of_bind h
      cases h
      intro e he
      rcases List.mem_cons.1 he with rfl | he
      · exact ⟨_, _, hvalue⟩
      · exact ih hrest e he

/-- repeated names are merged and put in order when they are read -/
theorem dictionary_gives {table : Table String α} (h : inner.dictionary.Gives (depth + 1) table) :
    table.Ascending ∧ ∀ e ∈ table, inner.Gives depth e.2 := by
  obtain ⟨c, past, h⟩ := h
  obtain ⟨⟨found, c⟩, -, h⟩ := ok_of_bind h
  cases found with
  | map =>
    obtain ⟨⟨entries, c⟩, hentries, h⟩ := ok_of_bind h
    cases h
    obtain ⟨before, hentries⟩ := ok_of_inObject hentries
    exact ⟨Table.ofList_ascending entries, fun e he => gives_of_mem_readEntries hentries e (Table.mem_of_mem_ofList he)⟩
  | _ => cases h

/-- so nothing changes any more -/
theorem dictionary_stable (h : inner.Stable depth) : inner.dictionary.Stable (depth + 1) := by
  intro table hgives hd
  obtain ⟨hascending, hinner⟩ := dictionary_gives hgives
  refine dictionary_readsBack (fun e he => h e.2 (hinner e he) ?_) hascending
  exact doublesReread_object.1 hd _ (List.mem_map_of_mem he)

end Codec

/-! ## Records -/

namespace Fields

variable {α τ δ : Type} {depth : Nat} {inner : Codec α}

/-- what a field can come to hold: what some text is read as, or what the field is when it is left out -/
def Holds (codec : Codec α) (fallback : Option α) (depth : Nat) (a : α) : Prop :=
  codec.Gives depth a ∨ (fallback <|> codec.ifMissing) = some a

/-- each field keeps what it can come to hold: what is not written is what the field is when it is left out, and the
rest is read back, as far as that goes for the doubles in it -/
def Stable (depth : Nat) {τ δ : Type} : Fields τ δ → Prop
  | done => True
  | field _ codec fallback isOmitted rest =>
    (∀ a, Holds codec fallback depth a →
      if isOmitted a then (fallback <|> codec.ifMissing) = some a
      else (codec.toJson a).DoublesReread → codec.ReadsBack depth a a) ∧ rest.Stable depth

/-- what a draft is filled with was read -/
def Drafted (depth : Nat) {τ δ : Type} : Fields τ δ → δ → Prop
  | done, _ => True
  | field _ codec _ _ rest, (filled, draft) => (∀ a, filled = some a → codec.Gives depth a) ∧ rest.Drafted depth draft

/-- each value is one that its field can come to hold -/
def Held (depth : Nat) {τ δ : Type} : Fields τ δ → τ → Prop
  | done, _ => True
  | field _ codec fallback _ rest, (a, values) => Holds codec fallback depth a ∧ rest.Held depth values

theorem drafted_blank (fields : Fields τ δ) : fields.Drafted depth fields.blank := by
  induction fields with
  | done => trivial
  | field name codec fallback isOmitted rest ih => exact ⟨nofun, ih⟩

theorem readMember_drafted {fields : Fields τ δ} {key : String} {c past : Cursor} {draft after : δ}
    (hdraft : fields.Drafted depth draft) (h : readMember key depth c fields draft = .ok (after, past)) :
    fields.Drafted depth after := by
  induction fields with
  | done => trivial
  | field name codec fallback isOmitted rest ih =>
    obtain ⟨filled, draft⟩ := draft
    obtain ⟨hfilled, hrest⟩ := hdraft
    rw [readMember] at h
    split_ifs at h with hname hsome
    · obtain ⟨c, -, h⟩ := ok_of_bind h
      obtain ⟨⟨a, c'⟩, ha, h⟩ := ok_of_bind h
      cases h
      refine ⟨fun b hb => ?_, hrest⟩
      cases hb
      exact ⟨_, _, ha⟩
    · obtain ⟨⟨others, c'⟩, hothers, h⟩ := ok_of_bind h
      cases h
      exact ⟨hfilled, ih hrest hothers⟩

/-- members in any order, and unknown ones among them, leave a draft filled with what was read -/
theorem readMembers_drafted {fields : Fields τ δ} {fuel : Nat} {isFirst : Bool} {c past : Cursor} {draft after : δ}
    (hdraft : fields.Drafted depth draft) (h : readMembers fields depth fuel isFirst draft c = .ok (after, past)) :
    fields.Drafted depth after := by
  induction fuel generalizing isFirst c draft with
  | zero => cases h
  | succ fuel ih =>
    rw [readMembers] at h
    obtain ⟨⟨more, c⟩, -, h⟩ := ok_of_bind h
    cases more with
    | false =>
      cases h
      exact hdraft
    | true =>
      obtain ⟨⟨key, c⟩, -, h⟩ := ok_of_bind h
      obtain ⟨⟨draft', c'⟩, hmember, h⟩ := ok_of_bind h
      exact ih (readMember_drafted hdraft hmember) h

theorem finish_held {fields : Fields τ δ} {draft : δ} {values : τ} (hdraft : fields.Drafted depth draft)
    (h : fields.finish draft = .ok values) : fields.Held depth values := by
  induction fields with
  | done => trivial
  | field name codec fallback isOmitted rest ih =>
    obtain ⟨filled, draft⟩ := draft
    obtain ⟨hfilled, hrest⟩ := hdraft
    rw [finish] at h
    cases filled with
    | some a =>
      obtain ⟨others, hothers, h⟩ := ok_of_bind h
      cases h
      exact ⟨.inl (hfilled a rfl), ih hrest hothers⟩
    | none =>
      cases hmissing : (fallback <|> codec.ifMissing) with
      | none =>
        simp [hmissing] at h
      | some a =>
        simp only [hmissing] at h
        obtain ⟨others, hothers, h⟩ := ok_of_bind h
        cases h
        exact ⟨.inr hmissing, ih hrest hothers⟩

/-- a record that is given as a list has its fields read in order, and falls back where the list ends -/
theorem readList_held {fields : Fields τ δ} {expected : String} {index : Nat} {isFirst : Bool} {c past : Cursor}
    {values : τ} (h : readList expected depth index isFirst c fields = .ok (values, past)) :
    fields.Held depth values := by
  induction fields generalizing index isFirst c with
  | done => trivial
  | field name codec fallback isOmitted rest ih =>
    rw [readList] at h
    obtain ⟨⟨more, c⟩, -, h⟩ := ok_of_bind h
    cases more with
    | true =>
      obtain ⟨⟨a, c'⟩, ha, h⟩ := ok_of_bind h
      obtain ⟨⟨others, c''⟩, hothers, h⟩ := ok_of_bind h
      cases h
      exact ⟨.inl ⟨_, _, ha⟩, ih hothers⟩
    | false =>
      cases fallback with
      | none => cases h
      | some a =>
        obtain ⟨⟨others, c''⟩, hothers, h⟩ := ok_of_bind h
        cases h
        exact ⟨.inr rfl, ih hothers⟩

/-- fields that keep what they hold are read back -/
theorem Stable.readsBack {fields : Fields τ δ} (h : fields.Stable depth) {values : τ}
    (hheld : fields.Held depth values) (hd : ∀ m ∈ fields.members values, m.2.DoublesReread) :
    fields.ReadsBack depth values values := by
  induction fields with
  | done => trivial
  | field name codec fallback isOmitted rest ih =>
    obtain ⟨a, values⟩ := values
    have hfield := h.1 a hheld.1
    rw [members] at hd
    rw [Fields.ReadsBack]
    split_ifs at hd hfield ⊢ with homitted
    · exact ⟨hfield, ih h.2 hheld.2 hd⟩
    · obtain ⟨hhead, htail⟩ := List.forall_mem_cons.1 hd
      exact ⟨hfield hhead, ih h.2 hheld.2 htail⟩

/-! ### Fields -/

/-- a field that is always written keeps what its type keeps, if the fallback is read back too -/
theorem holds_written {codec : Codec α} {fallback : Option α} (h : codec.Stable depth)
    (hfallback : ∀ a, (fallback <|> codec.ifMissing) = some a → codec.Gives depth a) :
    ∀ a, Holds codec fallback depth a → (codec.toJson a).DoublesReread → codec.ReadsBack depth a a := by
  rintro a (hgives | hmissing)
  · exact h a hgives
  · exact h a (hfallback a hmissing)

/-- so does a field that is written unless it is what it falls back to -/
theorem holds_omitted {codec : Codec α} {a : α} {isOmitted : α → Bool} (h : codec.Stable depth)
    (homitted : ∀ b, isOmitted b = true ↔ b = a) : ∀ b, Holds codec (some a) depth b →
      if isOmitted b then ((some a : Option α) <|> codec.ifMissing) = some b
      else (codec.toJson b).DoublesReread → codec.ReadsBack depth b b := by
  intro b hholds
  split_ifs with hb
  · rw [(homitted b).1 hb]
    rfl
  · rcases hholds with hgives | hmissing
    · exact h b hgives
    · exact absurd ((homitted b).2 (Option.some.inj hmissing).symm) hb

/-- an optional value that is left out when there is none -/
theorem holds_optional (h : inner.optional.Stable depth) : ∀ a, Holds inner.optional (some none) depth a →
    if a.isNone then ((some none : Option (Option α)) <|> inner.optional.ifMissing) = some a
    else (inner.optional.toJson a).DoublesReread → inner.optional.ReadsBack depth a a :=
  holds_omitted h fun _ => Option.isNone_iff_eq_none

/-- a field without a fallback holds only what was read -/
theorem holds_required {codec : Codec α} (h : codec.Stable depth) (hmissing : codec.ifMissing = none) :
    ∀ a, Holds codec none depth a → (codec.toJson a).DoublesReread → codec.ReadsBack depth a a := by
  refine holds_written h fun a ha => ?_
  rw [hmissing] at ha
  cases ha

end Fields

namespace Codec

variable {σ τ δ : Type} {depth : Nat}

/-- a record that is read, in whichever form, has fields that hold what they can come to hold -/
theorem record_gives {name : String} {fields : Fields τ δ} {build : τ → σ} {parts : σ → τ} {s : σ}
    (h : (record name fields build parts).Gives (depth + 1) s) :
    ∃ values, s = build values ∧ fields.Held depth values := by
  obtain ⟨c, past, h⟩ := h
  obtain ⟨⟨found, c⟩, -, h⟩ := ok_of_bind h
  cases found with
  | list =>
    obtain ⟨⟨values, c'⟩, hvalues, h⟩ := ok_of_bind h
    cases h
    obtain ⟨before, hlist⟩ := ok_of_inList hvalues
    exact ⟨values, rfl, Fields.readList_held hlist⟩
  | map =>
    obtain ⟨⟨values, c'⟩, hvalues, h⟩ := ok_of_bind h
    cases h
    obtain ⟨before, hobject⟩ := ok_of_inObject hvalues
    obtain ⟨⟨draft, c''⟩, hdraft, hobject⟩ := ok_of_bind hobject
    have hdrafted := Fields.readMembers_drafted fields.drafted_blank hdraft
    cases hfinish : fields.finish draft with
    | error cause =>
      simp only [hfinish] at hobject
      cases hobject
    | ok done =>
      simp only [hfinish] at hobject
      cases hobject
      exact ⟨_, rfl, Fields.finish_held hdrafted hfinish⟩
  | _ => cases h

/-- **A record keeps what was read if its fields do.** -/
theorem record_stable {name : String} {fields : Fields τ δ} {build : τ → σ} {parts : σ → τ}
    (hnames : fields.names.Nodup) (hparts : ∀ values, parts (build values) = values) (h : fields.Stable depth) :
    (record name fields build parts).Stable (depth + 1) := by
  intro s hgives hd
  obtain ⟨values, rfl, hheld⟩ := record_gives hgives
  have hd : (object (fields.members (parts (build values)))).DoublesReread := hd
  refine record_readsBack hnames values rfl ?_
  rw [hparts] at hd ⊢
  exact h.readsBack hheld (doublesReread_object.1 hd)

/-! ## Whole texts -/

variable {α : Type}

/-- what a text is read as is read again from what is written of it, and as the same, if the doubles that are written
are read back -/
def Rereads (codec : Codec α) : Prop :=
  ∀ bytes a, codec.read bytes = .ok a → (codec.toJson a).DoublesReread →
    codec.read (Utf8.encode (codec.write a)) = .ok a

/-- a text is read if a document is read at its start and nothing follows -/
theorem read_eq_ok {codec : Codec α} {bytes : Bytes} {a : α} : codec.read bytes = .ok a ↔
    ∃ past, codec.fromText nestingLimit (Cursor.start bytes) = .ok (a, past) ∧ past.readEnd = .ok () := by
  rw [read]
  cases codec.fromText nestingLimit (Cursor.start bytes) with
  | error halt => exact iff_of_false (fun h => by cases h) (by simp)
  | ok r =>
    obtain ⟨b, past⟩ := r
    constructor
    · intro h
      obtain ⟨⟨b, past⟩, ⟨⟩, h⟩ := ok_of_bind h
      obtain ⟨⟨⟩, hend, h⟩ := ok_of_bind h
      cases h
      exact ⟨past, rfl, hend⟩
    · rintro ⟨past, ⟨⟩, hend⟩
      simp only [Except.mapError, bind, Except.bind, hend]
      rfl

/-- **What was read once is read again.** -/
theorem rereads {codec : Codec α} (h : codec.Stable nestingLimit) : codec.Rereads := by
  intro bytes a hread hd
  obtain ⟨past, hfirst, -⟩ := read_eq_ok.1 hread
  exact read_write (h a ⟨Cursor.start bytes, past, hfirst⟩ hd)

end Codec

end ToolGateway
