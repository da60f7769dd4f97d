import ToolGateway.Proofs.Json.Reading
import ToolGateway.Proofs.Document.Record

/-!
Documents that are read back from what was written of them.

`codec.ReadsBack depth a b` says that what is written of `a`, in whatever style, is read as `b`; the two differ where
the written form does not tell two values apart. There are two routes from a text to a document, straight on and through
the JSON value that the text stands for, and the law is about both. It is lifted from scalars through optional values,
lists, dictionaries and records.

- `optional_some`, `optional_of_null`: a value that is written `null` is read as none at all.
- `record_readsBack`: a record is read back field by field; a field that is left out must have the fallback that it is
  read as.
- `read_laid`, `read_free_laid`: the law about whole texts, for either route; `read_write`: for the compact form, and
  `read_pretty`, `read_free_pretty`: for the form with a line for each entry.
-/

namespace ToolGateway

open Utf8 Json Cursor

/-! ## What stands at the cursor -/

namespace Cursor

variable {c : Cursor} {rest : Bytes} {more : List Char}

/-- a scalar is found where it is read as a value -/
theorem readFound_of_readValue {fuel depth : Nat} {j : Json} {past : Cursor}
    (h : readValue (fuel + 1) depth c = .ok (j, past)) (hscalar : j.depth = 0) : c.readFound = .ok (j.found, past) := by
  unfold readValue at h
  unfold readFound
  simp only at h ⊢
  cases hpeek : c.skipBlanks.peek? with
  | none =>
    rw [hpeek] at h
    cases h
  | some b =>
    rw [hpeek] at h
    simp only at h ⊢
    split_ifs at h ⊢
    · obtain ⟨after, hword, h⟩ := ok_of_bind h
      cases h
      rw [hword]
      rfl
    · obtain ⟨after, hword, h⟩ := ok_of_bind h
      cases h
      rw [hword]
      rfl
    · obtain ⟨after, hword, h⟩ := ok_of_bind h
      cases h
      rw [hword]
      rfl
    · obtain ⟨⟨n, after⟩, hnumber, h⟩ := ok_of_bind h
      cases h
      rw [hnumber]
      rfl
    · obtain ⟨⟨n, after⟩, hnumber, h⟩ := ok_of_bind h
      cases h
      rw [hnumber]
      rfl
    · obtain ⟨⟨s, after⟩, hstring, h⟩ := ok_of_bind h
      cases h
      rw [hstring]
      rfl
    · cases depth with
      | zero => cases h
      | succ depth =>
        obtain ⟨⟨items, after⟩, -, h⟩ := ok_of_bind h
        cases h
        cases hscalar
    · cases depth with
      | zero => cases h
      | succ depth =>
        obtain ⟨⟨members, after⟩, -, h⟩ := ok_of_bind h
        cases h
        cases hscalar
    · cases h

/-- a scalar is found past the blanks in front of it -/
theorem readFound_skipBlanks (c : Cursor) : c.skipBlanks.readFound = c.readFound := by
  unfold readFound
  rw [skipBlanks_skipBlanks]

theorem readFound_scalar {j : Json} (hj : j.Writable 0) (hscalar : j.depth = 0) (hr : EndsNumber rest)
    (h : c.Faces j.chars rest) : ∃ past : Cursor, past.rest = rest ∧ c.readFound = .ok (j.found, past) := by
  have hstands := standsFor_laid hj Style.compact 0
  rw [laid_compact, reread_scalar hscalar] at hstands
  obtain ⟨past, hpast, hread⟩ := readJson_of_standsFor hstands hr h
  exact ⟨past, hpast, readFound_of_readValue hread hscalar⟩

theorem readFound_map (h : c.Faces ('\x7b' :: more) rest) : c.readFound = .ok (.map, c.skipBlanks) := by
  have hopen : encodeChar '\x7b' = [0x7B] := by decide
  rw [readFound]
  simp only
  rw [At.peek h hopen]
  rfl

theorem readFound_list (h : c.Faces ('[' :: more) rest) : c.readFound = .ok (.list, c.skipBlanks) := by
  have hopen : encodeChar '[' = [0x5B] := by decide
  rw [readFound]
  simp only
  rw [At.peek h hopen]
  rfl

theorem closeList_at (h : c.At (']' :: more) rest) :
    ∃ past : Cursor, past.At more rest ∧ c.closeList = .ok past := by
  have hclose : encodeChar ']' = [0x5D] := by decide
  refine ⟨c.step, h.step hclose, ?_⟩
  rw [closeList, h.skipBlanks hclose (by decide), h.peek hclose]
  rfl

theorem closeObject_at (h : c.At ('\x7d' :: more) rest) :
    ∃ past : Cursor, past.At more rest ∧ c.closeObject = .ok past := by
  have hclose : encodeChar '\x7d' = [0x7D] := by decide
  refine ⟨c.step, h.step hclose, ?_⟩
  rw [closeObject, h.skipBlanks hclose (by decide), h.peek hclose]
  rfl

end Cursor

namespace Json

/-- no value starts with a blank or as a list ends, and only `null` starts as `null` does -/
theorem laid_head (style : Style) (level : Nat) (j : Json) :
    ∃ char tail b, j.laid style level = char :: tail ∧ encodeChar char = [b] ∧ isBlank b = false ∧ b ≠ 0x5D ∧
      (b = 0x6E ↔ j.isNull = true) := by
  cases j with
  | null => exact ⟨'n', _, 0x6E, rfl, by decide, by decide, by decide, by decide⟩
  | bool b =>
    cases b
    · exact ⟨'f', _, 0x66, rfl, by decide, by decide, by decide, by decide⟩
    · exact ⟨'t', _, 0x74, rfl, by decide, by decide, by decide, by decide⟩
  | number n =>
    obtain ⟨d, more, hbody, hd⟩ := n.body_head
    rw [laid, Number.chars_eq, hbody]
    by_cases hneg : n.isNegative = true
    · rw [if_pos hneg]
      exact ⟨'-', _, 0x2D, rfl, by decide, by decide, by decide, by simp [isNull]⟩
    · rw [if_neg hneg]
      obtain ⟨hb, hvalue, hlow, hhigh⟩ := isDigit_toUInt8 hd
      refine ⟨d, more, _, rfl, hb, ?_, ?_, ?_⟩
      · simp only [isBlank, Bool.or_eq_false_iff, decide_eq_false_iff_not, ← UInt8.toNat_inj, hvalue]
        refine ⟨⟨⟨?_, ?_⟩, ?_⟩, ?_⟩ <;>
          · simp only [UInt8.reduceToNat]
            omega
      · simp only [ne_eq, ← UInt8.toNat_inj, hvalue, UInt8.reduceToNat]
        omega
      · simp only [isNull, Bool.false_eq_true, iff_false, ← UInt8.toNat_inj, hvalue, UInt8.reduceToNat]
        omega
  | string s => exact ⟨'"', _, 0x22, rfl, by decide, by decide, by decide, by simp [isNull]⟩
  | array items => exact ⟨'[', _, 0x5B, rfl, by decide, by decide, by decide, by simp [isNull]⟩
  | object members => exact ⟨'\x7b', _, 0x7B, rfl, by decide, by decide, by decide, by simp [isNull]⟩

theorem laid_startsValue (style : Style) (level : Nat) (j : Json) : StartsValue (j.laid style level) := by
  obtain ⟨char, tail, b, hchars, hb, hblank, hclose, -⟩ := laid_head style level j
  exact ⟨char, tail, b, hchars, hb, hblank, hclose⟩

theorem length_le_separated (texts : List (List Char)) (isFirst : Bool) (h : ∀ text ∈ texts, 0 < text.length) :
    texts.length ≤ (separated isFirst texts).length := by
  induction texts generalizing isFirst with
  | nil => simp
  | cons text texts ih =>
    have hpos := h text List.mem_cons_self
    have := ih false fun t ht => h t (List.mem_cons_of_mem _ ht)
    simp only [separated, List.length_cons, List.length_append]
    omega

/-- each of the texts that stand at a cursor, behind `b`, takes an octet at least -/
theorem length_le_rest {texts : List (List Char)} (hpos : ∀ text ∈ texts, 0 < text.length) {b tail : List Char}
    {c : Cursor} {rest : Bytes} (h : c.At (b ++ (separated true texts ++ tail)) rest) :
    texts.length ≤ c.rest.length := by
  have h1 := length_le_separated texts true hpos
  have h2 := length_le_octets (separated true texts)
  rw [h]
  simp only [octets_append, List.length_append]
  omega

theorem length_members_le {style : Style} {level : Nat} {g : Gaps} {members : List (String × Json)}
    {b tail : List Char} {c : Cursor} {rest : Bytes}
    (h : c.At (b ++ (separated true (members.map (g.entry ++ memberLaid style level g ·)) ++ tail)) rest) :
    members.length ≤ c.rest.length := by
  have hpos : ∀ text ∈ members.map (g.entry ++ memberLaid style level g ·), 0 < text.length := by
    intro text htext
    obtain ⟨m, -, rfl⟩ := List.mem_map.1 htext
    simp [memberLaid, Gaps.memberText, memberText, quotedChars]
  have hle := length_le_rest hpos h
  rwa [List.length_map] at hle

theorem isNull_reread (j : Json) : j.reread.isNull = j.isNull := by
  cases j <;> rfl

end Json

namespace Codec

variable {α β : Type} {depth : Nat}

/-- what is written of `a` is read as `b` where `depth` containers may be opened, whatever the style, whatever blanks
stand in front of it and whatever comes behind it, straight on or through the value that it stands for -/
structure ReadsBack (codec : Codec α) (depth : Nat) (a b : α) : Prop where
  writable : (codec.toJson a).Writable depth
  straight : ∀ (style : Style) (level : Nat) (c : Cursor) (rest : Bytes), EndsNumber rest →
    c.Faces ((codec.toJson a).laid style level) rest →
      ∃ past : Cursor, past.rest = rest ∧ codec.fromText depth c = .ok (b, past)
  byValue : codec.fromJson (codec.toJson a).reread = .ok b

/-! ## Scalars, free values, optional values -/

/-- a scalar is read back if it is judged to be what it was written of -/
theorem scalar_readsBack {judge : Found → Except Misfit α} {toJson : α → Json} {a : α} (hj : (toJson a).Writable 0)
    (hscalar : (toJson a).depth = 0) (hjudge : judge (toJson a).found = .ok a) :
    (scalar judge toJson).ReadsBack depth a a where
  writable := ⟨hj.numbers, Nat.le_trans hj.nested (Nat.zero_le _)⟩
  straight style level c rest hr hc := by
    have hc : c.Faces ((toJson a).laid style level) rest := hc
    rw [laid_scalar style level hscalar] at hc
    obtain ⟨past, hpast, hread⟩ := readFound_scalar hj hscalar hr hc
    refine ⟨past, hpast, ?_⟩
    simp only [scalar, hread, placing, Except.mapError, bind, Except.bind, hjudge]
    rfl
  byValue := by
    simp only [scalar, reread_scalar hscalar, hjudge]
    rfl

theorem textNamed_readsBack (expected s : String) (depth : Nat) : (textNamed expected).ReadsBack depth s s :=
  scalar_readsBack ⟨by simp [Everywhere], Nat.le_refl _⟩ rfl rfl

theorem text_readsBack (s : String) (depth : Nat) : text.ReadsBack depth s s :=
  textNamed_readsBack _ s depth

theorem flag_readsBack (value : Bool) (depth : Nat) : flag.ReadsBack depth value value :=
  scalar_readsBack ⟨by simp [Everywhere], Nat.le_refl _⟩ rfl rfl

theorem glyph_readsBack (char : Char) (depth : Nat) : glyph.ReadsBack depth char char := by
  refine scalar_readsBack ⟨by simp [Everywhere], Nat.le_refl _⟩ rfl ?_
  simp [found, String.toList_singleton]

theorem count_readsBack {n : Nat} (h : (Number.int n).Fits) (expected : String) (depth : Nat) :
    (count expected).ReadsBack depth n n := by
  refine scalar_readsBack ⟨by simpa [Json.nat, Everywhere] using Number.isReadBack_int h, Nat.le_refl _⟩ rfl ?_
  simp [Json.nat, found]

theorem choice_readsBack {variants : List (String × α)} {name : α → String} {a : α}
    (h : variants.lookup (name a) = some a) (depth : Nat) : (choice variants name).ReadsBack depth a a where
  writable := ⟨by simp [choice, Everywhere], Nat.zero_le _⟩
  straight style level c rest hr hc := by
    have hstring : (Json.string (name a)).Writable 0 := ⟨by simp [Everywhere], Nat.le_refl _⟩
    have hquote : encodeChar '"' = [0x22] := by decide
    have hc : c.Faces (quotedChars (name a)) rest := hc
    obtain ⟨past, hpast, hread⟩ := readFound_scalar hstring rfl hr hc
    rw [← readFound_skipBlanks] at hread
    refine ⟨past, hpast, ?_⟩
    simp only [choice, At.peek hc hquote, if_true, variantName, scalar, hread, placing, Except.mapError, bind,
      Except.bind, found, choose, h]
    rfl
  byValue := by
    simp only [choice, reread, choose, h]
    rfl

theorem free_readsBack {j : Json} (h : j.Readable) (hd : j.DoublesReread) (hdepth : j.depth ≤ depth) :
    free.ReadsBack depth j j where
  writable := h.writable hd hdepth
  straight style level c rest hr hc := by
    have hstands := standsFor_laid (h.writable hd hdepth) style level
    rw [h.reread_eq] at hstands
    obtain ⟨past, hpast, hread⟩ := readJson_of_standsFor hstands hr hc
    refine ⟨past, hpast, ?_⟩
    simp only [free, hread, placing]
    rfl
  byValue := congrArg Except.ok h.reread_eq

variable {inner : Codec α}

theorem optional_of_null {a : Option α} (h : (inner.optional.toJson a) = null) :
    inner.optional.ReadsBack depth a none where
  writable := by
    rw [h]
    exact ⟨by simp [Everywhere], Nat.zero_le _⟩
  straight style level c rest _ hc := by
    rw [h] at hc
    have hn : encodeChar 'n' = [0x6E] := by decide
    obtain ⟨past, hpast, hread⟩ := readWord_at [0x75, 0x6C, 0x6C] (At.step hc hn)
    refine ⟨past, hpast, ?_⟩
    simp only [optional, At.peek hc hn, if_true, hread, placing]
    rfl
  byValue := by
    rw [h]
    rfl

theorem optional_some {a b : α} (h : inner.ReadsBack depth a b) (hne : (inner.toJson a).isNull = false) :
    inner.optional.ReadsBack depth (some a) (some b) where
  writable := h.writable
  straight style level c rest hr hc := by
    have hc : c.Faces ((inner.toJson a).laid style level) rest := hc
    obtain ⟨past, hpast, hread⟩ := h.straight style level c.skipBlanks rest hr hc.skipBlanks
    refine ⟨past, hpast, ?_⟩
    obtain ⟨char, tail, octet, hchars, hb, hblank, -, hnull⟩ := laid_head style level (inner.toJson a)
    rw [hchars] at hc
    have hother : ¬ some octet = some 0x6E := fun heq => by
      rw [hnull.1 (Option.some.inj heq)] at hne
      cases hne
    simp only [optional, At.peek hc hb, if_neg hother, hread]
    rfl
  byValue := by
    have hwritten : (inner.optional.toJson (some a)).reread.isNull = false := (isNull_reread _).trans hne
    have hread : inner.fromJson (inner.optional.toJson (some a)).reread = .ok b := h.byValue
    simp only [optional] at hwritten hread ⊢
    rw [hwritten, hread]
    rfl

/-- a document in another form is read back if the form that is written is, and is viewed as what it was written of -/
theorem through_readsBack {view : α → Except Misfit β} {form : β → α} {b : β} {a : α}
    (h : inner.ReadsBack depth (form b) a) (hview : view a = .ok b) :
    (through inner view form).ReadsBack depth b b where
  writable := h.writable
  straight style level c rest hr hc := by
    obtain ⟨past, hpast, hread⟩ := h.straight style level c rest hr hc
    refine ⟨past, hpast, ?_⟩
    simp only [through, hread, bind, Except.bind, hview]
    rfl
  byValue := by
    simp only [through, h.byValue, bind, Except.bind, hview]
    rfl

/-! ## Lists -/

theorem list_laid (inner : Codec α) (items : List α) (style : Style) (level : Nat) :
    (inner.list.toJson items).laid style level = '[' :: ((style level).enclosed
      (items.map fun a => (inner.toJson a).laid style (level + 1)) ++ [']']) := by
  rw [list, laid_array, List.map_map]
  rfl

theorem readItems_separated (style : Style) (level : Nat) (g : Gaps) {close : List Char} (hclose : IsGap close)
    {items : List α} (hall : ∀ a ∈ items, inner.ReadsBack depth a a) {fuel : Nat} {isFirst : Bool} {c : Cursor}
    {rest : Bytes} (hfuel : items.length < fuel)
    (hc : c.At (separated isFirst (items.map fun a => g.entry ++ (inner.toJson a).laid style level) ++
      (close ++ [']'])) rest) :
    ∃ past : Cursor, past.At [']'] rest ∧ readItems inner depth fuel isFirst c = .ok (items, past) := by
  induction items generalizing fuel isFirst c with
  | nil =>
    obtain ⟨fuel, rfl⟩ : ∃ n, fuel = n + 1 := ⟨fuel - 1, by omega⟩
    obtain ⟨last, hlast, hnone⟩ := nextItem_close isFirst
      (faces_of_gap hclose (b := 0x5D) (by decide) (by decide) hc)
    refine ⟨last, hlast, ?_⟩
    rw [readItems, hnone]
    rfl
  | cons a items ih =>
    simp only [List.map_cons, separated, List.append_assoc, List.length_cons] at hfuel hc
    obtain ⟨fuel, rfl⟩ : ∃ n, fuel = n + 1 := ⟨fuel - 1, by omega⟩
    have hstarts := laid_startsValue style level (inner.toJson a)
    obtain ⟨next, hnext, hmore⟩ := nextItem_item g.isGap_entry hstarts hc
    have hfaces := hstarts.faces isGap_nil hnext
    obtain ⟨mid, hmid, hvalue⟩ := (hall a List.mem_cons_self).straight style level next _
      (endsNumber_separated (.inl rfl) hclose _) (faces_append.1 hfaces)
    obtain ⟨last, hlast, hrest⟩ := ih (fun a ha => hall a (List.mem_cons_of_mem _ ha)) (Nat.lt_of_succ_lt_succ hfuel)
      hmid
    refine ⟨last, hlast, ?_⟩
    rw [readItems, hmore]
    simp only [placing, Except.mapError, bind, Except.bind, if_true, hvalue, hrest]
    rfl

theorem itemsFromJson_reread {items : List α} (hall : ∀ a ∈ items, inner.ReadsBack depth a a) (index : Nat) :
    itemsFromJson inner index (items.map fun a => (inner.toJson a).reread) = .ok items := by
  induction items generalizing index with
  | nil => rfl
  | cons a items ih =>
    have hrest := ih (fun a ha => hall a (List.mem_cons_of_mem _ ha)) (index + 1)
    rw [List.map_cons, itemsFromJson, (hall a List.mem_cons_self).byValue]
    simp only [Except.mapError, bind, Except.bind, hrest]
    rfl

/-- a list is read back when its items are -/
theorem list_readsBack {items : List α} (hall : ∀ a ∈ items, inner.ReadsBack depth a a) :
    inner.list.ReadsBack (depth + 1) items items where
  writable := by
    refine writable_array.2 fun j hj => ?_
    obtain ⟨a, ha, rfl⟩ := List.mem_map.1 hj
    exact (hall a ha).writable
  straight style level c rest _ hc := by
    rw [list_laid, Gaps.enclosed, List.map_map, List.append_assoc] at hc
    have hstep := At.step hc (b := 0x5B) (by decide)
    have hfuel : items.length < c.skipBlanks.rest.length + 1 := by
      have hpos : ∀ text ∈ items.map fun a => (style level).entry ++ (inner.toJson a).laid style (level + 1),
          0 < text.length := by
        intro text htext
        obtain ⟨a, -, rfl⟩ := List.mem_map.1 htext
        rw [List.length_append]
        exact Nat.add_pos_right _ (laid_startsValue style (level + 1) (inner.toJson a)).length_pos
      have hle := length_le_rest (b := ['[']) hpos hc
      rw [List.length_map] at hle
      exact Nat.lt_succ_of_le hle
    obtain ⟨mid, hmid, hread⟩ := readItems_separated style (level + 1) (style level) ((style level).isGap_ending _)
      hall hfuel hstep
    obtain ⟨past, hpast, hclose⟩ := closeList_at hmid
    refine ⟨past, hpast, ?_⟩
    simp only [list, readFound_list hc, placing, Except.mapError, bind, Except.bind, hread, inList, hclose, Except.map]
  byValue := by
    simp only [list, reread, rereadItems_eq_map, List.map_map]
    exact itemsFromJson_reread hall 0

/-! ## Dictionaries -/

theorem dictionary_laid (inner : Codec α) (entries : Table String α) (style : Style) (level : Nat) :
    (inner.dictionary.toJson entries).laid style level = '\x7b' :: ((style level).enclosed
      ((entries.map fun e => (e.1, inner.toJson e.2)).map (memberLaid style (level + 1) (style level))) ++
        ['\x7d']) :=
  laid_object style level _

theorem readEntries_separated (style : Style) (level : Nat) (g : Gaps) {close : List Char} (hclose : IsGap close)
    {entries : List (String × α)} (hall : ∀ e ∈ entries, inner.ReadsBack depth e.2 e.2) {fuel : Nat} {isFirst : Bool}
    {c : Cursor} {rest : Bytes} (hfuel : entries.length < fuel)
    (hc : c.At (separated isFirst ((entries.map fun e => (e.1, inner.toJson e.2)).map
      (g.entry ++ memberLaid style level g ·)) ++ (close ++ ['\x7d'])) rest) :
    ∃ past : Cursor, past.At ['\x7d'] rest ∧ readEntries inner depth fuel isFirst c = .ok (entries, past) := by
  induction entries generalizing fuel isFirst c with
  | nil =>
    obtain ⟨fuel, rfl⟩ : ∃ n, fuel = n + 1 := ⟨fuel - 1, by omega⟩
    obtain ⟨last, hlast, hnone⟩ := nextKey_close isFirst
      (faces_of_gap hclose (b := 0x7D) (by decide) (by decide) hc)
    refine ⟨last, hlast, ?_⟩
    rw [readEntries, hnone]
    rfl
  | cons e entries ih =>
    obtain ⟨key, a⟩ := e
    simp only [List.map_cons, separated, memberLaid_mk, List.append_assoc, List.cons_append, List.length_cons]
      at hfuel hc
    obtain ⟨fuel, rfl⟩ : ∃ n, fuel = n + 1 := ⟨fuel - 1, by omega⟩
    obtain ⟨next, past, hmore, hkey, hpast⟩ := nextKey_key g.isGap_entry hc
    obtain ⟨colon, hcolon, hreadColon⟩ := readColon_at hpast
    have hfaces := (laid_startsValue style level (inner.toJson a)).faces g.isGap_value hcolon
    obtain ⟨mid, hmid, hvalue⟩ := (hall (key, a) List.mem_cons_self).straight style level colon _
      (endsNumber_separated (.inr rfl) hclose _) (faces_append.1 hfaces)
    obtain ⟨last, hlast, hrest⟩ := ih (fun e he => hall e (List.mem_cons_of_mem _ he)) (Nat.lt_of_succ_lt_succ hfuel)
      hmid
    refine ⟨last, hlast, ?_⟩
    rw [readEntries, hmore]
    simp only [placing, Except.mapError, bind, Except.bind, if_true, hkey, hreadColon, hvalue, hrest]
    rfl

theorem entriesFromJson_reread {entries : List (String × α)} (hall : ∀ e ∈ entries, inner.ReadsBack depth e.2 e.2) :
    entriesFromJson inner (entries.map fun e => (e.1, (inner.toJson e.2).reread)) = .ok entries := by
  induction entries with
  | nil => rfl
  | cons e entries ih =>
    have hrest := ih fun e he => hall e (List.mem_cons_of_mem _ he)
    rw [List.map_cons, entriesFromJson, (hall e List.mem_cons_self).byValue]
    simp only [Except.mapError, bind, Except.bind, hrest]
    rfl

/-- a dictionary is read back when its values are -/
theorem dictionary_readsBack {entries : Table String α} (hall : ∀ e ∈ entries, inner.ReadsBack depth e.2 e.2)
    (hascending : Table.Ascending entries) : inner.dictionary.ReadsBack (depth + 1) entries entries where
  writable := by
    refine writable_object.2 fun m hm => ?_
    obtain ⟨e, he, rfl⟩ := List.mem_map.1 hm
    exact (hall e he).writable
  straight style level c rest _ hc := by
    rw [dictionary_laid, Gaps.enclosed, List.map_map, List.append_assoc] at hc
    have hstep := At.step hc (b := 0x7B) (by decide)
    have hfuel : entries.length < c.skipBlanks.rest.length + 1 := by
      have hle := length_members_le (b := ['\x7b']) hc
      rw [List.length_map] at hle
      exact Nat.lt_succ_of_le hle
    obtain ⟨mid, hmid, hread⟩ := readEntries_separated style (level + 1) (style level) ((style level).isGap_ending _)
      hall hfuel hstep
    obtain ⟨past, hpast, hclose⟩ := closeObject_at hmid
    refine ⟨past, hpast, ?_⟩
    simp only [dictionary, readFound_map hc, placing, Except.mapError, bind, Except.bind, hread, inObject, hclose,
      Except.map, Table.ofList_eq_self hascending]
    rfl
  byValue := by
    have hkeys : Table.Ascending (entries.map fun e => (e.1, (inner.toJson e.2).reread)) :=
      hascending.map _ fun _ _ hlt => hlt
    simp only [dictionary, reread, rereadMembers_eq_map, List.map_map, ofMembers, Function.comp_def]
    rw [Table.ofList_eq_self hkeys, entriesFromJson_reread hall]
    exact congrArg Except.ok (Table.ofList_eq_self hascending)

end Codec

/-! ## Records -/

namespace Fields

variable {α τ δ : Type} {depth : Nat}

/-- what is written of the fields of `a` is read as the fields of `b`: a field that is left out falls back to it -/
def ReadsBack (depth : Nat) {τ δ : Type} : Fields τ δ → τ → τ → Prop
  | done, _, _ => True
  | field _ codec fallback isOmitted rest, (a, as), (b, bs) =>
    (if isOmitted a then (fallback <|> codec.ifMissing) = some b else codec.ReadsBack depth a b) ∧
      rest.ReadsBack depth as bs

theorem name_mem_of_mem_members {fields : Fields τ δ} {a : τ} {m : String × Json} (h : m ∈ fields.members a) :
    m.1 ∈ fields.names := by
  induction fields with
  | done => cases h
  | field name codec fallback isOmitted rest ih =>
    obtain ⟨a, as⟩ := a
    rw [members] at h
    rw [names]
    split_ifs at h
    · exact List.mem_cons_of_mem _ (ih h)
    · rcases List.mem_cons.1 h with rfl | h
      · exact List.mem_cons_self
      · exact List.mem_cons_of_mem _ (ih h)

/-- a member of a field and further ones belongs to the one or the other, as its name says -/
theorem mem_members_field {β : Type} {name : String} {codec : Codec β} {fallback : Option β} {isOmitted : β → Bool}
    {inner : Fields τ δ} (hfresh : name ∉ inner.names) {a : β} {as : τ} {m : String × Json}
    (hm : m ∈ (field name codec fallback isOmitted inner).members (a, as)) :
    (¬ isOmitted a = true ∧ m = (name, codec.toJson a)) ∨ (m.1 ≠ name ∧ m ∈ inner.members as) := by
  have hother : m ∈ inner.members as → m.1 ≠ name := fun h heq => hfresh (heq ▸ name_mem_of_mem_members h)
  rw [members] at hm
  split_ifs at hm with homitted
  · exact .inr ⟨hother hm, hm⟩
  · rcases List.mem_cons.1 hm with rfl | hm
    · exact .inl ⟨homitted, rfl⟩
    · exact .inr ⟨hother hm, hm⟩

theorem writable_members {fields : Fields τ δ} {a b : τ} (hback : fields.ReadsBack depth a b) :
    ∀ m ∈ fields.members a, m.2.Writable depth := by
  induction fields with
  | done => exact fun m hm => nomatch hm
  | field name codec fallback isOmitted inner ih =>
    obtain ⟨a, as⟩ := a
    obtain ⟨b, bs⟩ := b
    obtain ⟨hhead, htail⟩ := hback
    intro m hm
    rw [members] at hm
    split_ifs at hm with homitted
    · exact ih htail m hm
    · rw [if_neg homitted] at hhead
      rcases List.mem_cons.1 hm with rfl | hm
      · exact hhead.writable
      · exact ih htail m hm

/-- a member fills its own field and no other -/
theorem readMember_fill (style : Style) (level : Nat) (g : Gaps) {fields : Fields τ δ} (hnames : fields.names.Nodup)
    {a b : τ} (hback : fields.ReadsBack depth a b) {m : String × Json} (hm : m ∈ fields.members a) {seen : List String}
    (hnew : m.1 ∉ seen) {c : Cursor} {rest : Bytes} (hr : EndsNumber rest)
    (hc : c.At (':' :: (g.value ++ m.2.laid style level)) rest) :
    ∃ past : Cursor, past.rest = rest ∧
      readMember m.1 depth c fields (fields.fill b seen) = .ok (fields.fill b (m.1 :: seen), past) := by
  induction fields with
  | done => cases hm
  | field name codec fallback isOmitted inner ih =>
    obtain ⟨a, as⟩ := a
    obtain ⟨b, bs⟩ := b
    obtain ⟨hhead, htail⟩ := hback
    obtain ⟨hfresh, hinner⟩ := List.nodup_cons.1 hnames
    rcases mem_members_field hfresh hm with ⟨homitted, rfl⟩ | ⟨hname, hm⟩
    · rw [if_neg homitted] at hhead
      obtain ⟨colon, hcolon, hreadColon⟩ := readColon_at hc
      rw [← List.append_nil ((codec.toJson a).laid style level)] at hcolon
      have hfaces := (laid_startsValue style level (codec.toJson a)).faces g.isGap_value hcolon
      rw [List.append_nil] at hfaces
      obtain ⟨past, hpast, hread⟩ := hhead.straight style level colon rest hr hfaces
      refine ⟨past, hpast, ?_⟩
      simp only at hnew
      simp only [fill, readMember, if_true, if_neg hnew, Option.isSome_none, Bool.false_eq_true, if_false, placing,
        hreadColon, Except.mapError, bind, Except.bind, hread, List.mem_cons_self, fill_cons_of_not_mem hfresh]
      rfl
    · obtain ⟨past, hpast, hread⟩ := ih hinner htail hm
      refine ⟨past, hpast, ?_⟩
      simp only [fill, readMember, if_neg hname, hread, bind, Except.bind, List.mem_cons, Ne.symm hname, false_or]
      rfl

/-- reading all members fills all fields that were written -/
theorem readMembers_fill (style : Style) (level : Nat) (g : Gaps) {close : List Char} (hclose : IsGap close)
    {fields : Fields τ δ} (hnames : fields.names.Nodup) {a b : τ} (hback : fields.ReadsBack depth a b)
    {ms : List (String × Json)} (hms : ∀ m ∈ ms, m ∈ fields.members a) (seen : List String)
    (hnew : (ms.map (·.1)).Nodup ∧ ∀ m ∈ ms, m.1 ∉ seen) {fuel : Nat} (hfuel : ms.length < fuel) {isFirst : Bool}
    {c : Cursor} {rest : Bytes}
    (hc : c.At (separated isFirst (ms.map (g.entry ++ memberLaid style level g ·)) ++ (close ++ ['\x7d'])) rest) :
    ∃ past : Cursor, past.At ['\x7d'] rest ∧
      readMembers fields depth fuel isFirst (fields.fill b seen) c =
        .ok (fields.fill b ((ms.map (·.1)).reverse ++ seen), past) := by
  induction ms generalizing seen fuel isFirst c with
  | nil =>
    obtain ⟨fuel, rfl⟩ : ∃ n, fuel = n + 1 := ⟨fuel - 1, by omega⟩
    obtain ⟨last, hlast, hnone⟩ := nextKey_close isFirst
      (faces_of_gap hclose (b := 0x7D) (by decide) (by decide) hc)
    refine ⟨last, hlast, ?_⟩
    rw [readMembers, hnone]
    rfl
  | cons m ms ih =>
    obtain ⟨key, j⟩ := m
    simp only [List.map_cons, separated, memberLaid_mk, List.append_assoc, List.cons_append, List.length_cons]
      at hfuel hc
    obtain ⟨fuel, rfl⟩ : ∃ n, fuel = n + 1 := ⟨fuel - 1, by omega⟩
    obtain ⟨next, past, hmore, hkey, hpast⟩ := nextKey_key g.isGap_entry hc
    rw [← List.append_assoc, ← List.cons_append] at hpast
    obtain ⟨mid, hmid, hmember⟩ := readMember_fill style level g hnames hback (hms (key, j) List.mem_cons_self)
      (hnew.2 (key, j) List.mem_cons_self) (endsNumber_separated (.inr rfl) hclose _) (at_append.1 hpast)
    obtain ⟨last, hlast, hrest⟩ := ih (fun n hn => hms n (List.mem_cons_of_mem _ hn)) (key :: seen) (new_cons hnew)
      (Nat.lt_of_succ_lt_succ hfuel) hmid
    refine ⟨last, hlast, ?_⟩
    rw [readMembers, hmore]
    simp only [placing, Except.mapError, bind, Except.bind, if_true, hkey, hmember, hrest]
    simp

theorem nodup_members {fields : Fields τ δ} (hnames : fields.names.Nodup) (a : τ) :
    ((fields.members a).map (·.1)).Nodup := by
  induction fields with
  | done => exact List.nodup_nil
  | field name codec fallback isOmitted inner ih =>
    obtain ⟨a, as⟩ := a
    obtain ⟨hfresh, hinner⟩ := List.nodup_cons.1 hnames
    rw [members]
    split_ifs
    · exact ih hinner as
    · refine List.nodup_cons.2 ⟨fun hmem => ?_, ih hinner as⟩
      obtain ⟨m, hm, hname⟩ := List.mem_map.1 hmem
      have hmem := name_mem_of_mem_members hm
      rw [hname] at hmem
      exact hfresh hmem

/-- the members that were written are read back, and a field that was not written falls back -/
theorem takenFrom_written {fields : Fields τ δ} (hnames : fields.names.Nodup) {a b : τ}
    (hback : fields.ReadsBack depth a b) {found : String → Option Json}
    (hwritten : ∀ m ∈ fields.members a, found m.1 = some m.2.reread)
    (hother : ∀ name ∈ fields.names, (∀ m ∈ fields.members a, m.1 ≠ name) → found name = none) :
    fields.TakenFrom found b := by
  induction fields with
  | done => trivial
  | field name codec fallback isOmitted inner ih =>
    obtain ⟨a, as⟩ := a
    obtain ⟨b, bs⟩ := b
    obtain ⟨hhead, htail⟩ := hback
    obtain ⟨hfresh, hinner⟩ := List.nodup_cons.1 hnames
    have hne : ∀ other ∈ inner.names, name ≠ other := fun other hmem heq => hfresh (heq ▸ hmem)
    rw [members] at hwritten hother
    split_ifs at hhead hwritten hother with homitted
    · have hnone : found name = none :=
        hother name List.mem_cons_self fun m hm heq => hfresh (heq ▸ name_mem_of_mem_members hm)
      refine ⟨fun j hj => ?_, fun _ => hhead, ih hinner htail hwritten fun other hmem =>
        hother other (List.mem_cons_of_mem _ hmem)⟩
      rw [hnone] at hj
      cases hj
    · have hsome := hwritten (name, codec.toJson a) List.mem_cons_self
      refine ⟨fun j hj => ?_, fun hnone => ?_, ih hinner htail (fun m hm => hwritten m (List.mem_cons_of_mem _ hm))
        fun other hmem hnot => hother other (List.mem_cons_of_mem _ hmem) fun m hm => ?_⟩
      · cases hsome.symm.trans hj
        exact hhead.byValue
      · cases hsome.symm.trans hnone
      · rcases List.mem_cons.1 hm with rfl | hm
        · exact hne other hmem
        · exact hnot m hm

/-- putting the members in order loses none of them, since their names are distinct -/
theorem takenFrom_ofList {fields : Fields τ δ} (hnames : fields.names.Nodup) {a b : τ}
    (hback : fields.ReadsBack depth a b) :
    fields.TakenFrom (fun key => Table.find? key (Table.ofList (rereadMembers (fields.members a)))) b := by
  have hmap := rereadMembers_eq_map (fields.members a)
  have hdistinct : ((rereadMembers (fields.members a)).map (·.1)).Nodup := by
    rw [hmap, List.map_map]
    exact nodup_members hnames a
  have hsorted := Table.ofList_perm hdistinct
  refine takenFrom_written hnames hback (fun m hm => ?_) fun name _ hnot => Table.find?_eq_none fun m hm => ?_
  · refine Table.find?_of_mem (Table.ofList_ascending _).nodup (hsorted.mem_iff.2 ?_)
    rw [hmap]
    exact List.mem_map_of_mem hm
  · rw [hsorted.mem_iff, hmap] at hm
    obtain ⟨written, hmem, rfl⟩ := List.mem_map.1 hm
    exact hnot written hmem

end Fields

namespace Codec

variable {σ τ δ : Type} {depth : Nat}

/-- **A record is read back field by field.** -/
theorem record_readsBack {name : String} {fields : Fields τ δ} {build : τ → σ} {parts : σ → τ}
    (hnames : fields.names.Nodup) {s s' : σ} (b : τ) (hbuild : build b = s')
    (hback : fields.ReadsBack depth (parts s) b) :
    (record name fields build parts).ReadsBack (depth + 1) s s' where
  writable := writable_object.2 (Fields.writable_members hback)
  straight style level c rest _ hc := by
    subst hbuild
    have hlaid : ((record name fields build parts).toJson s).laid style level = '\x7b' :: ((style level).enclosed
        ((fields.members (parts s)).map (memberLaid style (level + 1) (style level))) ++ ['\x7d']) :=
      laid_object style level _
    rw [hlaid, Gaps.enclosed, List.map_map, List.append_assoc] at hc
    have hstep := At.step hc (b := 0x7B) (by decide)
    have hfuel : (fields.members (parts s)).length < c.skipBlanks.step.rest.length + 1 :=
      Nat.lt_succ_of_le (length_members_le (b := []) hstep)
    obtain ⟨mid, hmid, hread⟩ := Fields.readMembers_fill style (level + 1) (style level)
      ((style level).isGap_ending _) hnames hback (fun m hm => hm) [] ⟨Fields.nodup_members hnames _, by simp⟩ hfuel
      hstep
    have hfinish : fields.finish (fields.fill b (((fields.members (parts s)).map (·.1)).reverse ++ [])) = .ok b := by
      refine Fields.finish_taken (Fields.takenFrom_ofList hnames hback) _ fun name _ hunseen => ?_
      refine Table.find?_eq_none fun m hm heq => hunseen ?_
      have hmem := Table.mem_of_mem_ofList hm
      rw [rereadMembers_eq_map] at hmem
      obtain ⟨written, hwritten, rfl⟩ := List.mem_map.1 hmem
      rw [List.append_nil, List.mem_reverse, ← heq]
      exact List.mem_map.2 ⟨written, hwritten, rfl⟩
    obtain ⟨past, hpast, hclose⟩ := closeObject_at hmid
    refine ⟨past, hpast, ?_⟩
    rw [Fields.fill_nil] at hread
    simp only [record, readFound_map hc, placing, Except.mapError, bind, Except.bind, Fields.readObject, hread, hfinish,
      inObject, hclose, Except.map, pure, Except.pure]
  byValue := by
    subst hbuild
    rw [record, reread, ofMembers]
    exact record_fromJson hnames (Table.ofList_ascending _).nodup b (Fields.takenFrom_ofList hnames hback)

/-! ## Whole texts -/

variable {α : Type} {codec : Codec α} {a b : α} {gap : List Char}

/-- **What is written in any style is read back, whatever blanks come behind it.** -/
theorem read_laid (h : codec.ReadsBack nestingLimit a b) (style : Style) (hgap : IsGap gap) :
    codec.read (octets ((codec.toJson a).laid style 0 ++ gap)) = .ok b := by
  obtain ⟨past, hpast, hread⟩ := h.straight style 0 _ _ (endsNumber_of_gap hgap)
    ((laid_startsValue style 0 (codec.toJson a)).faces_start gap)
  rw [Codec.read, hread]
  simp [Except.mapError, bind, Except.bind, readEnd_gap hgap hpast, pure, Except.pure]

/-- a free document is the value that is read -/
theorem read_free (bytes : Bytes) : free.read bytes = Json.read bytes := by
  simp only [Codec.read, free, Json.read, placing]
  cases (start bytes).readJson nestingLimit <;> rfl

/-- **So is it by way of the value that the text stands for.** -/
theorem read_free_laid (h : codec.ReadsBack nestingLimit a b) (style : Style) (hgap : IsGap gap) :
    free.read (octets ((codec.toJson a).laid style 0 ++ gap)) = .ok (codec.toJson a).reread ∧
      codec.fromJson (codec.toJson a).reread = .ok b := by
  refine ⟨?_, h.byValue⟩
  rw [read_free]
  exact read_of_standsFor (standsFor_laid h.writable style 0) hgap

/-- the form with a line for each entry is one of the styles -/
theorem encode_pretty (j : Json) (gap : List Char) :
    Utf8.encode (j.pretty ++ String.ofList gap) = octets (j.laid Style.lines 0 ++ gap) := by
  rw [pretty, ← String.ofList_append, encode_ofList, laid_lines]

theorem read_pretty (h : codec.ReadsBack nestingLimit a b) (hgap : IsGap gap) :
    codec.read (Utf8.encode ((codec.toJson a).pretty ++ String.ofList gap)) = .ok b := by
  rw [encode_pretty]
  exact read_laid h Style.lines hgap

theorem read_free_pretty (h : codec.ReadsBack nestingLimit a b) (hgap : IsGap gap) :
    free.read (Utf8.encode ((codec.toJson a).pretty ++ String.ofList gap)) = .ok (codec.toJson a).reread := by
  rw [encode_pretty]
  exact (read_free_laid h Style.lines hgap).1

/-- **What is written is read back.** -/
theorem read_write (h : codec.ReadsBack nestingLimit a b) : codec.read (Utf8.encode (codec.write a)) = .ok b := by
  have hread := read_laid h Style.compact isGap_nil
  rw [laid_compact, List.append_nil] at hread
  rw [write, compact, encode_ofList]
  exact hread

end Codec

end ToolGateway
