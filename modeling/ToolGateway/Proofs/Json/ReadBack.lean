import ToolGateway.Proofs.Except
import ToolGateway.Proofs.Json.Layout
import ToolGateway.Proofs.Number.Distinct
import ToolGateway.Proofs.Table

/-!
Written values are read back.

`StandsFor text depth j` says that `text` is read as `j` where `depth` containers may still be opened, whatever comes
behind it. It holds of scalars, and through containers of any entries, with blanks around them or without.

- `standsFor_array`, `standsFor_object`: texts with commas between them are read entry by entry. Every entry takes an
  octet at least, so twice the length of the text is fuel enough.
- `standsFor_laid`: a value whose numbers are read back, written in any style, stands for the value with its members put
  in order (`reread`); `Readable.reread_eq`: in a value that was read they are.
- `DoublesReread`: what is assumed of the doubles in a value. Integers that fit in 64 bits are read back anyway.
  `Number.rereads_iff`: of a given double it can be computed.
- `read_of_standsFor`: a text that stands for a value is read as it when nothing comes behind but blanks.
-/

namespace ToolGateway

open Utf8 Json

namespace Cursor

variable {c : Cursor} {rest : Bytes} {gap text more : List Char} {isFirst : Bool}

/-! ## Signs between entries -/

/-- the text starts with a sign that is no blank and closes no list -/
def StartsValue (text : List Char) : Prop :=
  ∃ char tail b, text = char :: tail ∧ encodeChar char = [b] ∧ isBlank b = false ∧ b ≠ 0x5D

theorem StartsValue.length_pos (h : StartsValue text) : 0 < text.length := by
  obtain ⟨char, tail, b, rfl, -⟩ := h
  simp

theorem readWord_at (word : Bytes) (h : c.rest = word ++ rest) :
    ∃ past : Cursor, past.rest = rest ∧ c.readWord word = .ok past := by
  induction word generalizing c with
  | nil => exact ⟨c, h, rfl⟩
  | cons b word ih =>
    have hstep : c.step.rest = word ++ rest := by
      unfold step
      rw [h]
      simp only [List.cons_append]
      split_ifs <;> rfl
    obtain ⟨past, hpast, hread⟩ := ih hstep
    refine ⟨past, hpast, ?_⟩
    rw [readWord, peek?, h]
    simpa using hread

theorem readColon_at (h : c.At (':' :: more) rest) : ∃ past : Cursor, past.At more rest ∧ c.readColon = .ok past := by
  have hcolon : encodeChar ':' = [0x3A] := by decide
  refine ⟨c.step, h.step hcolon, ?_⟩
  rw [readColon, h.skipBlanks hcolon (by decide), h.peek hcolon]
  rfl

theorem nextItem_close (isFirst : Bool) (h : c.Faces (']' :: more) rest) :
    ∃ past : Cursor, past.At (']' :: more) rest ∧ c.nextItem isFirst = .ok (false, past) := by
  have hclose : encodeChar ']' = [0x5D] := by decide
  refine ⟨c.skipBlanks, h, ?_⟩
  rw [nextItem]
  simp only
  rw [At.peek h hclose]
  rfl

theorem nextItem_item (hgap : IsGap gap) (hs : StartsValue text)
    (h : c.At (separator isFirst ++ (gap ++ (text ++ more))) rest) :
    ∃ next : Cursor, next.At (text ++ more) rest ∧ c.nextItem isFirst = .ok (true, next) := by
  obtain ⟨char, tail, b, rfl, hb, hblank, hne⟩ := hs
  cases isFirst with
  | true =>
    have hnext : c.Faces (char :: (tail ++ more)) rest := faces_of_gap hgap hb hblank h
    refine ⟨c.skipBlanks, hnext, ?_⟩
    rw [nextItem]
    simp only
    rw [At.peek hnext hb]
    simp only
    rw [if_neg hne, if_pos trivial]
  | false =>
    have hcomma : encodeChar ',' = [0x2C] := by decide
    have hnext : c.step.Faces (char :: (tail ++ more)) rest := faces_of_gap hgap hb hblank (At.step h hcomma)
    refine ⟨c.step.skipBlanks, hnext, ?_⟩
    rw [nextItem, At.skipBlanks h hcomma (by decide)]
    simp only
    rw [At.peek h hcomma]
    simp only
    rw [if_neg (by decide), if_neg (by decide), if_pos (by decide), At.peek hnext hb]
    simp only
    rw [if_neg hne]

theorem nextKey_close (isFirst : Bool) (h : c.Faces ('\x7d' :: more) rest) :
    ∃ past : Cursor, past.At ('\x7d' :: more) rest ∧ c.nextKey isFirst = .ok (false, past) := by
  have hclose : encodeChar '\x7d' = [0x7D] := by decide
  refine ⟨c.skipBlanks, h, ?_⟩
  rw [nextKey]
  simp only
  rw [At.peek h hclose]
  rfl

/-- the key of the next entry, and where its colon stands -/
theorem nextKey_key {key : String} (hgap : IsGap gap)
    (h : c.At (separator isFirst ++ (gap ++ (quotedChars key ++ more))) rest) :
    ∃ next past : Cursor, c.nextKey isFirst = .ok (true, next) ∧ next.step.readString = .ok (key, past) ∧
      past.At more rest := by
  have hquote : encodeChar '"' = [0x22] := by decide
  have hkey : ∀ d : Cursor, d.At (gap ++ (quotedChars key ++ more)) rest → d.skipBlanks.peek? = some 0x22 ∧
      ∃ past : Cursor, d.skipBlanks.step.readString = .ok (key, past) ∧ past.At more rest := by
    intro d hd
    have hfaces : d.Faces (quotedChars key ++ more) rest := faces_of_gap hgap hquote (by decide) hd
    obtain ⟨past, hpast, hread⟩ := readString_quoted (at_append.1 hfaces)
    exact ⟨At.peek hfaces hquote, past, hread, hpast⟩
  cases isFirst with
  | true =>
    obtain ⟨hpeek, past, hread, hpast⟩ := hkey c h
    refine ⟨c.skipBlanks, past, ?_, hread, hpast⟩
    rw [nextKey]
    simp only
    rw [hpeek]
    rfl
  | false =>
    have hcomma : encodeChar ',' = [0x2C] := by decide
    obtain ⟨hpeek, past, hread, hpast⟩ := hkey c.step (At.step h hcomma)
    refine ⟨c.step.skipBlanks, past, ?_, hread, hpast⟩
    rw [nextKey, At.skipBlanks h hcomma (by decide)]
    simp only
    rw [At.peek h hcomma]
    simp only
    rw [if_neg (by decide), if_neg (by decide), if_pos (by decide), hpeek]
    rfl

/-- no digit, point or exponent sign stands behind a number -/
theorem endsNumber_cons {char : Char} {b : UInt8} (text : List Char) (hb : encodeChar char = [b])
    (hdigit : isDigit b = false) (hne : b ≠ 0x2E ∧ b ≠ 0x65 ∧ b ≠ 0x45) :
    EndsNumber (octets (char :: text) ++ rest) := by
  intro a ha
  rw [octets_cons, hb] at ha
  cases ha
  exact ⟨hdigit, hne⟩

/-- a number ends where blanks begin -/
theorem endsNumber_gap (hgap : IsGap gap) (hr : EndsNumber rest) : EndsNumber (octets gap ++ rest) := by
  intro b hb
  cases hoctets : octets gap with
  | nil =>
    rw [hoctets] at hb
    exact hr b hb
  | cons a tail =>
    have hblank : isBlank a = true := hgap a (by rw [hoctets]; exact List.mem_cons_self)
    rw [hoctets] at hb
    cases hb
    simp only [isBlank, Bool.or_eq_true, decide_eq_true_eq] at hblank
    rcases hblank with ((rfl | rfl) | rfl) | rfl <;> decide

/-- behind an entry stands a comma, a blank or the closing sign, so a number ends there -/
theorem endsNumber_separated {close : Char} (hclose : close = ']' ∨ close = '\x7d') (hgap : IsGap gap)
    (texts : List (List Char)) : EndsNumber (octets (separated false texts ++ (gap ++ [close])) ++ rest) := by
  cases texts with
  | nil =>
    have hlast : EndsNumber (octets [close] ++ rest) := by
      rcases hclose with rfl | rfl
      · exact endsNumber_cons (b := 0x5D) [] (by decide) (by decide) (by decide)
      · exact endsNumber_cons (b := 0x7D) [] (by decide) (by decide) (by decide)
    rw [separated, List.nil_append, octets_append, List.append_assoc]
    exact endsNumber_gap hgap hlast
  | cons text texts => exact endsNumber_cons (b := 0x2C) _ (by decide) (by decide) (by decide)

theorem readEnd_gap (hgap : IsGap gap) (h : c.rest = octets gap) : c.readEnd = .ok () := by
  have hat : c.At (gap ++ []) [] := by simpa [At] using h
  obtain ⟨past, hpast, hskip⟩ := skipBlanks_gap hgap hat
  have hnil : past.rest = [] := hpast
  rw [readEnd, hskip]
  simp [skipBlanks, pastBlanks, peek?, hnil]

theorem StartsValue.faces (hs : StartsValue text) (hgap : IsGap gap) (h : c.At (gap ++ (text ++ more)) rest) :
    c.Faces (text ++ more) rest := by
  obtain ⟨char, tail, b, rfl, hb, hblank, -⟩ := hs
  exact faces_of_gap hgap hb hblank h

/-- a text stands at the start of itself -/
theorem StartsValue.faces_start (hs : StartsValue text) (more : List Char) :
    (start (octets (text ++ more))).Faces text (octets more) := by
  have hfaces := hs.faces isGap_nil (at_start (text ++ more))
  simpa using faces_append.1 hfaces

/-- where nothing comes but blanks, a number ends -/
theorem endsNumber_of_gap (hgap : IsGap gap) : EndsNumber (octets gap) := by
  have hnil : EndsNumber [] := by simp [EndsNumber]
  simpa using endsNumber_gap hgap hnil

end Cursor

namespace Json

open Cursor

variable {c : Cursor} {rest : Bytes} {gap : List Char} {depth fuel : Nat}

/-! ## Values -/

/-- the text is read as `j` where `depth` containers may be opened, whatever comes behind it -/
structure StandsFor (text : List Char) (depth : Nat) (j : Json) : Prop where
  starts : StartsValue text
  reads : ∀ (fuel : Nat) (c : Cursor) (rest : Bytes), 2 * text.length ≤ fuel → EndsNumber rest → c.At text rest →
    ∃ past : Cursor, past.rest = rest ∧ readValue fuel depth c = .ok (j, past)

/-- a text stands for what is read once its first octet has been looked at -/
theorem standsFor_of_head {char : Char} {tail : List Char} {b : UInt8} {j : Json} (hb : encodeChar char = [b])
    (hblank : isBlank b = false) (hne : b ≠ 0x5D)
    (hread : ∀ (fuel : Nat) (c : Cursor) (rest : Bytes), 2 * tail.length + 1 ≤ fuel → EndsNumber rest →
      c.At (char :: tail) rest → c.skipBlanks = c → c.peek? = some b →
        ∃ past : Cursor, past.rest = rest ∧ readValue (fuel + 1) depth c = .ok (j, past)) :
    StandsFor (char :: tail) depth j := by
  refine ⟨⟨char, tail, b, rfl, hb, hblank, hne⟩, fun fuel c rest hfuel hr hc => ?_⟩
  rw [List.length_cons] at hfuel
  obtain ⟨fuel, rfl⟩ : ∃ n, fuel = n + 1 := ⟨fuel - 1, by omega⟩
  exact hread fuel c rest (by omega) hr hc (hc.skipBlanks hb hblank) (hc.peek hb)

theorem standsFor_null (depth : Nat) : StandsFor ['n', 'u', 'l', 'l'] depth null := by
  refine standsFor_of_head (b := 0x6E) (by decide) (by decide) (by decide) fun fuel c rest _ _ hc hskip hpeek => ?_
  obtain ⟨past, hpast, hread⟩ := readWord_at [0x75, 0x6C, 0x6C] (hc.step (b := 0x6E) (by decide))
  refine ⟨past, hpast, ?_⟩
  unfold readValue
  simp only
  rw [hskip, hpeek]
  simp only
  rw [if_pos trivial, hread]
  rfl

theorem standsFor_true (depth : Nat) : StandsFor ['t', 'r', 'u', 'e'] depth (bool true) := by
  refine standsFor_of_head (b := 0x74) (by decide) (by decide) (by decide) fun fuel c rest _ _ hc hskip hpeek => ?_
  obtain ⟨past, hpast, hread⟩ := readWord_at [0x72, 0x75, 0x65] (hc.step (b := 0x74) (by decide))
  refine ⟨past, hpast, ?_⟩
  unfold readValue
  simp only
  rw [hskip, hpeek]
  simp only
  rw [if_neg (by decide), if_pos trivial, hread]
  rfl

theorem standsFor_false (depth : Nat) : StandsFor ['f', 'a', 'l', 's', 'e'] depth (bool false) := by
  refine standsFor_of_head (b := 0x66) (by decide) (by decide) (by decide) fun fuel c rest _ _ hc hskip hpeek => ?_
  obtain ⟨past, hpast, hread⟩ := readWord_at [0x61, 0x6C, 0x73, 0x65] (hc.step (b := 0x66) (by decide))
  refine ⟨past, hpast, ?_⟩
  unfold readValue
  simp only
  rw [hskip, hpeek]
  simp only
  rw [if_neg (by decide), if_neg (by decide), if_pos trivial, hread]
  rfl

/-- a digit is one octet, which no blank and no other sign is -/
theorem octet_of_digit {d : Char} (hd : d.isDigit = true) :
    ∃ b, encodeChar d = [b] ∧ isDigit b = true ∧ isBlank b = false ∧ ∀ a, isDigit a = false → b ≠ a := by
  obtain ⟨hb, hvalue, hlow, hhigh⟩ := isDigit_toUInt8 hd
  have hdigit : isDigit d.toNat.toUInt8 = true := by
    simp [isDigit, hvalue, hlow, hhigh]
  have hne : ∀ a, isDigit a = false → d.toNat.toUInt8 ≠ a := by
    rintro a ha rfl
    rw [hdigit] at ha
    cases ha
  refine ⟨_, hb, hdigit, ?_, hne⟩
  simp [isBlank, hne 0x0A (by decide), hne 0x20 (by decide), hne 0x09 (by decide), hne 0x0D (by decide)]

theorem startsValue_number (n : Number) : StartsValue n.chars := by
  rw [Number.chars_eq]
  split_ifs
  · exact ⟨'-', n.body, 0x2D, rfl, by decide, by decide, by decide⟩
  · obtain ⟨d, more, hbody, hd⟩ := n.body_head
    obtain ⟨b, hb, -, hblank, hne⟩ := octet_of_digit hd
    exact ⟨d, more, b, hbody, hb, hblank, hne _ (by decide)⟩

/-- where a number stands, it is read from behind its sign -/
theorem readValue_number {n : Number} (hc : c.At n.chars rest) :
    ∃ start : Cursor, start.At n.body rest ∧ ∀ fuel depth, readValue (fuel + 1) depth c =
      start.readNumber n.isNegative >>= fun r => .ok (number r.1, r.2) := by
  rw [Number.chars_eq] at hc
  by_cases hneg : n.isNegative = true
  · have hminus : encodeChar '-' = [0x2D] := by decide
    rw [if_pos hneg] at hc
    refine ⟨c.step, hc.step hminus, fun fuel depth => ?_⟩
    unfold readValue
    simp only
    rw [hc.skipBlanks hminus (by decide), hc.peek hminus, hneg]
    rfl
  · rw [if_neg hneg] at hc
    rw [Bool.not_eq_true] at hneg
    obtain ⟨d, more, hbody, hd⟩ := n.body_head
    obtain ⟨b, hb, hdigit, hblank, hne⟩ := octet_of_digit hd
    have hd : c.At (d :: more) rest := hbody ▸ hc
    refine ⟨c, hc, fun fuel depth => ?_⟩
    unfold readValue
    simp only
    rw [hd.skipBlanks hb hblank, hd.peek hb, hneg]
    simp only
    rw [if_neg (hne _ (by decide)), if_neg (hne _ (by decide)), if_neg (hne _ (by decide)), if_neg (hne _ (by decide)),
      if_pos hdigit]
    rfl

theorem standsFor_number {n : Number} (hn : n.IsReadBack) (depth : Nat) : StandsFor n.chars depth (number n) := by
  refine ⟨startsValue_number n, fun fuel c rest hfuel hr hc => ?_⟩
  obtain ⟨char, tail, b, htext, -⟩ := startsValue_number n
  obtain ⟨fuel, rfl⟩ : ∃ k, fuel = k + 1 := ⟨fuel - 1, by rw [htext, List.length_cons] at hfuel; omega⟩
  obtain ⟨start, hstart, hvalue⟩ := readValue_number hc
  obtain ⟨past, hpast, hread⟩ := hn.readNumber hr hstart
  exact ⟨past, hpast, by rw [hvalue, hread]; rfl⟩

theorem standsFor_string (s : String) (depth : Nat) : StandsFor (quotedChars s) depth (string s) := by
  refine standsFor_of_head (b := 0x22) (by decide) (by decide) (by decide) fun fuel c rest _ _ hc hskip hpeek => ?_
  obtain ⟨past, hpast, hread⟩ := readString_quoted hc
  refine ⟨past, hpast, ?_⟩
  unfold readValue
  simp only
  rw [hskip, hpeek]
  simp only
  rw [if_neg (by decide), if_neg (by decide), if_neg (by decide), if_neg (by decide), if_neg (by decide),
    if_pos trivial, hread]
  rfl

/-- a value is read past the blanks in front of it -/
theorem readValue_skipBlanks (fuel depth : Nat) (c : Cursor) :
    readValue (fuel + 1) depth c.skipBlanks = readValue (fuel + 1) depth c := by
  unfold readValue
  rw [skipBlanks_skipBlanks]

theorem StandsFor.reads_faced {text : List Char} {j : Json} (h : StandsFor text depth j)
    (hfuel : 2 * text.length ≤ fuel) (hr : EndsNumber rest) (hc : c.Faces text rest) :
    ∃ past : Cursor, past.rest = rest ∧ readValue fuel depth c = .ok (j, past) := by
  have hpos := h.starts.length_pos
  obtain ⟨n, rfl⟩ : ∃ n, fuel = n + 1 := ⟨fuel - 1, by omega⟩
  rw [← readValue_skipBlanks]
  exact h.reads _ _ _ hfuel hr hc

/-! ## Containers -/

theorem readItems_separated (g : Gaps) {close : List Char} (hclose : IsGap close)
    {entries : List (List Char × Json)} (hall : ∀ e ∈ entries, StandsFor e.1 depth e.2) {isFirst : Bool}
    (hfuel : 2 * (separated isFirst (entries.map (g.entry ++ ·.1)) ++ (close ++ [']'])).length ≤ fuel)
    (hc : c.At (separated isFirst (entries.map (g.entry ++ ·.1)) ++ (close ++ [']'])) rest) :
    ∃ past : Cursor, past.rest = rest ∧ readItems fuel depth isFirst c = .ok (entries.map (·.2), past) := by
  induction entries generalizing fuel isFirst c with
  | nil =>
    simp only [List.map_nil, separated, List.nil_append, List.length_append, List.length_singleton] at hfuel hc
    obtain ⟨fuel, rfl⟩ : ∃ n, fuel = n + 1 := ⟨fuel - 1, by omega⟩
    obtain ⟨last, hlast, hnone⟩ := nextItem_close isFirst
      (faces_of_gap hclose (b := 0x5D) (by decide) (by decide) hc)
    refine ⟨last.step, hlast.step (b := 0x5D) (by decide), ?_⟩
    rw [readItems, hnone]
    rfl
  | cons e entries ih =>
    obtain ⟨text, j⟩ := e
    have hstands : StandsFor text depth j := hall (text, j) List.mem_cons_self
    simp only [List.map_cons, separated, List.append_assoc, List.length_append, List.length_singleton] at hfuel hc
    have hpos := hstands.starts.length_pos
    obtain ⟨fuel, rfl⟩ : ∃ n, fuel = n + 1 := ⟨fuel - 1, by omega⟩
    obtain ⟨next, hnext, hmore⟩ := nextItem_item g.isGap_entry hstands.starts hc
    obtain ⟨mid, hmid, hvalue⟩ := hstands.reads fuel next _ (by omega) (endsNumber_separated (.inl rfl) hclose _)
      (at_append.1 hnext)
    have hleft : 2 * (separated false (entries.map (g.entry ++ ·.1)) ++ (close ++ [']'])).length ≤ fuel := by
      simp only [List.length_append, List.length_singleton]
      omega
    obtain ⟨past, hpast, hrest⟩ := ih (fun e he => hall e (List.mem_cons_of_mem _ he)) hleft hmid
    refine ⟨past, hpast, ?_⟩
    rw [readItems, hmore]
    simp only [bind, Except.bind, if_true, hvalue, hrest]
    rfl

theorem standsFor_array (g : Gaps) {entries : List (List Char × Json)}
    (hall : ∀ e ∈ entries, StandsFor e.1 depth e.2) :
    StandsFor ('[' :: (g.enclosed (entries.map (·.1)) ++ [']'])) (depth + 1) (array (entries.map (·.2))) := by
  refine standsFor_of_head (b := 0x5B) (by decide) (by decide) (by decide)
    fun fuel c rest hfuel _ hc hskip hpeek => ?_
  rw [Gaps.enclosed, List.map_map, List.append_assoc] at hfuel hc
  obtain ⟨past, hpast, hread⟩ := readItems_separated g (g.isGap_ending _) hall (Nat.le_of_succ_le hfuel)
    (hc.step (b := 0x5B) (by decide))
  refine ⟨past, hpast, ?_⟩
  rw [readValue, hskip, hpeek]
  simp only
  rw [if_neg (by decide), if_neg (by decide), if_neg (by decide), if_neg (by decide), if_neg (by decide),
    if_neg (by decide), if_pos trivial, hread]
  rfl

/-- the text of an entry that is a member -/
def entryText (g : Gaps) (e : String × List Char × Json) : List Char :=
  g.memberText (e.1, e.2.1)

theorem entryText_mk (g : Gaps) (key : String) (text : List Char) (j : Json) :
    entryText g (key, text, j) = quotedChars key ++ ':' :: (g.value ++ text) := rfl

theorem readMembers_separated (g : Gaps) {close : List Char} (hclose : IsGap close)
    {entries : List (String × List Char × Json)} (hall : ∀ e ∈ entries, StandsFor e.2.1 depth e.2.2) {isFirst : Bool}
    (hfuel : 2 * (separated isFirst (entries.map (g.entry ++ entryText g ·)) ++ (close ++ ['\x7d'])).length ≤ fuel)
    (hc : c.At (separated isFirst (entries.map (g.entry ++ entryText g ·)) ++ (close ++ ['\x7d'])) rest) :
    ∃ past : Cursor, past.rest = rest ∧
      readMembers fuel depth isFirst c = .ok (entries.map fun e => (e.1, e.2.2), past) := by
  induction entries generalizing fuel isFirst c with
  | nil =>
    simp only [List.map_nil, separated, List.nil_append, List.length_append, List.length_singleton] at hfuel hc
    obtain ⟨fuel, rfl⟩ : ∃ n, fuel = n + 1 := ⟨fuel - 1, by omega⟩
    obtain ⟨last, hlast, hnone⟩ := nextKey_close isFirst
      (faces_of_gap hclose (b := 0x7D) (by decide) (by decide) hc)
    refine ⟨last.step, hlast.step (b := 0x7D) (by decide), ?_⟩
    rw [readMembers, hnone]
    rfl
  | cons e entries ih =>
    obtain ⟨key, text, j⟩ := e
    have hstands : StandsFor text depth j := hall (key, text, j) List.mem_cons_self
    simp only [List.map_cons, separated, entryText_mk, List.append_assoc, List.cons_append, List.length_append,
      List.length_cons, List.length_nil] at hfuel hc
    have hpos := hstands.starts.length_pos
    obtain ⟨fuel, rfl⟩ : ∃ n, fuel = n + 1 := ⟨fuel - 1, by omega⟩
    obtain ⟨next, past, hmore, hkey, hpast⟩ := nextKey_key g.isGap_entry hc
    obtain ⟨colon, hcolon, hreadColon⟩ := readColon_at hpast
    have hfaces := hstands.starts.faces g.isGap_value hcolon
    have hleast : 2 * text.length ≤ fuel := by omega
    obtain ⟨mid, hmid, hvalue⟩ := hstands.reads_faced hleast
      (endsNumber_separated (.inr rfl) hclose _) (faces_append.1 hfaces)
    have hleft :
        2 * (separated false (entries.map (g.entry ++ entryText g ·)) ++ (close ++ ['\x7d'])).length ≤ fuel := by
      simp only [List.length_append, List.length_singleton]
      omega
    obtain ⟨last, hlast, hrest⟩ := ih (fun e he => hall e (List.mem_cons_of_mem _ he)) hleft hmid
    refine ⟨last, hlast, ?_⟩
    rw [readMembers, hmore]
    simp only [bind, Except.bind, if_true, hkey, hreadColon, hvalue, hrest]
    rfl

theorem standsFor_object (g : Gaps) {entries : List (String × List Char × Json)}
    (hall : ∀ e ∈ entries, StandsFor e.2.1 depth e.2.2) :
    StandsFor ('\x7b' :: (g.enclosed (entries.map (entryText g)) ++ ['\x7d'])) (depth + 1)
      (ofMembers (entries.map fun e => (e.1, e.2.2))) := by
  refine standsFor_of_head (b := 0x7B) (by decide) (by decide) (by decide)
    fun fuel c rest hfuel _ hc hskip hpeek => ?_
  rw [Gaps.enclosed, List.map_map, List.append_assoc] at hfuel hc
  obtain ⟨past, hpast, hread⟩ := readMembers_separated g (g.isGap_ending _) hall (Nat.le_of_succ_le hfuel)
    (hc.step (b := 0x7B) (by decide))
  refine ⟨past, hpast, ?_⟩
  rw [readValue, hskip, hpeek]
  simp only
  rw [if_neg (by decide), if_neg (by decide), if_neg (by decide), if_neg (by decide), if_neg (by decide),
    if_neg (by decide), if_neg (by decide), if_pos trivial, hread]
  rfl

/-! ## Values in any style -/

mutual

/-- the value with the members of each object in it put in order, as reading gives it -/
def reread : Json → Json
  | null => null
  | bool b => bool b
  | number n => number n
  | string s => string s
  | array items => array (rereadItems items)
  | object members => ofMembers (rereadMembers members)

/-- `reread` for each of some items -/
def rereadItems : List Json → List Json
  | [] => []
  | j :: rest => reread j :: rereadItems rest

/-- `reread` for the value of each of some members -/
def rereadMembers : List (String × Json) → List (String × Json)
  | [] => []
  | (k, j) :: rest => (k, reread j) :: rereadMembers rest

end

theorem rereadItems_eq_map (items : List Json) : rereadItems items = items.map reread := by
  induction items with
  | nil => rfl
  | cons j rest ih => rw [rereadItems, ih, List.map_cons]

theorem rereadMembers_eq_map (members : List (String × Json)) :
    rereadMembers members = members.map fun m => (m.1, reread m.2) := by
  induction members with
  | nil => rfl
  | cons m rest ih => rw [rereadMembers, ih, List.map_cons]

theorem reread_scalar {j : Json} (h : j.depth = 0) : j.reread = j := by
  cases j with
  | array items => cases h
  | object members => cases h
  | _ => rfl

/-- a text can stand for the value where `depth` containers may be opened -/
structure Writable (depth : Nat) (j : Json) : Prop where
  numbers : Everywhere (fun j => ∀ n, j = number n → n.IsReadBack) j
  nested : j.depth ≤ depth

theorem writable_array {items : List Json} :
    Writable (depth + 1) (array items) ↔ ∀ j ∈ items, Writable depth j := by
  constructor
  · rintro ⟨hnumbers, hdepth⟩ j hj
    exact ⟨(everywhere_array.1 hnumbers).2 j hj, depthItems_le.1 (Nat.le_of_succ_le_succ hdepth) j hj⟩
  · intro h
    refine ⟨everywhere_array.2 ⟨by simp, fun j hj => (h j hj).numbers⟩, ?_⟩
    exact Nat.succ_le_succ (depthItems_le.2 fun j hj => (h j hj).nested)

theorem writable_object {members : List (String × Json)} :
    Writable (depth + 1) (object members) ↔ ∀ m ∈ members, Writable depth m.2 := by
  constructor
  · rintro ⟨hnumbers, hdepth⟩ m hm
    exact ⟨(everywhere_object.1 hnumbers).2 m hm, depthMembers_le.1 (Nat.le_of_succ_le_succ hdepth) m hm⟩
  · intro h
    refine ⟨everywhere_object.2 ⟨by simp, fun m hm => (h m hm).numbers⟩, ?_⟩
    exact Nat.succ_le_succ (depthMembers_le.2 fun m hm => (h m hm).nested)

/-- **A value in any style stands for the value with its members put in order.** -/
theorem standsFor_laid {j : Json} (h : j.Writable depth) (style : Style) (level : Nat) :
    StandsFor (j.laid style level) depth j.reread := by
  induction j generalizing depth level with
  | null => exact standsFor_null depth
  | bool b =>
    cases b
    · exact standsFor_false depth
    · exact standsFor_true depth
  | number n =>
    refine standsFor_number ?_ depth
    have hnumbers := h.numbers
    rw [Everywhere] at hnumbers
    exact hnumbers n rfl
  | string s => exact standsFor_string s depth
  | array items ih =>
    have hdepth := h.nested
    rw [Json.depth] at hdepth
    obtain ⟨depth, rfl⟩ : ∃ n, depth = n + 1 := ⟨depth - 1, by omega⟩
    let entries := items.map fun j => (laid style (level + 1) j, j.reread)
    have hall : ∀ e ∈ entries, StandsFor e.1 depth e.2 := by
      intro e he
      obtain ⟨j, hj, rfl⟩ := List.mem_map.1 he
      exact ih j hj (writable_array.1 h j hj) (level + 1)
    have hstands := standsFor_array (style level) hall
    rw [List.map_map, List.map_map] at hstands
    rw [laid_array, reread, rereadItems_eq_map]
    exact hstands
  | object members ih =>
    have hdepth := h.nested
    rw [Json.depth] at hdepth
    obtain ⟨depth, rfl⟩ : ∃ n, depth = n + 1 := ⟨depth - 1, by omega⟩
    let entries := members.map fun m => (m.1, laid style (level + 1) m.2, m.2.reread)
    have hall : ∀ e ∈ entries, StandsFor e.2.1 depth e.2.2 := by
      intro e he
      obtain ⟨m, hm, rfl⟩ := List.mem_map.1 he
      exact ih m hm (writable_object.1 h m hm) (level + 1)
    have hstands := standsFor_object (style level) hall
    rw [List.map_map, List.map_map] at hstands
    rw [laid_object, reread, rereadMembers_eq_map]
    exact hstands

end Json

/-! ## Numbers that are read back -/

namespace Number

open Cursor

/-- the text of the number is read as the number -/
def Rereads (n : Number) : Prop :=
  Json.read (Utf8.encode (number n).compact) = .ok (number n)

theorem Rereads.isReadBack {n : Number} (h : n.Rereads) : n.IsReadBack := by
  have hstart : (start (octets n.chars)).At n.chars [] := at_start n.chars
  obtain ⟨c, hc, hvalue⟩ := readValue_number hstart
  rw [Rereads, compact, encode_ofList] at h
  obtain ⟨⟨j, past⟩, hread, h⟩ := ok_of_bind h
  obtain ⟨-, -, h⟩ := ok_of_bind h
  cases h
  rw [readJson, Json.chars, hvalue] at hread
  obtain ⟨⟨m, past'⟩, hnumber, h⟩ := ok_of_bind hread
  cases h
  exact isReadBack_of_readNumber (by simp [EndsNumber]) hc hnumber

/-- of a double it has to be known that it is read back, not of an integer -/
theorem Fits.isReadBack {n : Number} (h : n.Fits) (hd : ∀ x, n = real x → (real x).Rereads) : n.IsReadBack := by
  cases n with
  | int i => exact isReadBack_int h
  | real x => exact (hd x rfl).isReadBack

end Number

namespace Json

open Cursor

variable {c : Cursor} {rest : Bytes} {gap : List Char} {depth : Nat}

/-! ## Values that were read -/

/-- what reading gives: every object has its members ascending by name, and every integer fits in 64 bits -/
def Readable : Json → Prop :=
  Everywhere fun j => (∀ n, j = number n → n.Fits) ∧ ∀ members, j = object members → Table.Ascending members

theorem readable_number {n : Number} : Readable (number n) ↔ n.Fits := by
  simp [Readable, Everywhere]

theorem readable_array {items : List Json} : Readable (array items) ↔ ∀ j ∈ items, Readable j := by
  simp [Readable]

theorem readable_object {members : List (String × Json)} :
    Readable (object members) ↔ Table.Ascending members ∧ ∀ m ∈ members, Readable m.2 := by
  simp [Readable]

/-- Every double in the value is read back from its own text. Whether one is depends on how its decimal is rounded on
the way, so this is assumed where a value is to be read back. -/
def DoublesReread : Json → Prop :=
  Everywhere fun j => ∀ x, j = number (.real x) → (Number.real x).Rereads

theorem doublesReread_number {n : Number} : DoublesReread (number n) ↔ ∀ x, n = .real x → (Number.real x).Rereads := by
  simp [DoublesReread, Everywhere]

theorem doublesReread_array {items : List Json} : DoublesReread (array items) ↔ ∀ j ∈ items, DoublesReread j := by
  simp [DoublesReread]

theorem doublesReread_object {members : List (String × Json)} :
    DoublesReread (object members) ↔ ∀ m ∈ members, DoublesReread m.2 := by
  simp [DoublesReread]

theorem Readable.writable {j : Json} (h : j.Readable) (hd : j.DoublesReread) (hdepth : j.depth ≤ depth) :
    j.Writable depth := by
  refine ⟨?_, hdepth⟩
  clear hdepth
  induction j with
  | number n => simpa [Everywhere] using (readable_number.1 h).isReadBack (doublesReread_number.1 hd)
  | array items ih =>
    exact everywhere_array.2 ⟨by simp, fun j hj => ih j hj (readable_array.1 h j hj) (doublesReread_array.1 hd j hj)⟩
  | object members ih =>
    refine everywhere_object.2 ⟨by simp, fun m hm => ih m hm ?_ (doublesReread_object.1 hd m hm)⟩
    exact (readable_object.1 h).2 m hm
  | _ => simp [Everywhere]

/-- a value that was read is read as itself -/
theorem Readable.reread_eq {j : Json} (h : j.Readable) : j.reread = j := by
  induction j with
  | array items ih =>
    have hitems : items.map reread = items := by
      rw [List.map_congr_left fun j hj => ih j hj (readable_array.1 h j hj)]
      exact List.map_id' items
    rw [reread, rereadItems_eq_map, hitems]
  | object members ih =>
    obtain ⟨hascending, hinner⟩ := readable_object.1 h
    have hmembers : (members.map fun m => (m.1, reread m.2)) = members := by
      rw [List.map_congr_left fun m hm => by rw [ih m hm (hinner m hm)]]
      exact List.map_id' members
    rw [reread, rereadMembers_eq_map, hmembers, ofMembers, Table.ofList_eq_self hascending]
  | _ => rfl

/-! ## Whole texts -/

/-- twice the length of a text and of what is behind it is fuel enough -/
theorem readJson_of_standsFor {text : List Char} {j : Json} (h : StandsFor text depth j) (hr : EndsNumber rest)
    (hc : c.Faces text rest) : ∃ past : Cursor, past.rest = rest ∧ c.readJson depth = .ok (j, past) := by
  refine h.reads_faced ?_ hr hc
  have h1 := length_le_octets text
  have h2 := length_skipBlanks_le c
  rw [hc, List.length_append] at h2
  omega

/-- a text that stands for a value where the nesting limit is still to come is read as that value -/
theorem read_of_standsFor {text : List Char} {j : Json} (h : StandsFor text nestingLimit j) (hgap : IsGap gap) :
    Json.read (octets (text ++ gap)) = .ok j := by
  obtain ⟨past, hpast, hread⟩ := readJson_of_standsFor h (endsNumber_of_gap hgap) (h.starts.faces_start gap)
  rw [Json.read, hread]
  simp [bind, Except.bind, readEnd_gap hgap hpast, pure, Except.pure]

end Json

namespace Number

open Cursor Json

/-- whether a number is read back is settled by reading what stands behind its sign -/
theorem rereads_iff {n : Number} :
    n.Rereads ↔ ((start (octets n.body)).readNumber n.isNegative).map (·.1) = .ok n := by
  have hend : EndsNumber [] := by simp [EndsNumber]
  have hstart : (start (octets n.body)).At n.body [] := at_start n.body
  constructor
  · intro h
    obtain ⟨past, -, hread⟩ := h.isReadBack.readNumber hend hstart
    rw [hread]
    rfl
  · intro h
    obtain ⟨⟨m, past⟩, hread, hm⟩ := ok_of_map h
    obtain rfl : m = n := hm
    have hback : m.IsReadBack := isReadBack_of_readNumber hend hstart hread
    have hwhole := read_of_standsFor (standsFor_number hback nestingLimit) isGap_nil
    rw [List.append_nil] at hwhole
    rw [Rereads, compact, encode_ofList]
    exact hwhole

instance (n : Number) : Decidable n.Rereads :=
  decidable_of_iff _ rereads_iff.symm

/-- one half is read back -/
example : (Number.real { negative := false, significand := 0x10000000000000, scale := 1021 }).Rereads := by
  decide +kernel

/-- the text of this one is `31.245270191439438`, which is read as the next greater double -/
example : ¬ (Number.real { negative := false, significand := 0x1F3ECA06FAEA82, scale := 1026 }).Rereads := by
  decide +kernel

end Number

end ToolGateway
