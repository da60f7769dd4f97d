import ToolGateway.Proofs.Json.Quoted
import ToolGateway.Proofs.Json.Shape

/-!
Written values with blanks between their signs.

A style says for each level which blanks stand around the entries of a container there. `Json.laid` writes a value in a
style; the compact form has no blanks at all (`laid_compact`), and the form with a line for each entry has a line break
and some blanks in front of each (`laid_lines`). No reader minds the blanks: `c.Faces text rest` says that past the
blanks at `c` stands `text`, and then `rest`, and whoever reads there passes over the blanks first.
-/

namespace ToolGateway

open Utf8

namespace Cursor

variable {c : Cursor} {char : Char} {gap text more : List Char} {rest : Bytes} {b : UInt8}

/-! ## Blanks at the cursor -/

/-- a text of blanks only -/
def IsGap (gap : List Char) : Prop :=
  ∀ b ∈ octets gap, isBlank b = true

theorem isGap_nil : IsGap [] := by
  simp [IsGap]

/-- past the blanks at the cursor stands `text`, then `rest` -/
def Faces (c : Cursor) (text : List Char) (rest : Bytes) : Prop :=
  c.skipBlanks.At text rest

theorem faces_append : c.Faces (text ++ more) rest ↔ c.Faces text (octets more ++ rest) :=
  at_append

theorem Faces.skipBlanks (h : c.Faces text rest) : c.skipBlanks.Faces text rest := by
  rw [Faces, skipBlanks_skipBlanks]
  exact h

theorem pastBlanks_append {gap : Bytes} (h : ∀ b ∈ gap, isBlank b = true) (rest : Bytes) (line column : Nat) :
    ∃ line' column', pastBlanks line column (gap ++ rest) = pastBlanks line' column' rest := by
  induction gap generalizing line column with
  | nil => exact ⟨line, column, rfl⟩
  | cons b gap ih =>
    have hblank := h b List.mem_cons_self
    rw [List.cons_append, pastBlanks]
    split_ifs with hfeed hother
    · exact ih (fun b hb => h b (List.mem_cons_of_mem _ hb)) _ _
    · exact ih (fun b hb => h b (List.mem_cons_of_mem _ hb)) _ _
    · simp only [not_or] at hother
      simp [isBlank, hfeed, hother] at hblank

/-- blanks in front of a text are passed over -/
theorem skipBlanks_gap (hgap : IsGap gap) (h : c.At (gap ++ text) rest) :
    ∃ past : Cursor, past.At text rest ∧ c.skipBlanks = past.skipBlanks := by
  obtain ⟨line, column, hpast⟩ := pastBlanks_append hgap (octets text ++ rest) c.line c.column
  refine ⟨⟨octets text ++ rest, line, column⟩, rfl, ?_⟩
  rw [skipBlanks, at_append.1 h, hpast]
  rfl

theorem length_skipBlanks_le (c : Cursor) : c.skipBlanks.rest.length ≤ c.rest.length := by
  have hbytes : ∀ (bytes : Bytes) (line column : Nat), (pastBlanks line column bytes).rest.length ≤ bytes.length := by
    intro bytes
    induction bytes with
    | nil => exact fun _ _ => Nat.le_refl _
    | cons b bytes ih =>
      intro line column
      rw [pastBlanks]
      split_ifs
      · exact Nat.le_succ_of_le (ih _ _)
      · exact Nat.le_succ_of_le (ih _ _)
      · exact Nat.le_refl _
  exact hbytes _ _ _

theorem faces_of_gap (hgap : IsGap gap) (hb : encodeChar char = [b]) (hblank : isBlank b = false)
    (h : c.At (gap ++ char :: text) rest) : c.Faces (char :: text) rest := by
  obtain ⟨past, hpast, hskip⟩ := skipBlanks_gap hgap h
  rw [Faces, hskip, hpast.skipBlanks hb hblank]
  exact hpast

theorem At.faces (h : c.At (char :: text) rest) (hb : encodeChar char = [b]) (hblank : isBlank b = false) :
    c.Faces (char :: text) rest :=
  faces_of_gap isGap_nil hb hblank h

/-! ## Entries -/

/-- the comma in front of an entry that is not the first -/
def separator : Bool → List Char
  | true => []
  | false => [',']

/-- texts with commas between them; `isFirst` says whether the first of them goes without -/
def separated : Bool → List (List Char) → List Char
  | _, [] => []
  | isFirst, text :: rest => separator isFirst ++ (text ++ separated false rest)

end Cursor

namespace Json

open Cursor

/-- the blanks in a container: in front of each entry, behind each colon, and in front of the closing sign, unless the
container is empty -/
structure Gaps where
  entry : List Char
  value : List Char
  close : List Char
  isGap_entry : IsGap entry
  isGap_value : IsGap value
  isGap_close : IsGap close

namespace Gaps

/-- no blanks -/
def none : Gaps :=
  ⟨[], [], [], isGap_nil, isGap_nil, isGap_nil⟩

/-- the blanks in front of the closing sign behind some entries -/
def ending {α : Type} (g : Gaps) (entries : List α) : List Char :=
  if entries.isEmpty then [] else g.close

theorem isGap_ending {α : Type} (g : Gaps) (entries : List α) : IsGap (g.ending entries) := by
  rw [ending]
  split_ifs
  · exact isGap_nil
  · exact g.isGap_close

/-- what stands between the signs that open and close a container with these entries -/
def enclosed (g : Gaps) (texts : List (List Char)) : List Char :=
  separated true (texts.map (g.entry ++ ·)) ++ g.ending texts

/-- a name in quotes and a text -/
def memberText (g : Gaps) (m : String × List Char) : List Char :=
  Json.memberText (m.1, g.value ++ m.2)

theorem enclosed_none (texts : List (List Char)) : none.enclosed texts = separated true texts := by
  simp [enclosed, none, ending]

theorem memberText_none (m : String × List Char) : none.memberText m = Json.memberText m := rfl

end Gaps

/-- the gaps of a container at each level, the outermost one at level 0 -/
abbrev Style := Nat → Gaps

mutual

/-- the value in a style; `level` is how far in it stands -/
def laid (style : Style) (level : Nat) : Json → List Char
  | null => chars null
  | bool b => chars (bool b)
  | number n => n.chars
  | string s => quotedChars s
  | array items => '[' :: ((style level).enclosed (laidItems style (level + 1) items) ++ [']'])
  | object members =>
    '\x7b' :: ((style level).enclosed (laidMembers style (level + 1) (style level) members) ++ ['\x7d'])

/-- `laid` for each of some items -/
def laidItems (style : Style) (level : Nat) : List Json → List (List Char)
  | [] => []
  | j :: rest => laid style level j :: laidItems style level rest

/-- the texts of some members, with the gaps of the object that they stand in -/
def laidMembers (style : Style) (level : Nat) (g : Gaps) : List (String × Json) → List (List Char)
  | [] => []
  | (k, j) :: rest => g.memberText (k, laid style level j) :: laidMembers style level g rest

end

theorem laidItems_eq_map (style : Style) (level : Nat) (items : List Json) :
    laidItems style level items = items.map (laid style level) := by
  induction items with
  | nil => rfl
  | cons j rest ih => rw [laidItems, ih, List.map_cons]

/-- the text of a member of an object with these gaps, its value at this level -/
def memberLaid (style : Style) (level : Nat) (g : Gaps) (m : String × Json) : List Char :=
  g.memberText (m.1, laid style level m.2)

theorem memberLaid_mk (style : Style) (level : Nat) (g : Gaps) (key : String) (j : Json) :
    memberLaid style level g (key, j) = quotedChars key ++ ':' :: (g.value ++ j.laid style level) := rfl

theorem laidMembers_eq_map (style : Style) (level : Nat) (g : Gaps) (members : List (String × Json)) :
    laidMembers style level g members = members.map (memberLaid style level g) := by
  induction members with
  | nil => rfl
  | cons m rest ih => rw [laidMembers, ih, List.map_cons, memberLaid]

theorem laid_array (style : Style) (level : Nat) (items : List Json) : (array items).laid style level =
    '[' :: ((style level).enclosed (items.map (laid style (level + 1))) ++ [']']) := by
  rw [laid, laidItems_eq_map]

theorem laid_object (style : Style) (level : Nat) (members : List (String × Json)) : (object members).laid style level =
    '\x7b' :: ((style level).enclosed (members.map (memberLaid style (level + 1) (style level))) ++ ['\x7d']) := by
  rw [laid, laidMembers_eq_map]

/-- a scalar looks the same in every style -/
theorem laid_scalar (style : Style) (level : Nat) {j : Json} (h : j.depth = 0) : j.laid style level = j.chars := by
  cases j with
  | array items => cases h
  | object members => cases h
  | _ => rfl

/-! ## The compact form -/

/-- no blanks at any level -/
def Style.compact : Style :=
  fun _ => Gaps.none

theorem charsItems_eq (items : List Json) : charsItems items = separated true (items.map chars) := by
  induction items with
  | nil => rfl
  | cons j rest ih =>
    cases rest with
    | nil => simp [charsItems, separated, separator]
    | cons next rest =>
      rw [charsItems, ih]
      · simp [separated, separator]
      · intro h
        cases h

/-- the written form of a member -/
def memberChars (m : String × Json) : List Char :=
  memberText (m.1, chars m.2)

theorem charsMembers_eq (members : List (String × Json)) :
    charsMembers members = separated true (members.map memberChars) := by
  induction members with
  | nil => rfl
  | cons m rest ih =>
    cases rest with
    | nil => simp [charsMembers, separated, separator, memberChars, memberText]
    | cons next rest =>
      rw [charsMembers, ih]
      · simp [separated, separator, memberChars, memberText]
      · intro h
        cases h

theorem laid_compact (j : Json) (level : Nat) : j.laid Style.compact level = j.chars := by
  induction j generalizing level with
  | array items ih =>
    have hitems : items.map (laid Style.compact (level + 1)) = items.map chars :=
      List.map_congr_left fun j hj => ih j hj _
    rw [laid_array, hitems, Style.compact, Gaps.enclosed_none, chars, charsItems_eq]
  | object members ih =>
    have hmembers : members.map (memberLaid Style.compact (level + 1) Gaps.none) = members.map memberChars :=
      List.map_congr_left fun m hm => by rw [memberLaid, ih m hm, Gaps.memberText_none, memberChars]
    rw [laid_object, show Style.compact level = Gaps.none from rfl, hmembers, Gaps.enclosed_none, chars,
      charsMembers_eq]
  | _ => rfl

/-! ## The form with a line for each entry -/

theorem isGap_replicate (n : Nat) : IsGap (List.replicate n ' ') := by
  have hblank : encodeChar ' ' = [0x20] := by decide
  intro b hb
  obtain ⟨char, hchar, hb⟩ := List.mem_flatMap.1 hb
  rw [List.eq_of_mem_replicate hchar, hblank, List.mem_singleton] at hb
  rw [hb]
  decide

theorem isGap_lineStart (level : Nat) : IsGap (lineStart level) := by
  have hfeed : encodeChar '\n' = [0x0A] := by decide
  intro b hb
  rw [lineStart, octets_cons, List.mem_append, hfeed, List.mem_singleton] at hb
  rcases hb with rfl | hb
  · decide
  · exact isGap_replicate _ b hb

/-- each entry on a line of its own, one level further in than the container -/
def Style.lines : Style := fun level =>
  ⟨lineStart (level + 1), [' '], lineStart level, isGap_lineStart _, isGap_replicate 1, isGap_lineStart _⟩

theorem prettyItems_eq (level : Nat) (items : List Json) :
    prettyItems level items = separated true (items.map fun j => lineStart level ++ prettyChars level j) := by
  induction items with
  | nil => rfl
  | cons j rest ih =>
    cases rest with
    | nil => simp [prettyItems, separated, separator]
    | cons next rest =>
      rw [prettyItems, ih]
      · simp [separated, separator]
      · intro h
        cases h

theorem prettyMembers_eq (level : Nat) (members : List (String × Json)) :
    prettyMembers level members =
      separated true (members.map fun m => lineStart level ++ memberText (m.1, ' ' :: prettyChars level m.2)) := by
  induction members with
  | nil => rfl
  | cons m rest ih =>
    cases rest with
    | nil => simp [prettyMembers, separated, separator, memberText]
    | cons next rest =>
      rw [prettyMembers, ih]
      · simp [separated, separator, memberText]
      · intro h
        cases h

theorem laid_lines (j : Json) (level : Nat) : j.laid Style.lines level = j.prettyChars level := by
  induction j generalizing level with
  | bool b => cases b <;> rfl
  | array items ih =>
    have hitems : (items.map (laid Style.lines (level + 1))).map ((Style.lines level).entry ++ ·) =
        items.map fun j => lineStart (level + 1) ++ prettyChars (level + 1) j := by
      rw [List.map_map]
      exact List.map_congr_left fun j hj => congrArg (lineStart (level + 1) ++ ·) (ih j hj _)
    rw [laid_array, Gaps.enclosed, hitems, ← prettyItems_eq]
    cases items with
    | nil => rfl
    | cons j rest =>
      rw [prettyChars, List.append_assoc, List.append_assoc]
      · rfl
      · exact nofun
  | object members ih =>
    have hmembers : (members.map (memberLaid Style.lines (level + 1) (Style.lines level))).map
        ((Style.lines level).entry ++ ·) =
          members.map fun m => lineStart (level + 1) ++ memberText (m.1, ' ' :: prettyChars (level + 1) m.2) := by
      rw [List.map_map]
      exact List.map_congr_left fun m hm => by rw [Function.comp, memberLaid, ih m hm]; rfl
    rw [laid_object, Gaps.enclosed, hmembers, ← prettyMembers_eq]
    cases members with
    | nil => rfl
    | cons m rest =>
      rw [prettyChars, List.append_assoc, List.append_assoc]
      · rfl
      · exact nofun
  | _ => rfl

end Json

end ToolGateway
