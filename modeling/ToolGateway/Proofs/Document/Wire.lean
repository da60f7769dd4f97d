import ToolGateway.Proofs.Document.Rereading
import ToolGateway.Proofs.Envelope.Opening
import ToolGateway.Proofs.Tool.Document
import ToolGateway.Call
import ToolGateway.Configuration
import ToolGateway.HiddenText.Document

/-!
The types of documents that are sent: what was read of them once is read again.

Each is a record, so its fields are gone through one by one. A field that is not written is one whose fallback is
exactly what it then holds; in particular the two hints that are true when they are left out are always written.

- `wire_types_reread`: for all twelve types and all texts.
-/

namespace ToolGateway

open Codec Fields

/-! ## Tools and listings -/

theorem Tool.stable (depth : Nat) : Tool.codec.Stable (depth + 2) := by
  refine record_stable ?_ (fun _ => rfl) ?_
  · simp [Fields.names]
  · exact ⟨fun s _ _ => text_readsBack s _, fun s _ _ => text_readsBack s _, holds_optional (optional_free_stable _),
      holds_omitted (dictionary_stable (free_stable depth)) fun _ => List.isEmpty_iff,
      holds_optional (optional_free_stable _), holds_optional (optional_free_stable _), fun h _ _ => h.readsBack depth,
      fun s _ _ => s.readsBack depth, trivial⟩

theorem Listing.stable (depth : Nat) : Listing.codec.Stable (depth + 4) := by
  refine record_stable ?_ (fun _ => rfl) ?_
  · simp [Fields.names]
  · exact ⟨holds_required (list_stable (Tool.stable depth)) rfl, fun b _ _ => flag_readsBack b _,
      fun s _ _ => text_readsBack s _, fun s _ _ => text_readsBack s _, trivial⟩

theorem Policy.stable (depth : Nat) : Policy.codec.Stable (depth + 1) := by
  refine record_stable ?_ (fun _ => rfl) ?_
  · simp [Fields.names]
  · exact ⟨fun b _ _ => flag_readsBack b _, fun b _ _ => flag_readsBack b _, trivial⟩

/-! ## Findings -/

theorem Hazard.readsBack (h : Hazard) (depth : Nat) : Hazard.codec.ReadsBack depth h h :=
  choice_readsBack (by cases h <;> rfl) depth

theorem HiddenText.Finding.stable (depth : Nat) : Finding.codec.Stable (depth + 1) := by
  refine record_stable ?_ (fun _ => rfl) ?_
  · simp [Fields.names]
  · exact ⟨fun c _ _ => glyph_readsBack c _, fun s _ _ => text_readsBack s _, holds_required (count_stable _ _) rfl,
      fun h _ _ => h.readsBack _, holds_omitted (fun s _ _ => text_readsBack s _) fun _ => String.isEmpty_iff, trivial⟩

/-! ## Calls -/

theorem Status.readsBack (s : Status) (depth : Nat) : Status.codec.ReadsBack depth s s :=
  choice_readsBack (by cases s <;> rfl) depth

theorem Report.stable (depth : Nat) : Report.codec.Stable (depth + 1) := by
  refine record_stable ?_ (fun _ => rfl) ?_
  · simp [Fields.names]
  · exact ⟨fun s _ _ => s.readsBack _, holds_optional (optional_text_stable _), trivial⟩

/-- `null` is what a text can stand for -/
theorem gives_null (depth : Nat) : Codec.free.Gives depth .null ∧ Codec.free.optional.Gives depth none ∧
    Codec.text.optional.Gives depth none :=
  ⟨⟨Cursor.start [0x6E, 0x75, 0x6C, 0x6C], _, rfl⟩, ⟨Cursor.start [0x6E, 0x75, 0x6C, 0x6C], _, rfl⟩,
    ⟨Cursor.start [0x6E, 0x75, 0x6C, 0x6C], _, rfl⟩⟩

theorem Call.stable (depth : Nat) : Call.codec.Stable (depth + 1) := by
  refine record_stable ?_ (fun _ => rfl) ?_
  · simp [Fields.names]
  · refine ⟨fun s _ _ => text_readsBack s _, holds_written (free_stable _) fun a ha => ?_, trivial⟩
    cases ha
    exact (gives_null depth).1

theorem Description.stable (depth : Nat) : Description.codec.Stable (depth + 1) := by
  refine record_stable ?_ (fun _ => rfl) ?_
  · simp [Fields.names]
  · refine ⟨fun s _ _ => text_readsBack s _, fun s _ _ => text_readsBack s _,
      holds_written (optional_free_stable _) fun a ha => ?_, holds_optional (optional_free_stable _), trivial⟩
    cases ha
    exact (gives_null depth).2.1

/-! ## Configurations -/

namespace Configuration

theorem RegistrySection.stable (depth : Nat) : RegistrySection.codec.Stable (depth + 1) := by
  refine record_stable ?_ (fun _ => rfl) ?_
  · simp [Fields.names]
  · exact ⟨fun b _ _ => flag_readsBack b _, fun b _ _ => flag_readsBack b _, fun b _ _ => flag_readsBack b _,
      fun b _ _ => flag_readsBack b _, fun s _ _ => textNamed_readsBack _ s _, trivial⟩

theorem CatalogSection.stable (depth : Nat) : CatalogSection.codec.Stable (depth + 1) := by
  have hnone : ∀ a, ((some none : Option (Option String)) <|> Codec.text.optional.ifMissing) = some a →
      Codec.text.optional.Gives depth a := by
    intro a ha
    cases ha
    exact (gives_null depth).2.2
  refine record_stable ?_ (fun _ => rfl) ?_
  · simp [Fields.names]
  · refine ⟨holds_written (optional_text_stable _) hnone, holds_written (optional_text_stable _) hnone,
      holds_written (count_stable _ _) fun n hn => ?_, trivial⟩
    cases hn
    exact ⟨Cursor.start [0x33], _, rfl⟩

theorem ValidationSection.stable (depth : Nat) : ValidationSection.codec.Stable (depth + 1) := by
  refine record_stable ?_ (fun _ => rfl) ?_
  · simp [Fields.names]
  · refine ⟨holds_written (count_stable _ _) fun n hn => ?_, fun b _ _ => flag_readsBack b _, trivial⟩
    cases hn
    exact ⟨Cursor.start [0x38], _, rfl⟩

/-- a section that is left out is read from an empty one -/
theorem stable (depth : Nat) : Configuration.codec.Stable (depth + 2) := by
  refine record_stable ?_ (fun _ => rfl) ?_
  · simp [Fields.names]
  · refine ⟨holds_written (RegistrySection.stable depth) fun r hr => ?_,
      holds_written (CatalogSection.stable depth) fun c hc => ?_,
      holds_written (ValidationSection.stable depth) fun v hv => ?_, trivial⟩
    · cases hr
      exact ⟨Cursor.start [0x7B, 0x7D], _, rfl⟩
    · cases hc
      exact ⟨Cursor.start [0x7B, 0x7D], _, rfl⟩
    · cases hv
      exact ⟨Cursor.start [0x7B, 0x7D], _, rfl⟩

end Configuration

/-! ## Main result -/

/-- **Every type of documents survives being written and read again.** Whatever text is read as a document of one of
the twelve types, its members in any order, with unknown members, with `null`, with members left out, or given as a
list: the value that was read is written as a text that is read as this same value, if the doubles in it are read back.
-/
theorem wire_types_reread :
    Tool.codec.Rereads ∧ Hints.codec.Rereads ∧ Stamp.codec.Rereads ∧ Listing.codec.Rereads ∧ Policy.codec.Rereads ∧
    HiddenText.Finding.codec.Rereads ∧ Report.codec.Rereads ∧ Review.codec.Rereads ∧ Call.codec.Rereads ∧
    Description.codec.Rereads ∧ Envelope.Payload.codec.Rereads ∧ Configuration.codec.Rereads :=
  ⟨rereads (Tool.stable _), rereads fun h _ _ => h.readsBack _, rereads fun s _ _ => s.readsBack _,
    rereads (Listing.stable _), rereads (Policy.stable _), rereads (HiddenText.Finding.stable _),
    rereads (Report.stable _), rereads fun r _ _ => r.readsBack _, rereads (Call.stable _),
    rereads (Description.stable _), rereads fun p _ _ => p.readsBack _, rereads (Configuration.stable _)⟩

/-- a tool that is given as a list, `["t","",null]`, and written as an object -/
theorem wire_types_reread_list :
    let bytes : Bytes := [0x5B, 0x22, 0x74, 0x22, 0x2C, 0x22, 0x22, 0x2C, 0x6E, 0x75, 0x6C, 0x6C, 0x5D]
    Tool.codec.read bytes = .ok { name := "t" } ∧
      Tool.codec.read (Utf8.encode (Tool.codec.write { name := "t" })) = .ok { name := "t" } := by
  intro bytes
  have hread : Tool.codec.read bytes = .ok { name := "t" } := by rfl
  have hdoubles : (Tool.codec.toJson { name := "t" }).DoublesReread := by
    change (Json.object [("name", .string "t"), ("description", .string ""),
      ("annotations", .object [("readOnlyHint", .bool false), ("destructiveHint", .bool true),
        ("idempotentHint", .bool false), ("openWorldHint", .bool true)]),
      ("secMetaData", .object [])]).DoublesReread
    simp [Json.DoublesReread, Json.Everywhere, Json.EverywhereMembers]
  obtain ⟨hreread, -⟩ := wire_types_reread
  exact ⟨hread, hreread bytes _ hread hdoubles⟩

end ToolGateway
