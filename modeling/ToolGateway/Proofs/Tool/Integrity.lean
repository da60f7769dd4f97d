import ToolGateway.Proofs.Json.Canonical
import ToolGateway.Tool.Integrity

/-!
What the two hashes of a tool bind.

- `projection_canonical_eq`: the text behind the checksum tells name, description and the canonical form of the input
  schema, whatever quotes or JSON signs the first two contain.
- `stamp_binds_projection`: tools that agree on these three have equal checksums, whatever else differs; equal checksums
  are those of tools that agree, unless SHA-256 collides. The fingerprint binds the input schema alone in the same way.
-/

namespace ToolGateway.Tool

open Json

/-- the input schema, `null` when there is none -/
def schema (t : Tool) : Json :=
  t.inputSchema.getD .null

/-- the tools agree on all that the checksum is taken of -/
structure Agrees (a b : Tool) : Prop where
  name : a.name = b.name
  description : a.description = b.description
  schema : a.schema.Alike b.schema

/-! ## Writing hashes into a tool -/

@[simp] theorem checksum_withChecksum (t : Tool) (c : String) : (t.withChecksum c).checksum = t.checksum := rfl

@[simp] theorem checksum_withSignature (t : Tool) (c : String) : (t.withSignature c).checksum = t.checksum := rfl

@[simp] theorem fingerprint_withChecksum (t : Tool) (c : String) :
    (t.withChecksum c).fingerprint = t.fingerprint := rfl

@[simp] theorem fingerprint_withSignature (t : Tool) (c : String) :
    (t.withSignature c).fingerprint = t.fingerprint := rfl

/-! ## The checksum -/

/-- the members of the projection are written in the order in which they are given -/
theorem projection_chars (t : Tool) : canonicalChars t.projection =
    '\x7b' :: (quotedChars "description" ++ ':' :: (quotedChars t.description ++
      ',' :: (quotedChars "inputSchema" ++ ':' :: (canonicalChars t.schema ++
        ',' :: (quotedChars "name" ++ ':' :: (quotedChars t.name ++ ['\x7d'])))))) := by
  have hsorted : sortByUnits [("description", Json.string t.description), ("inputSchema", t.schema),
      ("name", .string t.name)] = [("description", .string t.description), ("inputSchema", t.schema),
        ("name", .string t.name)] := by
    refine List.mergeSort_of_pairwise ?_
    have h1 : (Utf16.compare "description" "inputSchema").isLE = true := by decide
    have h2 : (Utf16.compare "description" "name").isLE = true := by decide
    have h3 : (Utf16.compare "inputSchema" "name").isLE = true := by decide
    simp [h1, h2, h3]
  rw [projection, canonicalChars_object, ← schema, hsorted]
  simp [canonicalMember, joinMembers, canonicalChars]

/-- **The projection is known from its canonical form.** -/
theorem projection_canonical_eq {a b : Tool} : a.projection.canonical = b.projection.canonical ↔
    a.name = b.name ∧ a.description = b.description ∧ a.schema.canonical = b.schema.canonical := by
  rw [canonical_inj, canonical_inj, projection_chars, projection_chars]
  constructor
  · intro h
    -- each text ends by its quote, and the schema by the comma behind it
    obtain ⟨-, h⟩ := quotedChars_append_inj (List.cons.inj h).2
    obtain ⟨hdescription, h⟩ := quotedChars_append_inj (List.cons.inj h).2
    obtain ⟨-, h⟩ := quotedChars_append_inj (List.cons.inj h).2
    have hschema := (List.cons.inj h).2
    obtain ⟨-, h⟩ := canonicalChars_append_inj a.schema b.schema _ _ hschema
      (endsValue_cons (by decide)) (endsValue_cons (by decide))
    rw [h] at hschema
    obtain ⟨-, h⟩ := quotedChars_append_inj (List.cons.inj h).2
    obtain ⟨hname, -⟩ := quotedChars_append_inj (List.cons.inj h).2
    exact ⟨hname, hdescription, List.append_cancel_right hschema⟩
  · rintro ⟨hname, hdescription, hschema⟩
    rw [hname, hdescription, hschema]

theorem checksum_eq_iff {a b : Tool} : a.checksum = b.checksum ↔
    (a.name = b.name ∧ a.description = b.description ∧ a.schema.canonical = b.schema.canonical) ∨
      Sha256.Collide a.projection.canonical b.projection.canonical := by
  rw [checksum, checksum, hexDigest_eq_iff, projection_canonical_eq]

theorem agrees_iff {a b : Tool} (ha : a.schema.HasDistinctNames) : a.Agrees b ↔
    a.name = b.name ∧ a.description = b.description ∧ a.schema.canonical = b.schema.canonical := by
  rw [canonical_inj, canonicalChars_eq_iff ha]
  exact ⟨fun h => ⟨h.name, h.description, h.schema⟩, fun ⟨h1, h2, h3⟩ => ⟨h1, h2, h3⟩⟩

/-! ## The fingerprint -/

theorem fingerprint_of_schema {t : Tool} {s : Json} (h : t.inputSchema = some s) :
    t.fingerprint = .ok s.hexDigest := by
  rw [fingerprint, h]

theorem fingerprint_eq_iff {a b : Tool} {s t : Json} (ha : a.inputSchema = some s) (hb : b.inputSchema = some t) :
    a.fingerprint = b.fingerprint ↔ s.canonical = t.canonical ∨ Sha256.Collide s.canonical t.canonical := by
  rw [fingerprint_of_schema ha, fingerprint_of_schema hb, Except.ok.injEq, hexDigest_eq_iff]

/-! ## Main result -/

/-- **The hashes bind exactly the projected fields.** For any two tools, agreement on name, description and input schema
gives equal checksums, and equal checksums mean agreement or two distinct projections with one SHA-256 digest; and so
for the fingerprints and the input schemas, where both are present. -/
theorem stamp_binds_projection (a b : Tool) (ha : a.schema.HasDistinctNames) :
    (a.Agrees b → a.checksum = b.checksum) ∧
    (a.checksum = b.checksum → a.Agrees b ∨ Sha256.Collide a.projection.canonical b.projection.canonical) ∧
    ∀ s t, a.inputSchema = some s → b.inputSchema = some t →
      (s.Alike t → a.fingerprint = b.fingerprint) ∧
      (a.fingerprint = b.fingerprint → s.Alike t ∨ Sha256.Collide s.canonical t.canonical) := by
  refine ⟨fun h => checksum_eq_iff.2 (.inl ((agrees_iff ha).1 h)), fun h => ?_, fun s t hs ht => ?_⟩
  · exact (checksum_eq_iff.1 h).imp (agrees_iff ha).2 id
  · have hdistinct : s.HasDistinctNames := by simpa [schema, hs] using ha
    rw [fingerprint_eq_iff hs ht, canonical_inj, canonicalChars_eq_iff hdistinct]
    exact ⟨.inl, id⟩

/-- two tools whose schemas are written differently, and which differ in their hints and stamps -/
theorem stamp_binds_reordered :
    let a : Tool := { name := "t", inputSchema := some (object [("x", null), ("y", bool true)]) }
    let b : Tool := { name := "t", inputSchema := some (object [("y", bool true), ("x", null)]),
                      hints := { isReadOnly := true }, stamp := { checksum := "forged" } }
    a.schema.HasDistinctNames ∧ a.checksum = b.checksum ∧ a.fingerprint = b.fingerprint := by
  intro a b
  have ha : a.schema.HasDistinctNames := by
    simp [a, schema, HasDistinctNames, Everywhere]
  have halike : (object [("x", null), ("y", bool true)]).Alike (object [("y", bool true), ("x", null)]) :=
    alike_object.2 ⟨_, .cons ⟨rfl, trivial⟩ (.cons ⟨rfl, rfl⟩ .nil), .swap _ _ _⟩
  obtain ⟨hchecksum, -, hfingerprint⟩ := stamp_binds_projection a b ha
  exact ⟨ha, hchecksum ⟨rfl, rfl, halike⟩, (hfingerprint _ _ rfl rfl).1 halike⟩

end ToolGateway.Tool
