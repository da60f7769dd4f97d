import ToolGateway.Configuration
import ToolGateway.Proofs.Bytes.Utf8
import ToolGateway.Proofs.Configuration.Toml
import ToolGateway.Proofs.Configuration.Variable
import ToolGateway.Proofs.Document.Record

/-!
Configurations in layers.

A configuration has ten fields (`Field`), each at its own path, of one of four kinds. What is loaded depends on nothing
but the setting that is given at each of these paths: the value of the last variable with the path, or else what the
file has there (`given`).

- `Kind.reads_flag` and its like: what a kind reads is what the documents of its type are read from.
- `codec_fromJson`: settings whose sections are groups and whose fields fit make a configuration field by field.
- `load_eq`: so do a file and variables that fit.
- `load_layered`: each field takes the variable's value, else the file's, else the built-in one, whatever the order of
  the variables and whatever else stands in the file and among the variables.
-/

namespace ToolGateway.Configuration

open Variable (lastValue? path? setting)

/-! ## Fields -/

/-- what the value of a field has to be -/
inductive Kind : Type → Type where
  | flag : Kind Bool
  | text : Kind String
  | optionalText : Kind (Option String)
  | count : Kind Nat

/-- the value that a setting gives to a field -/
def Kind.read? {α : Type} : Kind α → Setting → Option α
  | flag => fun
    | .flag b => some b
    | _ => none
  | text => fun
    | .text s => some s
    | _ => none
  | optionalText => fun
    | .text s => some (some s)
    | _ => none
  | count => fun
    | .natural n => some n
    | .integer i => if 0 ≤ i then some i.toNat else none
    | _ => none

/-- a field of a configuration, with the type of its values -/
inductive Field : Type → Type where
  | isSecured : Field Bool
  | validatesChecksums : Field Bool
  | rejectsUnsigned : Field Bool
  | requiresProvenance : Field Bool
  | snapshotPath : Field String
  | url : Field (Option String)
  | apiKey : Field (Option String)
  | timeoutSeconds : Field Nat
  | maxConcurrency : Field Nat
  | scansDescriptions : Field Bool

namespace Field

variable {α : Type}

/-- the name of the section that the field belongs to -/
def sectionName : Field α → String
  | isSecured | validatesChecksums | rejectsUnsigned | requiresProvenance | snapshotPath => "registry"
  | url | apiKey | timeoutSeconds => "catalog"
  | maxConcurrency | scansDescriptions => "validation"

/-- the name of the field in its section -/
def name : Field α → String
  | isSecured => "security_enabled"
  | validatesChecksums => "validate_checksums"
  | rejectsUnsigned => "reject_unsigned_tools"
  | requiresProvenance => "require_provenance"
  | snapshotPath => "snapshot_path"
  | url => "url"
  | apiKey => "api_key"
  | timeoutSeconds => "timeout_secs"
  | maxConcurrency => "max_concurrency"
  | scansDescriptions => "scan_descriptions"

/-- the path of the field -/
def path (f : Field α) : List String :=
  [f.sectionName, f.name]

theorem path_ne_nil (f : Field α) : f.path ≠ [] :=
  List.cons_ne_nil _ _

/-- what the value of the field has to be -/
def kind : Field α → Kind α
  | isSecured | validatesChecksums | rejectsUnsigned | requiresProvenance | scansDescriptions => .flag
  | snapshotPath => .text
  | url | apiKey => .optionalText
  | timeoutSeconds | maxConcurrency => .count

/-- the field of a configuration -/
def get (c : Configuration) : Field α → α
  | isSecured => c.registry.isSecured
  | validatesChecksums => c.registry.validatesChecksums
  | rejectsUnsigned => c.registry.rejectsUnsigned
  | requiresProvenance => c.registry.requiresProvenance
  | snapshotPath => c.registry.snapshotPath
  | url => c.catalog.url
  | apiKey => c.catalog.apiKey
  | timeoutSeconds => c.catalog.timeoutSeconds
  | maxConcurrency => c.validation.maxConcurrency
  | scansDescriptions => c.validation.scansDescriptions

/-- the built-in value of the field -/
def builtIn (f : Field α) : α :=
  f.get {}

/-- the value of the field when these settings are given at the paths -/
def value (given : List String → Option Setting) (f : Field α) : α :=
  ((given f.path).bind f.kind.read?).getD f.builtIn

/-- a field is known from its path -/
theorem eq_of_path {β : Type} (f : Field α) (g : Field β) (h : f.path = g.path) :
    (⟨α, f⟩ : Σ γ, Field γ) = ⟨β, g⟩ := by
  cases f <;> cases g <;> first | rfl | exact absurd h (by decide)

end Field

/-- the configuration when these settings are given at the paths -/
def ofGiven (given : List String → Option Setting) : Configuration where
  registry :=
    { isSecured := Field.isSecured.value given
      validatesChecksums := Field.validatesChecksums.value given
      rejectsUnsigned := Field.rejectsUnsigned.value given
      requiresProvenance := Field.requiresProvenance.value given
      snapshotPath := Field.snapshotPath.value given }
  catalog :=
    { url := Field.url.value given
      apiKey := Field.apiKey.value given
      timeoutSeconds := Field.timeoutSeconds.value given }
  validation :=
    { maxConcurrency := Field.maxConcurrency.value given
      scansDescriptions := Field.scansDescriptions.value given }

theorem get_ofGiven {α : Type} (f : Field α) (given : List String → Option Setting) :
    f.get (ofGiven given) = f.value given := by
  cases f <;> rfl

/-- a configuration is known from its fields -/
theorem ofGiven_congr {given other : List String → Option Setting}
    (h : ∀ {α : Type} (f : Field α), given f.path = other f.path) : ofGiven given = ofGiven other := by
  have hvalue : ∀ {α : Type} (f : Field α), f.value given = f.value other := fun f => by
    rw [Field.value, Field.value, h f]
  simp only [ofGiven, hvalue]

/-! ## Documents -/

/-- settings that a kind reads are read as documents alike -/
def Kind.Reads {α : Type} (kind : Kind α) (codec : Codec α) : Prop :=
  ∀ s a, kind.read? s = some a → codec.fromJson s.toJson = .ok a

theorem Kind.reads_flag : Kind.flag.Reads Codec.flag := by
  intro s a h
  cases s with
  | flag b =>
    cases h
    rw [Setting.toJson]
    rfl
  | _ => cases h

theorem Kind.reads_text (expected : String) : Kind.text.Reads (Codec.textNamed expected) := by
  intro s a h
  cases s with
  | text value =>
    cases h
    rw [Setting.toJson]
    rfl
  | _ => cases h

theorem Kind.reads_optionalText : Kind.optionalText.Reads (Codec.optional .text) := by
  intro s a h
  cases s with
  | text value =>
    cases h
    rw [Setting.toJson]
    rfl
  | _ => cases h

theorem Kind.reads_count (expected : String) : Kind.count.Reads (Codec.count expected) := by
  intro s a h
  cases s with
  | natural n =>
    cases h
    rw [Setting.toJson]
    rfl
  | integer i =>
    dsimp only [Kind.read?] at h
    split_ifs at h with hi
    cases h
    rw [Setting.toJson]
    simp [Codec.count, Codec.scalar, Json.int, Json.found, hi, Except.mapError]
  | _ => cases h

/-- the setting that is given to a field, if any, is of its kind -/
def Fits (given : List String → Option Setting) : Prop :=
  ∀ {α : Type} (f : Field α) (s : Setting), given f.path = some s → ∃ a, f.kind.read? s = some a

section Sections

variable {m : Setting} {entries inner : List (String × Setting)}

theorem find?_section (sectionName name : String) (hsection : entries.lookup sectionName = some (.group inner)) :
    (Setting.group entries).find? [sectionName, name] = inner.lookup name := by
  rw [Setting.find?_cons_group, hsection, Option.bind_some, Setting.find?_cons_group]
  cases inner.lookup name <;> rfl

/-- a field of a section is read, or falls back -/
theorem field_taken {α : Type} (f : Field α) {codec : Codec α} (hreads : f.kind.Reads codec)
    (hfits : Fits ((Setting.group entries).find? ·)) (hsection : entries.lookup f.sectionName = some (.group inner)) :
    (∀ j, (inner.lookup f.name).map Setting.toJson = some j →
        codec.fromJson j = .ok (f.value ((Setting.group entries).find? ·))) ∧
      ((inner.lookup f.name).map Setting.toJson = none →
        (some f.builtIn <|> codec.ifMissing) = some (f.value ((Setting.group entries).find? ·))) := by
  have hfind := find?_section f.sectionName f.name hsection
  rw [Field.value, Field.path, hfind]
  cases hfound : inner.lookup f.name with
  | none => exact ⟨nofun, fun _ => rfl⟩
  | some s =>
    obtain ⟨a, ha⟩ := hfits f s (hfind.trans hfound)
    refine ⟨fun j hj => ?_, nofun⟩
    cases hj
    rw [Option.bind_some, ha]
    exact hreads s a ha

theorem field_absent {α : Type} (f : Field α) (hsection : entries.lookup f.sectionName = none) :
    f.value ((Setting.group entries).find? ·) = f.builtIn := by
  rw [Field.value, Field.path, Setting.find?_cons_group, hsection]
  rfl

/-- the members of a group, as a record finds them -/
theorem group_toJson (h : (Setting.group inner).Distinct) :
    ∃ members, (Setting.group inner).toJson = .object members ∧ (members.map (·.1)).Nodup ∧
      ∀ name, Table.find? name members = (inner.lookup name).map Setting.toJson := by
  refine ⟨_, ?_, (Table.ofList_ascending _).nodup, Setting.find?_toJson h.names⟩
  rw [Setting.toJson, Json.ofMembers]

/-- a section is read, or falls back -/
theorem section_taken {σ : Type} {codec : Codec σ} (name : String) (builtIn : σ) {value : σ}
    (hgroup : ∀ s, entries.lookup name = some s → s.IsGroup)
    (hpresent : ∀ inner, entries.lookup name = some (.group inner) →
      codec.fromJson (Setting.group inner).toJson = .ok value)
    (habsent : entries.lookup name = none → value = builtIn) :
    (∀ j, (entries.lookup name).map Setting.toJson = some j → codec.fromJson j = .ok value) ∧
      ((entries.lookup name).map Setting.toJson = none → (some builtIn <|> codec.ifMissing) = some value) := by
  cases hfound : entries.lookup name with
  | none =>
    refine ⟨nofun, fun _ => ?_⟩
    rw [habsent hfound]
    rfl
  | some s =>
    obtain ⟨inner, rfl⟩ := hgroup s hfound
    refine ⟨fun j hj => ?_, nofun⟩
    cases hj
    exact hpresent inner hfound

theorem registry_absent (h : entries.lookup "registry" = none) :
    (ofGiven ((Setting.group entries).find? ·)).registry = {} := by
  simp only [ofGiven, field_absent .isSecured h, field_absent .validatesChecksums h, field_absent .rejectsUnsigned h,
    field_absent .requiresProvenance h, field_absent .snapshotPath h]
  rfl

theorem catalog_absent (h : entries.lookup "catalog" = none) :
    (ofGiven ((Setting.group entries).find? ·)).catalog = {} := by
  simp only [ofGiven, field_absent .url h, field_absent .apiKey h, field_absent .timeoutSeconds h]
  rfl

theorem validation_absent (h : entries.lookup "validation" = none) :
    (ofGiven ((Setting.group entries).find? ·)).validation = {} := by
  simp only [ofGiven, field_absent .maxConcurrency h, field_absent .scansDescriptions h]
  rfl

variable (hfits : Fits ((Setting.group entries).find? ·))
include hfits

theorem registry_fromJson (hsection : entries.lookup "registry" = some (.group inner))
    (hdistinct : (Setting.group inner).Distinct) :
    RegistrySection.codec.fromJson (Setting.group inner).toJson =
      .ok (ofGiven ((Setting.group entries).find? ·)).registry := by
  obtain ⟨members, hjson, hnames, hfind⟩ := group_toJson hdistinct
  rw [hjson]
  refine Codec.record_fromJson (by decide) hnames (_, _, _, _, _, ()) ?_
  simp only [hfind]
  obtain ⟨read₁, missing₁⟩ := field_taken .isSecured Kind.reads_flag hfits hsection
  obtain ⟨read₂, missing₂⟩ := field_taken .validatesChecksums Kind.reads_flag hfits hsection
  obtain ⟨read₃, missing₃⟩ := field_taken .rejectsUnsigned Kind.reads_flag hfits hsection
  obtain ⟨read₄, missing₄⟩ := field_taken .requiresProvenance Kind.reads_flag hfits hsection
  obtain ⟨read₅, missing₅⟩ := field_taken .snapshotPath (Kind.reads_text "path string") hfits hsection
  exact ⟨read₁, missing₁, read₂, missing₂, read₃, missing₃, read₄, missing₄, read₅, missing₅, trivial⟩

theorem catalog_fromJson (hsection : entries.lookup "catalog" = some (.group inner))
    (hdistinct : (Setting.group inner).Distinct) :
    CatalogSection.codec.fromJson (Setting.group inner).toJson =
      .ok (ofGiven ((Setting.group entries).find? ·)).catalog := by
  obtain ⟨members, hjson, hnames, hfind⟩ := group_toJson hdistinct
  rw [hjson]
  refine Codec.record_fromJson (by decide) hnames (_, _, _, ()) ?_
  simp only [hfind]
  obtain ⟨read₁, missing₁⟩ := field_taken .url Kind.reads_optionalText hfits hsection
  obtain ⟨read₂, missing₂⟩ := field_taken .apiKey Kind.reads_optionalText hfits hsection
  obtain ⟨read₃, missing₃⟩ := field_taken .timeoutSeconds (Kind.reads_count "u64") hfits hsection
  exact ⟨read₁, missing₁, read₂, missing₂, read₃, missing₃, trivial⟩

theorem validation_fromJson (hsection : entries.lookup "validation" = some (.group inner))
    (hdistinct : (Setting.group inner).Distinct) :
    ValidationSection.codec.fromJson (Setting.group inner).toJson =
      .ok (ofGiven ((Setting.group entries).find? ·)).validation := by
  obtain ⟨members, hjson, hnames, hfind⟩ := group_toJson hdistinct
  rw [hjson]
  refine Codec.record_fromJson (by decide) hnames (_, _, ()) ?_
  simp only [hfind]
  obtain ⟨read₁, missing₁⟩ := field_taken .maxConcurrency (Kind.reads_count "usize") hfits hsection
  obtain ⟨read₂, missing₂⟩ := field_taken .scansDescriptions Kind.reads_flag hfits hsection
  exact ⟨read₁, missing₁, read₂, missing₂, trivial⟩

end Sections

/-- **Settings whose sections are groups and whose fields fit make a configuration field by field.** -/
theorem codec_fromJson {m : Setting} (hdistinct : m.Distinct) (hclear : ∀ {α : Type} (f : Field α), m.Clear f.path)
    (hfits : Fits (m.find? ·)) : codec.fromJson m.toJson = .ok (ofGiven (m.find? ·)) := by
  obtain ⟨entries, rfl, -⟩ := hclear .isSecured
  have hgroup : ∀ {α : Type} (f : Field α) (s : Setting), entries.lookup f.sectionName = some s → s.IsGroup := by
    intro α f s hfound
    obtain ⟨others, heq, hinner⟩ := hclear f
    cases heq
    obtain ⟨inner, rfl, -⟩ := hinner s hfound
    exact Setting.isGroup_group inner
  obtain ⟨members, hjson, hnames, hfind⟩ := group_toJson hdistinct
  rw [hjson]
  refine Codec.record_fromJson (by decide) hnames (_, _, _, ()) ?_
  simp only [hfind]
  obtain ⟨registry, noRegistry⟩ := section_taken "registry" {} (hgroup .isSecured)
    (fun inner hinner => registry_fromJson hfits hinner (hdistinct.part hinner)) registry_absent
  obtain ⟨catalog, noCatalog⟩ := section_taken "catalog" {} (hgroup .url)
    (fun inner hinner => catalog_fromJson hfits hinner (hdistinct.part hinner)) catalog_absent
  obtain ⟨validation, noValidation⟩ := section_taken "validation" {} (hgroup .maxConcurrency)
    (fun inner hinner => validation_fromJson hfits hinner (hdistinct.part hinner)) validation_absent
  exact ⟨registry, noRegistry, catalog, noCatalog, validation, noValidation, trivial⟩

/-! ## Sources -/

/-- the file, if there is one, holds these settings -/
def Holds (file : Option (String × Option Bytes)) (content : Setting) : Prop :=
  match file with
  | none => content = .group []
  | some (_, bytes) => ∃ b, bytes = some b ∧ (Utf8.decode? b).bind Toml.read? = some content

/-- what stands in a file under a known key fits: a section is a table, and the value of a field is of its kind -/
structure FileFits (content : Setting) : Prop where
  sections : ∀ {α : Type} (f : Field α) (s : Setting), content.find? [f.sectionName] = some s → s.IsGroup
  fields : Fits (content.find? ·)

/-- a variable fits: it has no path of a section and none below a field, and if it has the path of a field its value is
of the kind of that field -/
def VariableFits (start : String) (v : String × String) : Prop :=
  ∀ path, path? start v.1 = some path → ∀ {α : Type} (f : Field α), path <+: f.path ∨ f.path <+: path →
    path = f.path ∧ ∃ a, f.kind.read? (setting v.2) = some a

theorem variableFits_of_field {start : String} {v : String × String} {α : Type} (f : Field α) {a : α}
    (hpath : path? start v.1 = some f.path) (hread : f.kind.read? (setting v.2) = some a) : VariableFits start v := by
  intro path hsome β g hmeet
  rw [hpath] at hsome
  cases hsome
  have heq : f.path = g.path := by
    rcases hmeet with h | h
    · exact h.eq_of_length rfl
    · exact (h.eq_of_length rfl).symm
  cases f.eq_of_path g heq
  exact ⟨rfl, a, hread⟩

/-- a variable outside of all sections fits, whatever its value -/
theorem variableFits_elsewhere {start first : String} {rest : List String} {v : String × String}
    (hpath : path? start v.1 = some (first :: rest)) (helse : ∀ {α : Type} (f : Field α), f.sectionName ≠ first) :
    VariableFits start v := by
  intro path hsome α f hmeet
  rw [hpath] at hsome
  cases hsome
  rcases hmeet with h | h
  · exact absurd (List.cons_prefix_cons.1 h).1.symm (helse f)
  · exact absurd (List.cons_prefix_cons.1 h).1 (helse f)

/-- what is given at a path: the value of the last variable with the path, or else what the file has there -/
def given (content : Setting) (start : String) (environment : List (String × String)) (path : List String) :
    Option Setting :=
  ((lastValue? start path environment).map setting).or (content.find? path)

variable {file : Option (String × Option Bytes)} {content : Setting} {start : String}
  {environment : List (String × String)}

theorem Holds.distinct (h : Holds file content) : content.Distinct ∧ content.IsGroup := by
  cases file with
  | none =>
    cases h
    exact ⟨Setting.distinct_empty, Setting.isGroup_group []⟩
  | some named =>
    obtain ⟨b, -, hread⟩ := h
    obtain ⟨text, -, hread⟩ := Option.bind_eq_some_iff.1 hread
    exact Toml.read?_distinct hread

/-- a value of a field is no group -/
theorem not_isGroup_of_read? {α : Type} {kind : Kind α} {s : Setting} {a : α} (h : kind.read? s = some a) :
    ¬ s.IsGroup := by
  rintro ⟨entries, rfl⟩
  cases kind <;> cases h

theorem FileFits.clear (hfits : FileFits content) (hgroup : content.IsGroup) {α : Type} (f : Field α) :
    content.Clear f.path := by
  obtain ⟨entries, rfl⟩ := hgroup
  refine ⟨entries, rfl, fun s hs => ?_⟩
  have hsection : (Setting.group entries).find? [f.sectionName] = some s := by
    rw [Setting.find?_cons_group, hs]
    rfl
  obtain ⟨inner, rfl⟩ := hfits.sections f s hsection
  refine ⟨inner, rfl, fun t ht => ?_⟩
  obtain ⟨a, ha⟩ := hfits.fields f t ((find?_section f.sectionName f.name hs).trans ht)
  exact not_isGroup_of_read? ha

theorem allSpare_of_fits (h : ∀ v ∈ environment, VariableFits start v) {α : Type} (f : Field α) :
    Variable.AllSpare start f.path environment := by
  intro v hv path hpath hmeet
  obtain ⟨heq, a, ha⟩ := h v hv path hpath f hmeet
  exact ⟨heq, not_isGroup_of_read? ha⟩

theorem fits_given (hcontent : FileFits content) (hvariables : ∀ v ∈ environment, VariableFits start v) :
    Fits (given content start environment) := by
  intro α f s hs
  rw [given, Option.or_eq_some_iff] at hs
  rcases hs with hs | ⟨-, hs⟩
  · obtain ⟨value, hvalue, rfl⟩ := Option.map_eq_some_iff.1 hs
    obtain ⟨name, hmem, hname⟩ := Variable.mem_of_lastValue? hvalue
    exact (hvariables (name, value) hmem f.path hname f (.inl (List.prefix_refl _))).2
  · exact hcontent.fields f s hs

/-- **A file and variables that fit make a configuration, which depends only on what is given at the ten paths.** -/
theorem load_eq (hfile : Holds file content) (hcontent : FileFits content)
    (hvariables : ∀ v ∈ environment, VariableFits start v) :
    load file start environment = .ok (ofGiven (given content start environment)) := by
  obtain ⟨hdistinct, hgroup⟩ := hfile.distinct
  have hupper := Variable.settings_distinct start environment
  have hclear : ∀ {α : Type} (f : Field α), (Variable.settings start environment).Clear f.path := fun f =>
    Variable.clear_settings f.path_ne_nil (allSpare_of_fits hvariables f)
  have hfind : ∀ {α : Type} (f : Field α), (content.merge (Variable.settings start environment)).find? f.path =
      given content start environment f.path := fun f => by
    rw [Setting.find?_merge hupper (hclear f),
      Variable.find?_settings f.path_ne_nil (allSpare_of_fits hvariables f), given]
  have hsources : ∀ s : Sources, s.merged = content.merge (Variable.settings start environment) →
      ofSources s = .ok (ofGiven (given content start environment)) := by
    intro s hs
    have hfits : Fits (s.merged.find? ·) := fun f t ht => by
      have ht : s.merged.find? f.path = some t := ht
      rw [hs, hfind] at ht
      exact fits_given hcontent hvariables f t ht
    have hread := codec_fromJson (m := s.merged) (hs ▸ hdistinct.merge hupper)
      (fun f => hs ▸ (hcontent.clear hgroup f).merge hupper (hclear f)) hfits
    rw [ofSources, hread]
    exact congrArg Except.ok (ofGiven_congr fun f => by rw [hs, hfind f])
  match file, hfile with
  | none, hfile =>
    rw [Holds] at hfile
    exact hsources { start, environment } (by rw [hfile]; rfl)
  | some (path, some bytes), hfile =>
    obtain ⟨b, hb, hread⟩ := hfile
    cases hb
    rw [load, hread]
    exact hsources { file := some (path, content), start, environment } rfl

/-! ## Layers -/

/-- where the value of a field comes from -/
inductive Field.Takes {α : Type} (f : Field α) (content : Setting) (start : String)
    (environment : List (String × String)) : α → Prop where
  /-- from the last variable with the path of the field -/
  | fromVariable {before after : List (String × String)} {name value : String} {a : α}
      (hvariables : environment = before ++ (name, value) :: after) (hpath : path? start name = some f.path)
      (hlast : ∀ later ∈ after, path? start later.1 ≠ some f.path) (hread : f.kind.read? (setting value) = some a) :
      f.Takes content start environment a
  /-- from the file, if no variable has the path -/
  | fromFile {s : Setting} {a : α} (hnone : ∀ v ∈ environment, path? start v.1 ≠ some f.path)
      (hfound : content.find? f.path = some s) (hread : f.kind.read? s = some a) : f.Takes content start environment a
  /-- it is the built-in one, if the file has none either -/
  | builtIn (hnone : ∀ v ∈ environment, path? start v.1 ≠ some f.path) (hfound : content.find? f.path = none) :
      f.Takes content start environment f.builtIn

/-- what a field takes is what is given at its path -/
theorem Field.Takes.eq_value {α : Type} {f : Field α} {a : α} (h : f.Takes content start environment a) :
    f.value (given content start environment) = a := by
  cases h with
  | fromVariable hvariables hpath hlast hread =>
    have hvalue := Variable.lastValue?_eq_some.2 ⟨_, _, _, hvariables, hpath, hlast⟩
    rw [Field.value, given, hvalue, Option.map_some, Option.some_or, Option.bind_some, hread]
    rfl
  | fromFile hnone hfound hread =>
    rw [Field.value, given, Variable.lastValue?_eq_none.2 hnone, hfound, Option.map_none, Option.none_or,
      Option.bind_some, hread]
    rfl
  | builtIn hnone hfound =>
    rw [Field.value, given, Variable.lastValue?_eq_none.2 hnone, hfound]
    rfl

theorem takes_value (hfits : Fits (given content start environment)) {α : Type} (f : Field α) :
    f.Takes content start environment (f.value (given content start environment)) := by
  cases hlast : lastValue? start f.path environment with
  | some value =>
    have hgiven : given content start environment f.path = some (setting value) := by
      rw [given, hlast, Option.map_some, Option.some_or]
    obtain ⟨a, ha⟩ := hfits f _ hgiven
    obtain ⟨before, name, after, hvariables, hpath, hlater⟩ := Variable.lastValue?_eq_some.1 hlast
    rw [Field.value, hgiven, Option.bind_some, ha]
    exact .fromVariable hvariables hpath hlater ha
  | none =>
    have hnone := Variable.lastValue?_eq_none.1 hlast
    have hgiven : given content start environment f.path = content.find? f.path := by
      rw [given, hlast, Option.map_none, Option.none_or]
    rw [Field.value, hgiven]
    cases hfound : content.find? f.path with
    | some s =>
      obtain ⟨a, ha⟩ := hfits f s (hgiven.trans hfound)
      rw [Option.bind_some, ha]
      exact .fromFile hnone hfound ha
    | none => exact .builtIn hnone hfound

/-- **A configuration is layered field by field.** Let the known keys of the file, if there is one, and the variables
with the path of a field have values of their kinds, and let no variable have the path of a whole section or one below a
field. Then the configuration is loaded, and
- each field takes the value of the last variable with its path, else what the file has there, else the built-in value;
- the order of the variables does not matter, if their names are distinct without regard to case and those that have the
  path of a field are plain;
- variables that have the path of no field change nothing, be they there or not;
- neither does anything else in the file. -/
theorem load_layered (hfile : Holds file content) (hcontent : FileFits content)
    (hvariables : ∀ v ∈ environment, VariableFits start v) :
    (∃ c, load file start environment = .ok c ∧
      ∀ {α : Type} (f : Field α) (a : α), f.get c = a ↔ f.Takes content start environment a) ∧
    (∀ other, environment.Perm other → (environment.map fun v => Variable.lowered v.1).Nodup →
      (∀ v ∈ environment, ∀ {α : Type} (f : Field α), path? start v.1 = some f.path → Variable.IsPlain v.1) →
      load file start other = load file start environment) ∧
    (∀ keeps : String × String → Bool,
      (∀ v ∈ environment, ∀ {α : Type} (f : Field α), path? start v.1 = some f.path → keeps v) →
      load file start (environment.filter keeps) = load file start environment) ∧
    ∀ file' content', Holds file' content' → FileFits content' →
      (∀ {α : Type} (f : Field α), content'.find? f.path = content.find? f.path) →
      load file' start environment = load file start environment := by
  have hload := load_eq hfile hcontent hvariables
  refine ⟨⟨_, hload, fun f a => ?_⟩, fun other hperm hdistinct hplain => ?_, fun keeps hkeeps => ?_,
    fun file' content' hfile' hcontent' hsame => ?_⟩
  · rw [get_ofGiven]
    constructor
    · rintro rfl
      exact takes_value (fits_given hcontent hvariables) f
    · exact Field.Takes.eq_value
  · have hother : ∀ v ∈ other, VariableFits start v := fun v hv => hvariables v (hperm.mem_iff.2 hv)
    rw [hload, load_eq hfile hcontent hother]
    refine congrArg Except.ok (ofGiven_congr fun f => ?_)
    rw [given, given, Variable.lastValue?_perm hperm]
    intro v hv w hw hvpath hwpath
    have hnames : Variable.lowered v.1 = Variable.lowered w.1 :=
      (Variable.lowered_of_path? (hplain v hv f hvpath) hvpath).trans
        (Variable.lowered_of_path? (hplain w hw f hwpath) hwpath).symm
    exact List.inj_on_of_nodup_map hdistinct hv hw hnames
  · have hkept : ∀ v ∈ environment.filter keeps, VariableFits start v := fun v hv =>
      hvariables v (List.mem_filter.1 hv).1
    rw [hload, load_eq hfile hcontent hkept]
    refine congrArg Except.ok (ofGiven_congr fun f => ?_)
    rw [given, given, Variable.lastValue?_filter fun v hv hpath => hkeeps v hv f hpath]
  · rw [hload, load_eq hfile' hcontent' hvariables]
    refine congrArg Except.ok (ofGiven_congr fun f => ?_)
    rw [given, given, hsame f]

/-- a file that gives two sections in part, and says something that nobody asks for -/
def partialFile : String :=
  "[registry]\nreject_unsigned_tools = false\n[validation]\nmax_concurrency = 2\ncolour = \"red\"\n"

/-- what it holds -/
def partialContent : Setting :=
  .group [("registry", .group [("reject_unsigned_tools", .flag false)]),
    ("validation", .group [("max_concurrency", .integer 2), ("colour", .text "red")])]

/-- whether settings are those -/
def isPartialContent : Setting → Bool
  | .group [(r, .group [(t, .flag b)]), (v, .group [(m, .integer i), (c, .text s)])] =>
    r = "registry" && t = "reject_unsigned_tools" && b = false && v = "validation" && m = "max_concurrency" && i = 2 &&
      c = "colour" && s = "red"
  | _ => false

theorem read?_partialFile : Toml.read? partialFile = some partialContent := by
  have h : (Toml.read? partialFile).any isPartialContent = true := by decide +kernel
  obtain ⟨content, hread, hcontent⟩ := (Option.any_eq_true _ _).1 h
  rw [hread]
  unfold isPartialContent at hcontent
  split at hcontent
  · simp only [Bool.and_eq_true, decide_eq_true_eq] at hcontent
    obtain ⟨⟨⟨⟨⟨⟨⟨rfl, rfl⟩, rfl⟩, rfl⟩, rfl⟩, rfl⟩, rfl⟩, rfl⟩ := hcontent
    rfl
  · cases hcontent

theorem fileFits_partialContent : FileFits partialContent where
  sections f s h := by
    cases f <;> cases h <;> exact Setting.isGroup_group _
  fields f s h := by
    cases f <;> cases h
    · exact ⟨false, rfl⟩
    · exact ⟨2, rfl⟩

/-- two variables for fields, and one that is none of the configuration's -/
def someVariables : List (String × String) :=
  [("WARDEN_VALIDATION__MAX_CONCURRENCY", "16"), ("warden_catalog__api_key", "secret"), ("WARDEN_ENC_KEY", "[1")]

theorem path?_elsewhere : path? "WARDEN_" "WARDEN_ENC_KEY" = some ["enc_key"] := by
  decide +kernel

theorem variableFits_someVariables : ∀ v ∈ someVariables, VariableFits "WARDEN_" v := by
  have hcount : path? "WARDEN_" "WARDEN_VALIDATION__MAX_CONCURRENCY" = some Field.maxConcurrency.path := by
    decide +kernel
  have hkey : path? "WARDEN_" "warden_catalog__api_key" = some Field.apiKey.path := by decide +kernel
  intro v hv
  simp only [someVariables, List.mem_cons, List.not_mem_nil, or_false] at hv
  rcases hv with rfl | rfl | rfl
  · exact variableFits_of_field .maxConcurrency hcount (a := 16) (by cbv)
  · exact variableFits_of_field .apiKey hkey (a := some "secret") (by cbv)
  · exact variableFits_elsewhere path?_elsewhere fun f => by cases f <;> decide

/-- A variable goes over the file, the file over what is built in, and the other fields of a section stay as they are;
so it is with the variables the other way round, and without the one that is none of the configuration's. -/
theorem load_layered_partial :
    ∃ c, load (some ("warden.toml", some (Utf8.encode partialFile))) "WARDEN_" someVariables = .ok c ∧
      c.registry.rejectsUnsigned = false ∧ c.registry.validatesChecksums = true ∧ c.catalog.apiKey = some "secret" ∧
      c.validation.maxConcurrency = 16 ∧ c.validation.scansDescriptions = true ∧
      load (some ("warden.toml", some (Utf8.encode partialFile))) "WARDEN_" someVariables.reverse = .ok c ∧
      load (some ("warden.toml", some (Utf8.encode partialFile))) "WARDEN_" (someVariables.take 2) = .ok c := by
  have hfile : Holds (some ("warden.toml", some (Utf8.encode partialFile))) partialContent := by
    refine ⟨_, rfl, ?_⟩
    rw [Utf8.decode?_encode, Option.bind_some, read?_partialFile]
  obtain ⟨⟨c, hload, htakes⟩, horder, hdrop, -⟩ :=
    load_layered hfile fileFits_partialContent variableFits_someVariables
  have hplain : ∀ v ∈ someVariables, (Variable.lowered v.1).all (fun c => c ≠ '.' ∧ Text.isBlank c = false) := by
    decide +kernel
  have hreverse := horder someVariables.reverse (List.reverse_perm _).symm (by decide +kernel) fun v hv _ _ _ c hc =>
    of_decide_eq_true (List.all_eq_true.1 (hplain v hv) c hc)
  have hwithout := hdrop (fun v => v.1 ≠ "WARDEN_ENC_KEY") fun v _ α f hpath => decide_eq_true fun heq => by
    rw [heq, path?_elsewhere] at hpath
    simp [Field.path] at hpath
  have hkey : someVariables = [("WARDEN_VALIDATION__MAX_CONCURRENCY", "16")] ++
      ("warden_catalog__api_key", "secret") :: [("WARDEN_ENC_KEY", "[1")] := rfl
  have hcount : someVariables = [] ++ ("WARDEN_VALIDATION__MAX_CONCURRENCY", "16") :: someVariables.drop 1 := rfl
  refine ⟨c, hload, (htakes .rejectsUnsigned false).2 ?_, (htakes .validatesChecksums true).2 ?_,
    (htakes .apiKey (some "secret")).2 ?_, (htakes .maxConcurrency 16).2 ?_, (htakes .scansDescriptions true).2 ?_,
    hreverse.trans hload, hwithout.trans hload⟩
  · exact .fromFile (by decide +kernel) rfl rfl
  · exact .builtIn (by decide +kernel) rfl
  · exact .fromVariable hkey (by decide +kernel) (by decide +kernel) (by cbv)
  · exact .fromVariable hcount (by decide +kernel) (by decide +kernel) (by cbv)
  · exact .builtIn (by decide +kernel) rfl

end ToolGateway.Configuration
