import ToolGateway.Proofs.Command.Step
import ToolGateway.Proofs.Tool.Stamping

/-!
Stamping files, and what is made of a stamped one.

`stamp` reads a tool straight on, `validate` by way of the value that the text stands for. The text that `stamp` prints
has a line for each entry and leaves out what is empty; it may be taken from the output, with a line end behind it, or
from the file that it was written to. Either way and on either route it is read as the tool that was stamped.

- `Stamps`: the file at a path is read as a tool that is stamped as `u`.
- `perform_stamp`, `ok_of_stamp`: then, and only then, the command ends well, and the text is that of `u`;
  `stamp_ok_iff`: so it does for every file that is read as a tool with an input schema.
- `stamps_again`: a file with the text of `u` is one of these itself.
- `perform_validate`: what the review of `u` says is printed.
- `stamped_file_reproduced`: so a stamped file is stamped as it is and found valid; `stamping_reproduced`: stamping is
  exact, minimal and idempotent, for tools and for files.
-/

namespace ToolGateway.Command

open Cursor

variable {σ : Type} {host : Host (StateM σ)} {files : σ → String → Option Bytes} {w w' : σ} {path : String}
  {output : Option String} {result : Result} {u : Tool} {gap : List Char}

/-- the text of a tool in a file -/
def toolText (t : Tool) : String :=
  (Tool.codec.toJson t).pretty

/-! ## Stamping a file -/

/-- the file at a path is read as a tool that is stamped as `u` -/
def Stamps (files : σ → String → Option Bytes) (w : σ) (path : String) (u : Tool) : Prop :=
  ∃ bytes t, files w path = some bytes ∧ Tool.codec.read bytes = .ok t ∧ t.stamped = .ok u

theorem Stamps.unique {v : Tool} (hu : Stamps files w path u) (hv : Stamps files w path v) : v = u := by
  obtain ⟨bytes, t, hfile, hread, hstamped⟩ := hu
  obtain ⟨bytes', t', hfile', hread', hstamped'⟩ := hv
  rw [hfile] at hfile'
  cases hfile'
  rw [hread] at hread'
  cases hread'
  rw [hstamped] at hstamped'
  cases hstamped'
  rfl

/-- a tool that was read from a file can be stored, whatever the file looks like, if its doubles are read back, and so
can the stamped one -/
theorem Stamps.readsBack (h : Stamps files w path u) (hd : u.DoublesReread) :
    Tool.codec.ReadsBack nestingLimit u u := by
  obtain ⟨bytes, t, -, hread, hstamped⟩ := h
  obtain ⟨past, hfirst, -⟩ := Codec.read_eq_ok.1 hread
  have hdepth : 125 + 1 < nestingLimit := by decide
  have hgives : Tool.codec.Gives (125 + 2) t := ⟨_, past, hfirst⟩
  have hdoubles : t.DoublesReread := Tool.doublesReread_of_stamped hstamped hd
  exact Tool.readsBack_of_stamped hstamped (Tool.storable_of_gives hdepth hgives hdoubles)

/-- **What was stamped is stamped as it is.** -/
theorem stamps_again (h : Stamps files w path u) (hd : u.DoublesReread) (hgap : IsGap gap) {later : σ} {again : String}
    (hfile : files later again = some (Utf8.encode (toolText u ++ String.ofList gap))) :
    Stamps files later again u := by
  have hread := Codec.read_pretty (h.readsBack hd) hgap
  obtain ⟨-, t, -, -, hstamped⟩ := h
  exact ⟨_, u, hfile, hread, Tool.stamped_eq_self.2 (Tool.attested_of_stamped hstamped)⟩

theorem perform_stamp (hkeeps : host.KeepsFiles files) (h : Stamps files w path u) (c : Configuration) :
    ∃ w', perform (runWith host c (.stamp path none)) w = (.ok (printed (toolText u)), w') := by
  obtain ⟨bytes, t, hfile, hread, hstamped⟩ := h
  obtain ⟨w', hdocument⟩ := perform_readDocument hkeeps hfile hread
  refine ⟨w', ?_⟩
  rw [runWith, runStamp, perform_bind hdocument, hstamped]
  rfl

/-- **A command that ends well has stamped what stood in the file.** -/
theorem ok_of_stamp (hkeeps : host.KeepsFiles files) {c : Configuration}
    (h : perform (runWith host c (.stamp path output)) w = (.ok result, w')) :
    ∃ u, Stamps files w path u ∧
      match output with
      | none => result = printed (toolText u)
      | some target => files w' target = some (Utf8.encode (toolText u)) := by
  rw [runWith, runStamp] at h
  obtain ⟨t, mid, hdocument, h⟩ := ok_of_perform_bind h
  obtain ⟨bytes, hfile, hread⟩ := ok_of_readDocument hkeeps hdocument
  cases hstamped : t.stamped with
  | error e =>
    simp only [hstamped] at h
    cases h
  | ok u =>
    simp only [hstamped] at h
    refine ⟨u, ⟨bytes, t, hfile, hread, hstamped⟩, ?_⟩
    cases output with
    | none =>
      cases h
      rfl
    | some target =>
      simp only at h ⊢
      rw [perform_bind (perform_lift (host.saveFile target _) mid)] at h
      cases hsaved : ((host.saveFile target (Utf8.encode (Tool.codec.toJson u).pretty)).run mid).1 with
      | error cause =>
        rw [hsaved] at h
        cases h
      | ok =>
        rw [hsaved] at h
        cases h
        exact hkeeps.saved _ _ _ hsaved

/-- a file is stamped if it is read as a tool with an input schema, and in no other case -/
theorem stamp_ok_iff (hkeeps : host.KeepsFiles files) {c : Configuration} :
    (∃ result, (perform (runWith host c (.stamp path none)) w).1 = .ok result) ↔
      ∃ bytes t schema, files w path = some bytes ∧ Tool.codec.read bytes = .ok t ∧ t.inputSchema = some schema := by
  constructor
  · rintro ⟨result, hok⟩
    obtain ⟨u, ⟨bytes, t, hfile, hread, hstamped⟩, -⟩ := ok_of_stamp hkeeps (Prod.ext hok rfl)
    obtain ⟨schema, hschema, -⟩ := Tool.stamped_eq_ok.1 hstamped
    exact ⟨bytes, t, schema, hfile, hread, hschema⟩
  · rintro ⟨bytes, t, schema, hfile, hread, hschema⟩
    obtain ⟨w', hprinted⟩ := perform_stamp hkeeps ⟨bytes, t, hfile, hread, Tool.stamped_of_schema hschema⟩ c
    exact ⟨_, congrArg Prod.fst hprinted⟩

/-! ## Validating a stamped file -/

/-- **A file with the text of a stamped tool is validated as that tool.** -/
theorem perform_validate (hkeeps : host.KeepsFiles files) (hback : Tool.codec.ReadsBack nestingLimit u u)
    (hgap : IsGap gap) (hfile : files w path = some (Utf8.encode (toolText u ++ String.ofList gap)))
    (c : Configuration) :
    let review := u.review c.validation.scansDescriptions
    (perform (runWith host c (.validate path)) w).1 =
      .ok { printed (Review.codec.toJson review).pretty with exitCode := if review.isValid then 0 else 1 } := by
  intro review
  obtain ⟨mid, hdocument⟩ := perform_readDocument hkeeps hfile (Codec.read_free_pretty hback hgap)
  -- the value of the text is an object, never a list of tools
  obtain ⟨members, hmembers⟩ : ∃ members, (Tool.codec.toJson u).reread = .object members := ⟨_, rfl⟩
  have hvalue : Tool.codec.fromJson (.object members) = .ok u := hmembers ▸ hback.byValue
  rw [hmembers] at hdocument
  rw [runWith, runValidate, perform_bind hdocument]
  simp only [ofValue, hvalue]
  rfl

/-- the record of a good tool is printed, if its description hides nothing or is not screened -/
theorem shows_validate (hkeeps : host.KeepsFiles files) (hstamps : Stamps files w path u) (hd : u.DoublesReread)
    (hgap : IsGap gap) {later : σ} {again : String}
    (hfile : files later again = some (Utf8.encode (toolText u ++ String.ofList gap)))
    (c : Configuration) (hclean : c.validation.scansDescriptions = true →
      ∀ ch ∈ u.description.toList, HiddenText.classify ch = none) :
    ∃ result, (perform (runWith host c (.validate again)) later).1 = .ok result ∧
      result.Shows Review.codec ⟨u.name, u.stamp.checksum, true, ""⟩ := by
  have ⟨bytes, t, _, _, hstamped⟩ := hstamps
  have hreview := perform_validate hkeeps (hstamps.readsBack hd) hgap hfile c
  simp only [Tool.review_attested (Tool.attested_of_stamped hstamped) hclean] at hreview
  exact ⟨_, hreview, shows_printed (Review.readsBack _ _)⟩

/-! ## Main result -/

/-- **What was stamped is stamped as it is and found valid**, wherever its text stands later on, with nothing but blanks
behind it. -/
theorem stamped_file_reproduced (hkeeps : host.KeepsFiles files) (hstamps : Stamps files w path u)
    (hd : u.DoublesReread) (hgap : IsGap gap) {later : σ} {again : String}
    (hfile : files later again = some (Utf8.encode (toolText u ++ String.ofList gap))) (c : Configuration) :
    (∃ result, (perform (runWith host c (.stamp again none)) later).1 = .ok result ∧ result.Shows Tool.codec u) ∧
    (∀ target result later', perform (runWith host c (.stamp again (some target))) later = (.ok result, later') →
      files later' target = some (Utf8.encode (toolText u))) ∧
    ((c.validation.scansDescriptions = true → ∀ ch ∈ u.description.toList, HiddenText.classify ch = none) →
      ∃ result, (perform (runWith host c (.validate again)) later).1 = .ok result ∧
        result.Shows Review.codec ⟨u.name, u.stamp.checksum, true, ""⟩) := by
  have hagain : Stamps files later again u := stamps_again hstamps hd hgap hfile
  refine ⟨?_, fun target result later' h => ?_, fun hclean => shows_validate hkeeps hstamps hd hgap hfile c hclean⟩
  · obtain ⟨later', hprinted⟩ := perform_stamp hkeeps hagain c
    exact ⟨_, congrArg Prod.fst hprinted, shows_printed (hstamps.readsBack hd)⟩
  · obtain ⟨v, hv, hwritten⟩ := ok_of_stamp hkeeps h
    rw [hagain.unique hv] at hwritten
    exact hwritten

/-- **Stamping is exact, minimal and idempotent, and so it is by way of files.**

For every tool:
- stamping fails exactly if there is no input schema, and then leaves the tool as it was;
- otherwise it writes the checksum and the fingerprint of the content and nothing else, whatever hashes were there; the
  tool then passes its own check, and stamping it again changes nothing.

A file is stamped exactly if it is read as a tool with an input schema. The output is then the document of the stamped
tool with a line end, and nothing else, or the file that is asked for holds that document. If the doubles in the tool
are read back, then wherever the text stands later on, with nothing but blanks behind it:
- stamping it there has the same output, or writes the same octets;
- validating it ends well, and the output is read as the record of a valid tool, with the name and the checksum of the
  stamped one, if its description has no character that is classified, or descriptions are not scanned. -/
theorem stamping_reproduced (host : Host (StateM σ)) (files : σ → String → Option Bytes)
    (hkeeps : host.KeepsFiles files) :
    (∀ t : Tool,
      ((∃ e, t.stamped = .error e) ↔ t.inputSchema = none) ∧
      (∀ e, t.stamped = .error e → t.afterStamping = (.error e, t)) ∧
      ∀ schema, t.inputSchema = some schema → ∃ u, t.stamped = .ok u ∧ t.afterStamping = (.ok (), u) ∧
        u = { t with stamp := { t.stamp with checksum := t.checksum, signature := schema.hexDigest } } ∧
        (∀ checksum signature, ((t.withChecksum checksum).withSignature signature).stamped = .ok u) ∧
        u.verify = .ok () ∧ u.stamped = .ok u) ∧
    (∀ (c : Configuration) (path : String) (w : σ),
      (∃ result, (perform (runWith host c (.stamp path none)) w).1 = .ok result) ↔
        ∃ bytes t schema, files w path = some bytes ∧ Tool.codec.read bytes = .ok t ∧ t.inputSchema = some schema) ∧
    ∀ (c : Configuration) (path : String) (output : Option String) (w w' : σ) (result : Result),
      perform (runWith host c (.stamp path output)) w = (.ok result, w') →
      ∃ bytes t u, files w path = some bytes ∧ Tool.codec.read bytes = .ok t ∧ t.stamped = .ok u ∧
        (output = none → result = ⟨0, toolText u ++ "\n", ""⟩) ∧
        (∀ target, output = some target → files w' target = some (Utf8.encode (toolText u))) ∧
        (u.DoublesReread → ∀ (c' : Configuration) (later : σ) (again : String) (gap : List Char), IsGap gap →
          files later again = some (Utf8.encode (toolText u ++ String.ofList gap)) →
          (∃ result', (perform (runWith host c' (.stamp again none)) later).1 = .ok result' ∧
            result'.Shows Tool.codec u) ∧
          (∀ target result' later',
            perform (runWith host c' (.stamp again (some target))) later = (.ok result', later') →
              files later' target = some (Utf8.encode (toolText u))) ∧
          ((c'.validation.scansDescriptions = true →
              ∀ ch ∈ u.description.toList, HiddenText.classify ch = none) →
            ∃ result', (perform (runWith host c' (.validate again)) later).1 = .ok result' ∧
              result'.Shows Review.codec ⟨u.name, u.stamp.checksum, true, ""⟩)) := by
  refine ⟨Tool.stamping_exact, fun c path w => stamp_ok_iff hkeeps, fun c path output w w' result h => ?_⟩
  obtain ⟨u, hstamps, hout⟩ := ok_of_stamp hkeeps h
  have ⟨bytes, t, hfile, hread, hstamped⟩ := hstamps
  refine ⟨bytes, t, u, hfile, hread, hstamped, ?_, ?_, fun hd c' later again gap hgap hfile' =>
    stamped_file_reproduced hkeeps hstamps hd hgap hfile' c'⟩
  · rintro rfl
    exact hout
  · rintro target rfl
    exact hout

/-- a host whose world is its files -/
def fileHost : Host (StateM (String → Option Bytes)) where
  exists? path := do return ((← get) path).isSome
  loadFile path := do return ((← get) path).elim (.error "no file") .ok
  saveFile path bytes := do
    modify fun files => Function.update files path (some bytes)
    return .ok ()
  environment := pure []
  loadStore _ := pure (.error "no store")
  saveStore _ _ := pure (.error "no store")
  exchange _ _ := pure (.error "no catalog")
  nonce := pure []

theorem fileHost_keepsFiles : fileHost.KeepsFiles id where
  loaded path bytes w := by
    change (w path).elim (Except.error "no file") Except.ok = .ok bytes ↔ w path = some bytes
    cases w path <;> simp
  saved path bytes w _ := by
    change Function.update w path (some bytes) path = some bytes
    exact Function.update_self path (some bytes) w

/-- a file with a forged checksum is stamped; what was printed is put in a file, with its line end -/
theorem stamping_reproduced_forged :
    let t : Tool := { Tool.named "t" with description := "d", stamp := { checksum := "0" } }
    let w : String → Option Bytes := Function.update (fun _ => none) "in" (some (Utf8.encode (Tool.codec.write t)))
    ∃ (u : Tool) (result again valid : Result), t.stamped = .ok u ∧ u.verify = .ok () ∧
      (perform (runWith fileHost {} (.stamp "in" none)) w).1 = .ok result ∧ result = ⟨0, toolText u ++ "\n", ""⟩ ∧
      let later := Function.update w "out" (some (Utf8.encode result.output))
      (perform (runWith fileHost {} (.stamp "out" none)) later).1 = .ok again ∧ again.output = result.output ∧
      (perform (runWith fileHost {} (.validate "out")) later).1 = .ok valid ∧
      valid.Shows Review.codec ⟨"t", u.stamp.checksum, true, ""⟩ := by
  intro t w
  obtain ⟨htools, -, hfiles⟩ := stamping_reproduced fileHost id fileHost_keepsFiles
  obtain ⟨-, -, hstamping⟩ := htools t
  obtain ⟨u, hstamped, -, -, -, hverify, -⟩ := hstamping Tool.defaultSchema rfl
  have hstorable : t.Storable := Tool.storable_named "t"
  have hnull : t.NoNull := Tool.noNull_named "t"
  have hread : Tool.codec.read (Utf8.encode (Tool.codec.write t)) = .ok t := by
    have hback := Codec.read_write (Tool.readsBack hstorable)
    rwa [Tool.settled_eq_self.2 hnull] at hback
  have hfile : w "in" = some (Utf8.encode (Tool.codec.write t)) := Function.update_self _ _ _
  have hstamps : Stamps id w "in" u := ⟨_, t, hfile, hread, hstamped⟩
  have hcontent : u.name = "t" ∧ u.description = "d" := by
    obtain ⟨schema, -, rfl⟩ := Tool.stamped_eq_ok.1 hstamped
    exact ⟨rfl, rfl⟩
  obtain ⟨w', hprinted⟩ := perform_stamp fileHost_keepsFiles hstamps {}
  obtain ⟨bytes, t', u', hfile', hread', hstamped', hout, -, hlater⟩ := hfiles {} "in" none w w' _ hprinted
  obtain rfl : u' = u := hstamps.unique ⟨bytes, t', hfile', hread', hstamped'⟩
  have hdoubles : u'.DoublesReread := (Tool.storable_of_stamped hstamped ⟨hstorable, hnull⟩).1.doublesReread
  obtain ⟨⟨again, hagain, hsame⟩, -, hvalid⟩ := hlater hdoubles {}
    (Function.update w "out" (some (Utf8.encode (toolText u' ++ "\n")))) "out" ['\n'] (Json.isGap_lineStart 0)
    (Function.update_self _ _ _)
  obtain ⟨valid, hvalidated, hrecord⟩ := hvalid fun _ ch hch => by
    rw [hcontent.2] at hch
    obtain rfl : ch = 'd' := by simpa using hch
    decide
  rw [hcontent.1] at hrecord
  exact ⟨u', _, again, valid, hstamped, hverify, congrArg Prod.fst hprinted, hout rfl, hagain, hsame.output,
    hvalidated, hrecord⟩

end ToolGateway.Command
