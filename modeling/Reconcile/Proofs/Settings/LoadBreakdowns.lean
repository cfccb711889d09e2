import Reconcile.Proofs.Settings.LoadedDocuments

/-!
# How loading ends

Whatever the two files hold, loading ends with settings and no error in the log, or with a fault of
the configuration and the one record that tells it, or it breaks off without a record. Stage by
stage it is known where it breaks off; under the schema of settings files little of it is left.

* `IsSource`, `SourceBreaks`, `FileBreaks`, `DocumentBreaks`, `BreaksOff`: where loading breaks off;
* `read_breaks_iff`: reading breaks off in these places;
* `Finishes`, `finishes_of_not_broken`: how loading ends otherwise;
* **`load_ends`**: how loading ends;
* `undecodable_breaks_off`: a file that breaks loading off.
-/

namespace Reconcile.Settings

open Reconcile.Document Reconcile.Journal

variable {ε : Type} {library : Library ε} {source : SchemaSource} {file : File} {s d : Value}
  {b : Breakdown ε}

/-! ## 1. Where loading breaks off -/

/-- The document that is checked against. -/
inductive IsSource : SchemaSource → Value → Prop where
  | standard : IsSource .standard schemaDocument
  | file {bytes : List UInt8} {cs : List Char} {s : Value} (hchars : Text.charsOf? bytes = some cs)
      (h : Json.read cs = .ok s) : IsSource (.file (.holding bytes)) s

/-- What breaks off reading a schema: bytes that are no text, or an integer with too many digits. -/
inductive SourceBreaks : SchemaSource → Breakdown ε → Prop where
  | undecodable {bytes : List UInt8} (h : Text.charsOf? bytes = none) :
      SourceBreaks (.file (.holding bytes)) .undecodable
  | number {bytes : List UInt8} {cs : List Char} {digits : Nat}
      (hchars : Text.charsOf? bytes = some cs) (h : Json.read cs = .error (.integerTooLong digits)) :
      SourceBreaks (.file (.holding bytes)) (.schemaNumber (.integerTooLong digits))

/-- What breaks off reading settings: anything of the library but its word that they are malformed. -/
inductive FileBreaks (library : Library ε) : File → Breakdown ε → Prop where
  | reading {bytes : List UInt8} {e : ε} (h : library.read bytes = .error (.other e)) :
      FileBreaks library (.holding bytes) (.reading e)

/-- What breaks off after both files are read: the check, or what was accepted and cannot be used or
    told. -/
inductive DocumentBreaks (library : Library ε) (s d : Value) : Breakdown ε → Prop where
  | check {e : ε} (h : library.check s d = .error (.other e)) :
      DocumentBreaks library s d (.checking e)
  | use {f : DocumentFault} (haccepted : library.check s d = .ok ()) (h : statedIn d = .error f)
      (hf : ∀ g, f ≠ .setting g) : DocumentBreaks library s d (.unusable f)
  | record {stated : Stated} (haccepted : library.check s d = .ok ()) (h : statedIn d = .ok stated)
      (hwritable : Json.isWritable (.list stated.keyColumns) = false) :
      DocumentBreaks library s d .unwritable

/-- What breaks loading off. -/
inductive BreaksOff (library : Library ε) : SchemaSource → File → Breakdown ε → Prop where
  | source {source : SchemaSource} {file : File} {b : Breakdown ε} (h : SourceBreaks source b) :
      BreaksOff library source file b
  | file {source : SchemaSource} {s : Value} {file : File} {b : Breakdown ε}
      (hsource : IsSource source s) (h : FileBreaks library file b) :
      BreaksOff library source file b
  | document {source : SchemaSource} {s : Value} {bytes : List UInt8} {d : Value} {b : Breakdown ε}
      (hsource : IsSource source s) (hread : library.read bytes = .ok d)
      (hsome : d.isNothing = false) (h : DocumentBreaks library s d b) :
      BreaksOff library source (.holding bytes) b

/-- What is left of it under the schema of settings files: reading, the check of a document that is
    not ordinary, and a number in an accepted one that is too long. -/
inductive StandardBreaks (library : Library ε) : File → Breakdown ε → Prop where
  | file {file : File} {b : Breakdown ε} (h : FileBreaks library file b) :
      StandardBreaks library file b
  | check {bytes : List UInt8} {d : Value} {e : ε} (hread : library.read bytes = .ok d)
      (hsome : d.isNothing = false) (h : ¬ IsOrdinary maxNesting d)
      (hshow : IsSettingsDocument d → d.isShowable = false)
      (he : library.check schemaDocument d = .error (.other e)) :
      StandardBreaks library (.holding bytes) (.checking e)
  | use {bytes : List UInt8} {d : Value} (hread : library.read bytes = .ok d)
      (hsome : d.isNothing = false) (h : IsSettingsDocument d) (hlong : d.isShowable = false) :
      StandardBreaks library (.holding bytes) (.unusable .longNumber)

/-! ## 2. Reading -/

theorem readSource_eq_ok_iff :
    readSource (ε := ε) source = .ok s ↔ IsSource source s := by
  constructor
  · intro h
    cases source with
    | standard =>
      obtain rfl := Except.ok.inj h
      exact .standard
    | file f => cases f with
      | absent => cases h
      | holding bytes =>
        rw [readSource, readSchema] at h
        cases hchars : Text.charsOf? bytes with
        | none =>
          rw [hchars] at h
          cases h
        | some cs =>
          rw [hchars] at h
          exact .file hchars (mapError_ok_iff.mp h)
  · rintro (_ | ⟨hchars, hread⟩)
    · rfl
    · rw [readSource, readSchema, hchars]
      exact mapError_ok_iff.mpr hread

theorem readSource_breaks_iff :
    readSource source = .error (.breakdown b) ↔ SourceBreaks source b := by
  constructor
  · intro h
    cases source with
    | standard => cases h
    | file f => cases f with
      | absent => cases h
      | holding bytes =>
        rw [readSource, readSchema] at h
        cases hchars : Text.charsOf? bytes with
        | none =>
          rw [hchars] at h
          cases h
          exact .undecodable hchars
        | some cs =>
          rw [hchars] at h
          obtain ⟨f, hread, hf⟩ := mapError_error_iff.mp h
          cases f with
          | malformed => cases hf
          | integerTooLong digits =>
            cases hf
            exact .number hchars hread
  · rintro (hchars | ⟨hchars, hread⟩)
    · rw [readSource, readSchema, hchars]
      rfl
    · rw [readSource, readSchema, hchars]
      exact mapError_error_iff.mpr ⟨_, hread, rfl⟩

theorem readSettings_eq_ok_iff : readSettings library file = .ok d ↔
    ∃ bytes, file = .holding bytes ∧ library.read bytes = .ok d := by
  cases file with
  | absent => exact iff_of_false nofun nofun
  | holding bytes => simp only [readSettings, mapError_ok_iff, File.holding.injEq, exists_eq_left']

theorem readSettings_breaks_iff :
    readSettings library file = .error (.breakdown b) ↔ FileBreaks library file b := by
  constructor
  · intro h
    cases file with
    | absent => cases h
    | holding bytes =>
      obtain ⟨f, hread, hf⟩ := mapError_error_iff.mp h
      cases f with
      | malformed => cases hf
      | other e =>
        cases hf
        exact .reading hread
  · rintro ⟨hread⟩
    exact mapError_error_iff.mpr ⟨_, hread, rfl⟩

/-! ## 3. Documents -/

theorem accept_eq_ok_iff {u : Unit} : accept library s d = .ok u ↔ library.check s d = .ok () :=
  mapError_ok_iff

theorem accept_breaks_iff : accept library s d = .error (.breakdown b) ↔
    ∃ e, library.check s d = .error (.other e) ∧ b = .checking e := by
  rw [accept, mapError_error_iff]
  constructor
  · rintro ⟨f, hf, heq⟩
    cases f with
    | other e =>
      cases heq
      exact ⟨e, hf, rfl⟩
    | _ => cases heq
  · rintro ⟨e, he, rfl⟩
    exact ⟨.other e, he, rfl⟩

theorem ofAccepted_eq_ok_iff {stated : Stated} :
    ofAccepted (ε := ε) d = .ok stated ↔ statedIn d = .ok stated :=
  mapError_ok_iff

theorem ofAccepted_breaks_iff : ofAccepted d = .error (.breakdown b) ↔
    ∃ f, statedIn d = .error f ∧ (∀ g, f ≠ .setting g) ∧ b = .unusable f := by
  rw [ofAccepted, mapError_error_iff]
  refine exists_congr fun f => and_congr_right fun _ => ?_
  cases f <;> simp [eq_comm]

/-- **Where the check of a document and its use break off.** -/
theorem readDocument_breaks_iff :
    readDocument library s d = .error (.breakdown b) ↔ DocumentBreaks library s d b := by
  simp only [readDocument, bind_error_iff, accept_breaks_iff, accept_eq_ok_iff,
    ofAccepted_breaks_iff, ofAccepted_eq_ok_iff]
  constructor
  · rintro (⟨e, he, rfl⟩ | ⟨_, haccepted, ⟨f, hf, hno, rfl⟩ | ⟨stated, hstated, hend⟩⟩)
    · exact .check he
    · exact .use haccepted hf hno
    · split at hend
      · cases hend
      · rename_i hwritable
        cases hend
        exact .record haccepted hstated (Bool.eq_false_iff.mpr hwritable)
  · intro h
    cases h with
    | check he => exact .inl ⟨_, he, rfl⟩
    | use haccepted hf hno => exact .inr ⟨(), haccepted, .inl ⟨_, hf, hno, rfl⟩⟩
    | record haccepted hstated hwritable =>
      refine .inr ⟨(), haccepted, .inr ⟨_, hstated, ?_⟩⟩
      rw [if_neg (Bool.eq_false_iff.mp hwritable)]
      rfl

/-- **Where loading breaks off**, stage by stage. -/
theorem read_breaks_iff :
    read library source file = .error (.breakdown b) ↔ BreaksOff library source file b := by
  simp only [read, bind_error_iff, readSource_breaks_iff, readSource_eq_ok_iff,
    readSettings_breaks_iff, readSettings_eq_ok_iff]
  constructor
  · rintro (hbreaks | ⟨s, hsource, hbreaks | ⟨d, ⟨bytes, rfl, hread⟩, hend⟩⟩)
    · exact .source hbreaks
    · exact .file hsource hbreaks
    · split at hend
      · cases hend
      · rename_i hsome
        exact .document hsource hread (Bool.eq_false_iff.mpr hsome)
          (readDocument_breaks_iff.mp (map_error_iff.mp hend))
  · intro h
    cases h with
    | source hbreaks => exact .inl hbreaks
    | file hsource hbreaks => exact .inr ⟨_, hsource, .inl hbreaks⟩
    | document hsource hread hsome hbreaks =>
      refine .inr ⟨_, hsource, .inr ⟨_, ⟨_, rfl, hread⟩, ?_⟩⟩
      rw [if_neg (Bool.eq_false_iff.mp hsome)]
      exact map_error_iff.mpr (readDocument_breaks_iff.mpr hbreaks)

/-- Under the schema of settings files there is less to break off at. -/
theorem standardBreaks_of_breaksOff (hlibrary : library.ChecksSettings)
    (h : BreaksOff library .standard file b) : StandardBreaks library file b := by
  cases h with
  | source h => cases h
  | file _ h => exact .file h
  | document hsource hread hsome h =>
    cases hsource
    rcases (readDocument_gives hlibrary hsome).inv with ⟨stated, hs, _⟩ | ⟨f, hf, hends⟩
    · rw [readDocument_breaks_iff.mpr h] at hs
      cases hs
    · rw [readDocument_breaks_iff.mpr h] at hf
      cases hf
      cases hends with
      | unchecked _ hordinary hshow he => exact .check hread hsome hordinary hshow he
      | tooLong _ haccepted hlong => exact .use hread hsome haccepted hlong

/-! ## 4. Loading -/

/-- How loading ends when it does not break off: with settings and a record that is no error, or with
    a fault that has a message and the one record that tells it. -/
inductive Finishes (paths : Paths) : Loaded ε → Prop where
  | settings {s : Stated} {r : Record} (hlevel : r.level ≠ Level.error.name) :
      Finishes paths { outcome := .ok s, records := [r] }
  | fault {f : LoadFault ε} {said message error : String} (hsaid : f.message? paths = some said)
      (htold : f.told? paths = some (message, error)) :
      Finishes paths {
        outcome := .error f
        records := [{ loadRecord .error message with error := some error }] }

/-- Every fault has a message and a record but the breakdowns. -/
theorem LoadFault.message?_isSome (paths : Paths) (f : LoadFault ε) (h : ∀ b, f ≠ .breakdown b) :
    ∃ said message error, f.message? paths = some said ∧ f.told? paths = some (message, error) := by
  cases f with
  | breakdown b => exact absurd rfl (h b)
  | _ => exact ⟨_, _, _, rfl, rfl⟩

/-- Loading that does not break off ends with settings, or with a fault that is told. -/
theorem finishes_of_not_broken (paths : Paths)
    (h : ∀ b, read library source file ≠ .error (.breakdown b)) :
    Finishes paths (load library paths source file) := by
  unfold load
  cases hread : read library source file with
  | ok stated =>
    have hinfo : Level.info.name ≠ Level.error.name := by decide
    have hwarning : Level.warning.name ≠ Level.error.name := by decide
    cases stated with
    | none => exact .settings hwarning
    | some s => exact .settings hinfo
  | error f =>
    obtain ⟨said, message, error, hsaid, htold⟩ :=
      f.message?_isSome paths fun b hb => h b (hb ▸ hread)
    simp only [htold]
    exact .fault hsaid htold

/-- Loading that breaks off gives no settings and tells nothing. -/
theorem load_eq_broken_iff {paths : Paths} :
    load library paths source file = { outcome := .error (.breakdown b), records := [] } ↔
      BreaksOff library source file b := by
  rw [← read_breaks_iff]
  constructor
  · intro h
    have houtcome := load_outcome library paths source file
    rw [h] at houtcome
    exact map_error_iff.mp houtcome.symm
  · intro h
    rw [load, h]
    rfl

/-- Settings are only loaded from a file that is a text. -/
theorem isText_of_load {paths : Paths} {bytes : List UInt8} {stated : Stated}
    (hlibrary : library.ReadsText)
    (h : (load library paths source (.holding bytes)).outcome = .ok stated) :
    (Text.charsOf? bytes).isSome := by
  rw [load_outcome] at h
  obtain ⟨read?, hread, -⟩ := map_ok_iff.mp h
  obtain ⟨s, -, hread⟩ := bind_ok_iff.mp hread
  obtain ⟨d, hdocument, -⟩ := bind_ok_iff.mp hread
  obtain ⟨_, hfile, hread⟩ := readSettings_eq_ok_iff.mp hdocument
  cases hfile
  exact hlibrary bytes d hread

/-- **How loading ends.** Whatever the two files hold, loading ends with settings and no error in the
    log, or with a fault and exactly one record of it, unless it breaks off; then nothing is told.
    It breaks off exactly in the listed places, and under the schema of settings files little of
    them is left. A file that is no text to its end never gives settings. -/
theorem load_ends (library : Library ε) (paths : Paths) (source : SchemaSource) (file : File) :
    (Finishes paths (load library paths source file) ↔ ¬ ∃ b, BreaksOff library source file b) ∧
      (∀ b, load library paths source file = { outcome := .error (.breakdown b), records := [] } ↔
        BreaksOff library source file b) ∧
      (library.ChecksSettings →
        ∀ b, BreaksOff library .standard file b → StandardBreaks library file b) ∧
      (library.ReadsText → ∀ bytes, file = .holding bytes → Text.charsOf? bytes = none →
        ∀ stated, (load library paths source file).outcome ≠ .ok stated) := by
  refine ⟨⟨?_, ?_⟩, fun b => load_eq_broken_iff, fun hlibrary b => ?_, ?_⟩
  · rintro hfinishes ⟨b, hbreaks⟩
    rw [load_eq_broken_iff.mpr hbreaks] at hfinishes
    cases hfinishes
  · intro hno
    exact finishes_of_not_broken paths fun b hb => hno ⟨b, read_breaks_iff.mp hb⟩
  · exact standardBreaks_of_breaksOff hlibrary
  · rintro hlibrary bytes rfl hchars stated hloaded
    have htext := isText_of_load hlibrary hloaded
    rw [hchars] at htext
    cases htext

/-- The built-in library reads nothing of a file whose first byte is in no text. -/
theorem load_ends_no_text :
    let paths : Paths := ⟨"settings.yaml", "schema.json"⟩
    let file : File := .holding [0xFF]
    StandardBreaks Library.builtIn file (.reading .undecodable) ∧
      ∀ stated, (load Library.builtIn paths .standard file).outcome ≠ .ok stated := by
  intro paths file
  obtain ⟨_, hbreaks, hstandard, htext⟩ := load_ends Library.builtIn paths .standard file
  have hloaded : load Library.builtIn paths .standard file =
      { outcome := .error (.breakdown (.reading .undecodable)), records := [] } := rfl
  exact ⟨hstandard builtIn_checksSettings _ ((hbreaks _).mp hloaded),
    htext builtIn_readsText [0xFF] rfl rfl⟩

/-- **Bytes that are no text break loading off**: no fault of the configuration is raised, and no
    record is written. -/
theorem undecodable_breaks_off :
    let paths : Paths := ⟨"settings.yaml", "schema.json"⟩
    let loaded := load Library.builtIn paths .standard (.holding [0xFF])
    loaded.records = [] ∧ ∃ b, loaded.outcome = .error (.breakdown b) :=
  ⟨rfl, .reading .undecodable, rfl⟩

end Reconcile.Settings
