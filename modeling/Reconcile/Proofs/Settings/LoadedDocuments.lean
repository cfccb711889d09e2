import Reconcile.Proofs.Settings.AcceptedDocuments
import Reconcile.Proofs.Settings.GivenParameters
import Reconcile.Proofs.Settings.TwoForms

/-!
# Documents that are loaded

What becomes of the document of a settings file under the schema of settings files. One that counts
as nothing leaves the defaults, whatever it is; every other one gives settings only when the library
accepts it.

* `numericAt_gives`, `statedIn_gives`: an accepted document can be used, but for its precisions;
* `Ends`, `document_ends`: how loading a document ends;
* **`load_document`**: how loading a document ends, and which documents are let through unchecked;
* `empty_list_is_loaded`: one of them.
-/

namespace Reconcile.Settings

open Reconcile.Document

variable {d : Value}

/-! ## 1. Accepted documents -/

theorem opened_of_isList {v : Value} (h : v.isList = true) : v.opened = .list v.itemsOf := by
  cases v with
  | list xs => rfl
  | labelled l v => cases v with
    | list xs => rfl
    | _ => cases h
  | _ => cases h

theorem opened_of_isMapping {v : Value} (h : v.isMapping = true) : v.opened = .map v.entriesOf := by
  cases v with
  | map es => rfl
  | labelled l v => cases v with
    | map es => rfl
    | _ => cases h
  | _ => cases h

/-- What a document can be refused for that the schema accepts: a text for a precision, or a number
    that is too long to have a text. -/
def IsLeftOpen (d : Value) (f : DocumentFault) : Prop :=
  (∃ g column text, f = .setting g ∧ g.IsOfPrecision column text) ∨
    f = .longNumber ∧ d.isShowable = false

section Parts

variable {key : String}

/-- What stands under a key unless it is empty is what stands under the key. -/
theorem get?_of_filled? {v : Value} (h : filled? d key = some v) : d.get? key = some v := by
  obtain ⟨w, hw, h⟩ := Option.bind_eq_some_iff.mp h
  split at h
  · cases h
  · exact hw.trans h

theorem partsAt_gives {shape : Shape} (h : ∀ v, d.get? key = some v → Shape.listOf shape v) :
    GivesOr (fun xs => ∀ x ∈ xs, shape x) (IsLeftOpen d) (partsAt d key) := by
  unfold partsAt
  cases hfilled : filled? d key with
  | none => exact .ok fun _ hx => absurd hx List.not_mem_nil
  | some v =>
    obtain ⟨hlist, hitems⟩ := h v (get?_of_filled? hfilled)
    have hparts : partsOf? v = some v.itemsOf := by rw [partsOf?, opened_of_isList hlist]
    simp only [partsIn, hparts]
    exact .ok hitems

theorem entriesAt_gives {shape : Shape} (h : ∀ v, d.get? key = some v → Shape.mappingTo shape v) :
    GivesOr (fun es => ∀ e ∈ es, shape e.2) (IsLeftOpen d) (entriesAt d key) := by
  unfold entriesAt
  cases hfilled : filled? d key with
  | none => exact .ok fun _ he => absurd he List.not_mem_nil
  | some v =>
    obtain ⟨hmapping, hentries⟩ := h v (get?_of_filled? hfilled)
    simp only [hmapping, if_true]
    exact .ok hentries

/-- Pairs are looked for only where there is no mapping. -/
theorem mappingAt_eq_entriesAt (h : ∀ v, d.get? key = some v → v.isMapping = true) :
    mappingAt d key = entriesAt d key := by
  unfold mappingAt entriesAt
  cases hfilled : filled? d key with
  | none => rfl
  | some v => simp only [h v (get?_of_filled? hfilled), if_true]

theorem mappingAt_gives {shape : Shape} (h : ∀ v, d.get? key = some v → Shape.mappingTo shape v) :
    GivesOr (fun es => ∀ e ∈ es, shape e.2) (IsLeftOpen d) (mappingAt d key) := by
  rw [mappingAt_eq_entriesAt fun v hv => (h v hv).1]
  exact entriesAt_gives h

theorem policyAt_gives (h : ∀ v, d.get? key = some v → Shape.policy v) :
    GivesOr (fun _ => True) (IsLeftOpen d) (policyAt d key) := by
  cases hget : d.get? key with
  | none =>
    have hread : policyAt d key = .ok none := by rw [policyAt, hget]
    exact hread ▸ .ok trivial
  | some v =>
    obtain ⟨p, rfl⟩ := h v hget
    have hread : policyAt d key = .ok (some p) := policyAt_written hget
    exact hread ▸ .ok trivial

theorem groupEntry_gives {e : Value × Value} (h : Shape.listOf Shape.name e.2) :
    GivesOr (fun _ => True) (IsLeftOpen d) (groupEntry e) := by
  have hparts : partsOf? e.2 = some e.2.itemsOf := by rw [partsOf?, opened_of_isList h.1]
  simp only [groupEntry, partsIn, hparts]
  exact .ok trivial

/-! ### Numeric columns -/

theorem readNumericColumn_precision (entry : String) :
    GivesOr (fun _ => True) (fun f => ∃ column text, f.IsOfPrecision column text)
      (readNumericColumn entry) := by
  unfold readNumericColumn
  dsimp only
  split
  · exact .ok trivial
  · exact ((readPrecision_gives _ _).imp (fun _ _ => trivial) fun _ hf => ⟨_, _, hf⟩).bind
      fun _ _ => .ok trivial

/-- A number in a document that is too long to have a text. -/
theorem isLeftOpen_longNumber {v : Value} (hshow : d.isShowable = true → v.isShowable = true)
    (hlong : ¬ v.isShowable = true) : IsLeftOpen d .longNumber :=
  .inr ⟨rfl, Bool.eq_false_iff.mpr (mt hshow hlong)⟩

theorem textOf_gives {v : Value} (hshow : d.isShowable = true → v.isShowable = true) :
    GivesOr (fun _ => True) (IsLeftOpen d) (textOf v) := by
  unfold textOf
  split
  · exact .ok trivial
  · exact .error (isLeftOpen_longNumber hshow ‹_›)

theorem naming_isLeftOpen {v : Value} {f : Fault} {column text : String}
    (hshow : d.isShowable = true → v.isShowable = true) (hf : f.IsOfPrecision column text) :
    IsLeftOpen d (naming v f) := by
  unfold naming
  split
  · exact .inl ⟨f, column, text, rfl, hf⟩
  · exact isLeftOpen_longNumber hshow ‹_›

/-- What is wrong with an entry of a mapping is its precision, or a number that is too long. -/
theorem numericEntry_gives {e : Value × Value}
    (hshow : d.isShowable = true → e.1.isShowable = true ∧ e.2.isShowable = true) :
    GivesOr (fun _ => True) (IsLeftOpen d) (numericEntry e) := by
  have hread : ∀ text, GivesOr (fun _ => True) (IsLeftOpen d) (do
      return (e.1, ← (readPrecision e.1.plain text).mapError (naming e.1))) := by
    intro text
    have hgives := (readPrecision_gives e.1.plain text).mapError fun f hf =>
      naming_isLeftOpen (fun hd => (hshow hd).1) hf
    exact hgives.bind fun _ _ => .ok trivial
  unfold numericEntry
  split
  · exact hread "0"
  · exact (textOf_gives fun hd => (hshow hd).2).bind fun text _ => hread text

theorem mapM_textOf_names {xs : List Value} (h : ∀ x ∈ xs, Shape.name x) :
    ∃ texts, xs.mapM textOf = .ok texts := by
  refine mapM_returns_iff.mpr fun x hx => ?_
  obtain ⟨s, rfl, _⟩ := h x hx
  exact ⟨s, textOf_text s⟩

theorem orSetting_readNumericColumns (entries : List String) :
    GivesOr (fun _ => True) (IsLeftOpen d) (orSetting (readNumericColumns entries)) := by
  have hread : GivesOr (fun _ => True) (fun f => ∃ column text, f.IsOfPrecision column text)
      (readNumericColumns entries) :=
    (GivesOr.mapM fun entry _ => readNumericColumn_precision entry).bind fun _ _ => .ok trivial
  exact hread.mapError fun f ⟨column, text, hf⟩ => .inl ⟨f, column, text, rfl, hf⟩

/-- **Numeric columns of an accepted document** can be read, but for their precisions. -/
theorem numericAt_gives (h : ∀ v, d.get? key = some v → Shape.numericColumns v) :
    GivesOr (fun _ => True) (IsLeftOpen d) (numericAt d key) := by
  unfold numericAt
  cases hfilled : filled? d key with
  | none =>
    have hentries : entriesAt d key = .ok [] := by rw [entriesAt, hfilled]
    rw [hentries]
    exact .ok trivial
  | some v =>
    rcases h v (get?_of_filled? hfilled) with ⟨hlist, hitems⟩ | ⟨hmapping, _⟩
    · obtain ⟨entries, hentries⟩ := mapM_textOf_names hitems
      simp only [Option.map_some, opened_of_isList hlist, hentries]
      exact (orSetting_readNumericColumns entries).bind fun _ _ => .ok trivial
    · have hentries : entriesAt d key = .ok v.entriesOf := by
        simp only [entriesAt, hfilled, hmapping, if_true]
      simp only [Option.map_some, opened_of_isMapping hmapping, hentries]
      exact GivesOr.imp (GivesOr.mapM fun e he => numericEntry_gives fun hd =>
        Value.isShowable_of_mem_entriesOf
          (Value.isShowable_of_get? hd (get?_of_filled? hfilled)) he) (fun _ _ => trivial)
        fun _ => id

end Parts

/-- **An accepted document can be used**, but for its precisions: what it states has texts for key
    columns. -/
theorem statedIn_gives (h : IsSettingsDocument d) :
    GivesOr (fun s => ∀ x ∈ s.keyColumns, Shape.name x) (IsLeftOpen d) (statedIn d) := by
  have hvalue : ∀ key shape, (key, shape) ∈ settingsShapes → ∀ v, d.get? key = some v → shape v :=
    fun key shape hmem => h.values (key, shape) hmem
  have htexts : ∀ key, (key, Shape.listOf Shape.text) ∈ settingsShapes →
      GivesOr (fun xs => ∀ x ∈ xs, Shape.text x) (IsLeftOpen d) (partsAt d key) :=
    fun key hmem => partsAt_gives (hvalue key _ hmem)
  have hkeys : GivesOr (fun xs => ∀ x ∈ xs, Shape.name x) (IsLeftOpen d) (partsAt d "key_columns") :=
    partsAt_gives fun v hv => (hvalue _ Shape.names (by simp [settingsShapes]) v hv).1
  have hgroups : ∀ es : List (Value × Value), (∀ e ∈ es, Shape.listOf Shape.name e.2) →
      GivesOr (fun _ => True) (IsLeftOpen d) (es.mapM groupEntry) := fun es hes =>
    (GivesOr.mapM fun e he => groupEntry_gives (hes e he)).imp (fun _ _ => trivial) fun _ => id
  unfold statedIn
  simp only [h.mapping, Bool.not_true, Bool.false_eq_true, if_false]
  refine (numericAt_gives (hvalue _ Shape.numericColumns (by simp [settingsShapes]))).bind
    fun numericColumns _ => ?_
  refine hkeys.bind fun keyColumns hkeyColumns => ?_
  refine (mappingAt_gives (hvalue _ (Shape.mappingTo Shape.name) (by simp [settingsShapes]))).bind
    fun columnMapping _ => ?_
  refine (htexts _ (by simp [settingsShapes])).bind fun ignoreColumns _ => ?_
  refine (htexts _ (by simp [settingsShapes])).bind fun infoColumns _ => ?_
  refine (policyAt_gives (hvalue _ Shape.policy (by simp [settingsShapes]))).bind
    fun extraPolicy _ => ?_
  refine (entriesAt_gives (hvalue _ (Shape.mappingTo (Shape.listOf Shape.name))
    (by simp [settingsShapes]))).bind fun groups hgroupEntries => ?_
  refine (hgroups groups hgroupEntries).bind fun groupKeyFields _ => ?_
  exact (htexts _ (by simp [settingsShapes])).bind fun serviceFields _ => .ok hkeyColumns

/-! ## 2. How loading ends -/

variable {ε : Type} {library : Library ε}

/-- How loading a document ends: with the defaults when it counts as nothing, and otherwise with what
    it states when it is accepted, or with a fault. The library may break off on what is not ordinary,
    and a number in a document that is accepted may be too long to be used. -/
inductive Ends (library : Library ε) (d : Value) : Except (LoadFault ε) Stated → Prop where
  | nothing (h : d.isNothing = true) : Ends library d (.ok {})
  | accepted {s : Stated} (hsome : d.isNothing = false) (h : IsSettingsDocument d)
      (hs : statedIn d = .ok s) : Ends library d (.ok s)
  | badPrecision {f : Fault} {column text : String} (hsome : d.isNothing = false)
      (h : IsSettingsDocument d) (hs : statedIn d = .error (.setting f))
      (hf : f.IsOfPrecision column text) : Ends library d (.error (.badValue f))
  | refused {m : String} (hsome : d.isNothing = false) (h : ¬ IsSettingsDocument d)
      (hm : library.check schemaDocument d = .error (.refused m)) :
      Ends library d (.error (.refused m))
  | unchecked {e : ε} (hsome : d.isNothing = false) (h : ¬ IsOrdinary maxNesting d)
      (hshow : IsSettingsDocument d → d.isShowable = false)
      (he : library.check schemaDocument d = .error (.other e)) :
      Ends library d (.error (.breakdown (.checking e)))
  | tooLong (hsome : d.isNothing = false) (h : IsSettingsDocument d) (hlong : d.isShowable = false) :
      Ends library d (.error (.breakdown (.unusable .longNumber)))

/-- Loading gives what is read, or the defaults where nothing is. -/
theorem load_outcome (library : Library ε) (paths : Paths) (source : SchemaSource) (file : File) :
    (load library paths source file).outcome = (·.getD {}) <$> read library source file := by
  unfold load
  cases read library source file with
  | error f => rfl
  | ok s => cases s <;> rfl

/-- The check of a document accepts it, or loading ends there. -/
theorem accept_gives (hlibrary : library.ChecksSettings) (hsome : d.isNothing = false) :
    GivesOr (fun _ => IsSettingsDocument d) (fun f => Ends library d (.error f))
      (accept library schemaDocument d) := by
  unfold accept
  cases hcheck : library.check schemaDocument d with
  | ok => exact .ok (hlibrary.sound d hcheck)
  | error f => cases f with
    | refused m => exact .error (.refused hsome (hlibrary.refused d m hcheck) hcheck)
    | badSchema m => exact absurd hcheck (hlibrary.isSchema d m)
    | other e =>
      have hnot : ¬ (IsSettingsDocument d ∧ d.isShowable = true) := fun ⟨h, hshow⟩ => by
        rw [hlibrary.accepts d h hshow] at hcheck
        cases hcheck
      refine .error (.unchecked hsome (fun hordinary => ?_) (fun h => ?_) hcheck)
      · obtain ⟨m, hm⟩ := hlibrary.refuses d hordinary fun h => hnot ⟨h, hordinary.isShowable⟩
        rw [hm] at hcheck
        cases hcheck
      · exact Bool.eq_false_iff.mpr fun hshow => hnot ⟨h, hshow⟩

/-- An accepted document states settings that can be told, unless it is open to a fault. -/
theorem ofAccepted_gives (h : IsSettingsDocument d) :
    GivesOr (fun s => statedIn d = .ok s ∧ Json.isWritable (.list s.keyColumns) = true)
      (fun f => (∃ g column text, f = .badValue g ∧ statedIn d = .error (.setting g) ∧
          g.IsOfPrecision column text) ∨
        f = .breakdown (.unusable .longNumber) ∧ d.isShowable = false) (ofAccepted (ε := ε) d) := by
  have hwritable : ∀ xs : List Value, (∀ x ∈ xs, Shape.name x) →
      Json.areWritable xs = true := by
    intro xs hxs
    induction xs with
    | nil => rfl
    | cons x rest ih =>
      obtain ⟨⟨name, rfl, _⟩, hrest⟩ := List.forall_mem_cons.mp hxs
      have hname : Json.isWritable (.text name) = true := by
        rw [Json.isWritable, Value.isShowable_text] <;> nofun
      rw [Json.areWritable, hname, ih hrest]
      rfl
  unfold ofAccepted
  rcases (statedIn_gives h).inv with
    ⟨s, hs, hkeys⟩ | ⟨f, hf, ⟨g, column, text, rfl, hg⟩ | ⟨rfl, hlong⟩⟩
  · rw [hs]
    exact .ok ⟨rfl, by rw [Json.isWritable, hwritable _ hkeys]⟩
  · rw [hf]
    exact .error (.inl ⟨g, column, text, rfl, rfl, hg⟩)
  · rw [hf]
    exact .error (.inr ⟨rfl, hlong⟩)

variable {bytes : List UInt8}

/-- What is read of a document under the schema of settings files. -/
theorem read_document (hread : library.read bytes = .ok d) :
    read library .standard (.holding bytes) =
      if d.isNothing then .ok none else some <$> readDocument library schemaDocument d := by
  have hdocument : readSettings library (.holding bytes) = .ok d := by
    simp only [readSettings, hread]
    rfl
  rw [read, hdocument]
  rfl

/-- What counts as nothing leaves the defaults. -/
theorem load_of_isNothing (paths : Paths) (hread : library.read bytes = .ok d)
    (h : d.isNothing = true) :
    (load library paths .standard (.holding bytes)).outcome = .ok {} := by
  rw [load_outcome, read_document hread, if_pos h]
  rfl

/-- A document with something in it states settings when it is accepted, or has one of the faults. -/
theorem readDocument_gives (hlibrary : library.ChecksSettings) (hsome : d.isNothing = false) :
    GivesOr (fun s => IsSettingsDocument d ∧ statedIn d = .ok s)
      (fun f => Ends library d (.error f)) (readDocument library schemaDocument d) := by
  refine (accept_gives hlibrary hsome).bind fun _ haccepted => ?_
  have hstate : GivesOr
      (fun s => statedIn d = .ok s ∧ Json.isWritable (.list s.keyColumns) = true)
      (fun f => Ends library d (.error f)) (ofAccepted d) := by
    refine (ofAccepted_gives haccepted).imp (fun _ => id) fun f hf => ?_
    rcases hf with ⟨g, column, text, rfl, hs, hg⟩ | ⟨rfl, hlong⟩
    · exact .badPrecision hsome haccepted hs hg
    · exact .tooLong hsome haccepted hlong
  refine hstate.bind fun s ⟨hs, hwritable⟩ => ?_
  rw [if_pos hwritable]
  exact .ok ⟨haccepted, hs⟩

/-- Loading a document ends in one of these ways. -/
theorem document_ends (hlibrary : library.ChecksSettings) (paths : Paths)
    (hread : library.read bytes = .ok d) :
    Ends library d (load library paths .standard (.holding bytes)).outcome := by
  cases hsome : d.isNothing with
  | true =>
    rw [load_of_isNothing paths hread hsome]
    exact .nothing hsome
  | false =>
    rw [load_outcome, read_document hread, hsome]
    rcases (readDocument_gives hlibrary hsome).inv with
      ⟨s, hs, haccepted, hstated⟩ | ⟨f, hf, hends⟩
    · rw [hs]
      exact .accepted hsome haccepted hstated
    · rw [hf]
      exact hends

/-- **How loading a document ends.** Settings are given for a document that the library accepts, and
    the defaults for one that counts as nothing. Every other document is refused, unless it is not
    ordinary and the check breaks off. Settings are given for a document that is neither absent nor
    accepted exactly when it counts as nothing and is no mapping. -/
theorem load_document (library : Library ε) (hlibrary : library.ChecksSettings) (paths : Paths)
    (bytes : List UInt8) (d : Value) (hread : library.read bytes = .ok d) :
    let outcome := (load library paths .standard (.holding bytes)).outcome
    Ends library d outcome ∧
      ((∃ s, outcome = .ok s) ∧ d ≠ .null ∧ ¬ IsSettingsDocument d ↔
        d.isNothing = true ∧ d ≠ .null ∧ d.isMapping = false) ∧
      (IsOrdinary maxNesting d → d.isNothing = false → ¬ IsSettingsDocument d →
        ∃ m, outcome = .error (.refused m)) := by
  intro outcome
  have hends : Ends library d outcome := document_ends hlibrary paths hread
  refine ⟨hends, ⟨?_, ?_⟩, fun hordinary hsome hrefused => ?_⟩
  · rintro ⟨⟨s, hs⟩, hnull, hrefused⟩
    rw [hs] at hends
    cases hends with
    | nothing h =>
      refine ⟨h, hnull, Bool.eq_false_iff.mpr fun hmapping => ?_⟩
      exact hrefused (isSettingsDocument_of_isNothing h hmapping)
    | accepted _ h _ => exact absurd h hrefused
  · rintro ⟨hnothing, hnull, hmapping⟩
    exact ⟨⟨{}, load_of_isNothing paths hread hnothing⟩, hnull,
      fun h => Bool.eq_false_iff.mp hmapping h.mapping⟩
  · obtain ⟨m, hm⟩ := hlibrary.refuses d hordinary hrefused
    refine ⟨m, ?_⟩
    have hdocument : readDocument library schemaDocument d = .error (.refused m) := by
      rw [readDocument, accept, hm]
      rfl
    show (load library paths .standard (.holding bytes)).outcome = _
    rw [load_outcome, read_document hread, hsome, hdocument]
    rfl

/-- A file that names one key column is accepted, and this column is the key of the settings. -/
theorem load_document_key :
    let paths : Paths := ⟨"settings.yaml", "schema.json"⟩
    let bytes := "key_columns: [Id]\n".toUTF8.data.toList
    ∃ d, Library.builtIn.read bytes = .ok d ∧
      Ends Library.builtIn d (load Library.builtIn paths .standard (.holding bytes)).outcome ∧
      ∃ s, (load Library.builtIn paths .standard (.holding bytes)).outcome = .ok s ∧
        s.settings.keyColumns = ["Id"] := by
  intro paths bytes
  have hread : ((Library.builtIn.read bytes).toOption.any fun d => d.isMapping) = true := by
    decide +kernel
  have hloaded : ((load Library.builtIn paths .standard (.holding bytes)).outcome.toOption.any
      fun s => s.settings.keyColumns == ["Id"]) = true := by decide +kernel
  obtain ⟨d, hd, _⟩ := exists_of_any hread
  obtain ⟨s, hs, hkeys⟩ := exists_of_any hloaded
  exact ⟨d, hd, (load_document Library.builtIn builtIn_checksSettings paths bytes d hd).1, s, hs,
    beq_iff_eq.mp hkeys⟩

/-- **An empty list is loaded**: it is neither absent nor a mapping, and leaves the defaults. -/
theorem empty_list_is_loaded :
    ∃ d, Library.builtIn.read "[]\n".toUTF8.data.toList = .ok d ∧ d.isList = true ∧ d ≠ .null ∧
      ¬ IsSettingsDocument d ∧
      ∀ paths, (load Library.builtIn paths .standard (.ofText "[]\n")).outcome = .ok {} := by
  have hread : ((Library.builtIn.read "[]\n".toUTF8.data.toList).toOption.any fun d =>
      d.isList && d.isNothing) = true := by decide +kernel
  obtain ⟨d, hd, hempty⟩ := exists_of_any hread
  obtain ⟨hlist, hnothing⟩ := Bool.and_eq_true_iff.mp hempty
  have hnull : d ≠ .null := by
    rintro rfl
    cases hlist
  exact ⟨d, hd, hlist, hnull, fun h => not_isMapping_of_isList hlist h.mapping,
    fun paths => load_of_isNothing paths hd hnothing⟩

end Reconcile.Settings
