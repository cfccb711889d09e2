import Reconcile.Proofs.Table.Caps
import Reconcile.Proofs.Table.FirstFailure

/-!
# Sources are released

However a run ends, it leaves no source open that it opened, touches none that it was handed, and
gives a report only of all rows. What ends it otherwise is the first failure on its way, from
opening the two sources on.

* `Supply.Opens`, `Supply.OpenFails`: whether a source is there to be compared;
* `Supply.LeftBehind`, `compare_leftBehind`: what a run leaves behind of a source;
* `RunFails`, **`compare_error_iff`**: the first failure of a run is what it ends in;
* `RunComplete`, `compare_complete`: what it takes to get a report;
* **`sources_released`**: every run ends cleanly.
-/

namespace Reconcile.Table

open Reconcile.Diff Reconcile.Expectation

variable {s : Settings} {f : Fault}

/-! ## 1. Opening -/

/-- A source that was handed over, open or closed, or a factory that opens one. -/
inductive Supply.Opens : Supply → Prop where
  | held (src : Source) : Opens (.held src)
  | factory (src : Source) : Opens (.factory src none)

/-- A factory does not open its source: the system fails, which is told with the side it is for, or
    the factory refuses for a reason of its own. -/
inductive Supply.OpenFails (p : Supply) (side : String) : SourceFault → Prop where
  | failed {src : Source} {reason : String} (h : p = .factory src (some (.failed reason))) :
    OpenFails p side (.cannotOpen side reason)
  | refused {src : Source} {reason : String} (h : p = .factory src (some (.refused reason))) :
    OpenFails p side (.refused reason)

theorem Supply.Opens.acquire {p : Supply} (h : p.Opens) (side : String) :
    p.acquire side = .ok p.source := by
  cases h <;> rfl

theorem Supply.OpenFails.acquire {p : Supply} {side : String} {f : SourceFault}
    (h : p.OpenFails side f) : p.acquire side = .error f := by
  cases h with
  | failed h => rw [h]; rfl
  | refused h => rw [h]; rfl

theorem Supply.OpenFails.not_opens {p : Supply} {side : String} {f : SourceFault}
    (h : p.OpenFails side f) : ¬ p.Opens := fun hopens => by
  have hok := hopens.acquire side
  rw [h.acquire] at hok
  cases hok

/-- A source opens or does not. -/
theorem Supply.opens_or_fails (p : Supply) (side : String) : p.Opens ∨ ∃ f, p.OpenFails side f := by
  cases p with
  | held src => exact .inl (.held src)
  | factory src fault =>
    cases fault with
    | none => exact .inl (.factory src)
    | some fault =>
      cases fault with
      | failed reason => exact .inr ⟨_, .failed rfl⟩
      | refused reason => exact .inr ⟨_, .refused rfl⟩

/-! ## 2. Releasing -/

/-- How a source is left behind by a run that opened it or did not come to that: a source that was
    handed over is as it was, and so is one that its factory was not asked for or did not open. One
    that was opened from a factory is closed. -/
structure Supply.LeftBehind (p : Supply) (opened : Prop) (left : Source) : Prop where
  held : ∀ src, p = .held src → left = src
  closed : ∀ src fault, p = .factory src fault → opened → left = src.close
  unopened : ∀ src fault, p = .factory src fault → ¬ opened → left = src

/-- A source that was opened is released as it has to be. -/
theorem Supply.released_leftBehind {p : Supply} (h : p.Opens) {opened : Prop} (hopened : opened) :
    p.LeftBehind opened p.released := by
  cases h with
  | held src => exact ⟨fun _ h => (Supply.held.inj h), nofun, nofun⟩
  | factory src =>
    refine ⟨nofun, fun src' fault h _ => ?_, fun _ _ _ hnot => absurd hopened hnot⟩
    obtain ⟨rfl, _⟩ := Supply.factory.inj h
    rfl

/-- A source that was not opened stays as it was. -/
theorem Supply.source_leftBehind (p : Supply) {opened : Prop} (hnot : ¬ opened) :
    p.LeftBehind opened p.source where
  held src h := by rw [h]; rfl
  closed _ _ _ h := absurd h hnot
  unopened src fault h _ := by rw [h]; rfl

/-! ## 3. Runs -/

section Run

variable (s) (expected actual : Supply)

/-- The first failure of a run: opening the sources, the expected one first, or what comes then. -/
inductive RunFails : Fault → Prop where
  | openExpected {f : SourceFault} (h : expected.OpenFails "expected" f) : RunFails (.source f)
  | openActual {f : SourceFault} (he : expected.Opens) (h : actual.OpenFails "actual" f) :
    RunFails (.source f)
  | sources {f : Fault} (he : expected.Opens) (ha : actual.Opens)
    (h : SourcesFail s expected.source actual.source f) : RunFails f

/-- Both sources were opened and read to their end without a failure. -/
structure RunComplete : Prop where
  expectedOpens : expected.Opens
  actualOpens : actual.Opens
  expectedRows : expected.source.ReadToEnd
  actualRows : actual.source.ReadToEnd
  headers : s.isKeyed = true → HeadersRead s expected.source actual.source

/-- A run ends cleanly: it leaves its sources behind as it has to, gives a report only of all rows,
    and ends in its first failure otherwise. -/
structure EndsCleanly (run : Run) : Prop where
  expectedLeft : expected.LeftBehind expected.Opens run.expected
  actualLeft : actual.LeftBehind (expected.Opens ∧ actual.Opens) run.actual
  complete : ∀ t, run.result = .ok t → RunComplete s expected actual
  failure : ∀ f, run.result = .error f ↔ RunFails s expected actual f

end Run

variable {expected actual : Supply}

/-- **A run ends in its first failure.** -/
theorem compare_error_iff :
    (compare s expected actual).result = .error f ↔ RunFails s expected actual f := by
  unfold compare runSources
  constructor
  · intro h
    rcases expected.opens_or_fails "expected" with he | ⟨g, hfails⟩
    · rw [he.acquire] at h
      rcases actual.opens_or_fails "actual" with ha | ⟨g, hfails⟩
      · rw [ha.acquire] at h
        exact .sources he ha (compareSources_error_iff.mp h)
      · rw [hfails.acquire] at h
        obtain rfl := Except.error.inj h
        exact .openActual he hfails
    · rw [hfails.acquire] at h
      obtain rfl := Except.error.inj h
      exact .openExpected hfails
  · intro h
    cases h with
    | openExpected h => rw [h.acquire]
    | openActual he h => rw [he.acquire, h.acquire]
    | sources he ha h =>
      rw [he.acquire, ha.acquire]
      exact compareSources_error_iff.mpr h

/-- A run that returns read both its sources to their end. -/
theorem compare_complete {t : Tree} (h : (compare s expected actual).result = .ok t) :
    RunComplete s expected actual := by
  have hfails : ∀ f, ¬ RunFails s expected actual f := fun f hf => by
    rw [compare_error_iff.mpr hf] at h
    cases h
  have he : expected.Opens := (expected.opens_or_fails "expected").resolve_right
    fun ⟨f, hf⟩ => hfails _ (.openExpected hf)
  have ha : actual.Opens := (actual.opens_or_fails "actual").resolve_right
    fun ⟨f, hf⟩ => hfails _ (.openActual he hf)
  obtain ⟨hexpected, hactual, hheaders⟩ := compareSources_complete (compare_ok h)
  exact ⟨he, ha, hexpected, hactual, hheaders⟩

/-- What a run leaves behind of its sources. -/
theorem compare_leftBehind (s : Settings) (expected actual : Supply) :
    expected.LeftBehind expected.Opens (compare s expected actual).expected ∧
      actual.LeftBehind (expected.Opens ∧ actual.Opens) (compare s expected actual).actual := by
  unfold compare runSources
  rcases expected.opens_or_fails "expected" with he | ⟨f, hfails⟩
  · rw [he.acquire]
    rcases actual.opens_or_fails "actual" with ha | ⟨f, hfails⟩
    · rw [ha.acquire]
      exact ⟨Supply.released_leftBehind he he, Supply.released_leftBehind ha ⟨he, ha⟩⟩
    · rw [hfails.acquire]
      exact ⟨Supply.released_leftBehind he he,
        actual.source_leftBehind fun h => hfails.not_opens h.2⟩
  · rw [hfails.acquire]
    exact ⟨expected.source_leftBehind hfails.not_opens,
      actual.source_leftBehind fun h => hfails.not_opens h.1⟩

/-- **Sources are released on every path.** Whatever the settings are, however the two sources are
    given, and whatever fails at whichever point: after a comparison every source that was opened
    from a factory is closed, and every other one is as it was. A report is given only when both
    sources were opened and read to their end without a failure. Otherwise the comparison ends in
    its first failure; when that is one of the system in opening or reading a source, it is told as
    a failure of the source. -/
theorem sources_released (s : Settings) (expected actual : Supply) :
    EndsCleanly s expected actual (compare s expected actual) where
  expectedLeft := (compare_leftBehind s expected actual).1
  actualLeft := (compare_leftBehind s expected actual).2
  complete _ := compare_complete
  failure _ := compare_error_iff

/-- A positional run over a source that stays with the caller and one from a factory, whose second
    row cannot be read: the first row was compared, and there is no report. -/
theorem sources_released_stock :
    let expected := stockOf [("pen", "3"), ("ink", "1")]
    let actual := Supply.factory { expected.source with rowFault := some (1, "disk gone") } none
    let run := compare {} expected actual
    run.result = .error (.source (.cannotRead "disk gone")) ∧
      run.expected.closed = false ∧ run.actual.closed = true := by
  intro expected actual run
  have hends : EndsCleanly {} expected actual run := sources_released {} expected actual
  have hfails : actual.source.ReadFails (.cannotRead "disk gone") := .rows rfl rfl
  refine ⟨(hends.failure _).mpr ?_, ?_, ?_⟩
  · exact .sources (.held _) (.factory _) (.positional rfl (.rows nofun (by decide +kernel)
      (.actual hfails (.inl ⟨rfl, rfl⟩))))
  · rw [hends.expectedLeft.held _ rfl]
  · rw [hends.actualLeft.closed _ _ rfl ⟨.held _, .factory _⟩]
    rfl

end Reconcile.Table
