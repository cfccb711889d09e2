import Reconcile.Proofs.Table.Returns

/-!
# The first failure of a comparison

A comparison of two open sources gives a report of all rows or ends in the first failure on its way:
reading either header, a key column that is missing, reading either side after some rows, or a cell
that cannot be evaluated. The way differs between the two modes: a keyed run reads both headers and
then all actual rows first, a positional one reads both sides in step.

* `Source.ReadFails`, `Source.ReadToEnd`: how reading the rows of a source ends;
* `KeyedFails`, `FirstMissing`, `PositionalFails`, `SourcesFail`: the first failure on each way;
* `compareKeyed_error_iff`, `checkKeyColumns_error_iff`, `comparePositional_error_iff`,
  **`compareSources_error_iff`**: it is what a comparison ends in;
* `compareSources_complete`: a comparison that gives a report met none.
-/

namespace Reconcile.Table

open Reconcile.Diff Reconcile.Expectation

/-! ## 1. Reading the rows of a source -/

/-- Reading the rows of a source fails: it is closed, or there is no reading on after some rows. -/
inductive Source.ReadFails (src : Source) : SourceFault → Prop where
  | closed (h : src.closed = true) : ReadFails src .closed
  | rows {count : Nat} {reason : String} (hopen : src.closed = false)
    (h : src.rowFault = some (count, reason)) : ReadFails src (.cannotRead reason)

/-- All rows of a source can be read. -/
structure Source.ReadToEnd (src : Source) : Prop where
  isOpen : src.closed = false
  rows : src.rowFault = none

theorem Source.ReadFails.fault {src : Source} {f : SourceFault} (h : src.ReadFails f) :
    src.stream.fault = some f := by
  unfold Source.stream
  cases h with
  | closed h => rw [if_pos h]
  | rows hopen h =>
    rw [hopen, h]
    rfl

theorem Source.ReadToEnd.fault {src : Source} (h : src.ReadToEnd) : src.stream.fault = none := by
  unfold Source.stream
  rw [h.isOpen, h.rows]
  rfl

theorem Source.readFails_of_fault {src : Source} {f : SourceFault}
    (h : src.stream.fault = some f) : src.ReadFails f := by
  unfold Source.stream at h
  cases hclosed : src.closed with
  | true =>
    rw [hclosed] at h
    obtain rfl := Option.some.inj h
    exact .closed hclosed
  | false =>
    rw [hclosed] at h
    cases hfault : src.rowFault with
    | none => rw [hfault] at h; cases h
    | some fault =>
      rw [hfault] at h
      obtain rfl := Option.some.inj h
      exact .rows hclosed hfault

theorem Source.readToEnd_of_fault {src : Source} (h : src.stream.fault = none) :
    src.ReadToEnd := by
  unfold Source.stream at h
  cases hclosed : src.closed with
  | true => rw [hclosed] at h; cases h
  | false =>
    rw [hclosed] at h
    cases hfault : src.rowFault with
    | none => exact ⟨hclosed, hfault⟩
    | some fault => rw [hfault] at h; cases h

variable {s : Settings} {expected actual : Source} {f : Fault}

/-! ## 2. Keyed runs -/

section Failures

variable (s expected actual)

/-- No cell of the pairs of rows that a run compares breaks its evaluation off. -/
def AllStand (pairs : List (Row × Row)) : Prop := ∀ q ∈ pairs, PairStands s q.1 q.2

instance (pairs : List (Row × Row)) : Decidable (AllStand s pairs) :=
  inferInstanceAs (Decidable (∀ q ∈ pairs, PairStands s q.1 q.2))

/-- The first failure of a keyed run once the key columns are there: it reads all actual rows, and
    then reads the expected ones and compares them. -/
inductive KeyedFails : Fault → Prop where
  | actualRows {f : SourceFault} (h : actual.ReadFails f) : KeyedFails (.source f)
  | cell {b : Breakdown} (ha : actual.ReadToEnd)
    (h : FirstFails (pairLeaves s) b (comparedPairs s expected.stream.rows actual.rows)) :
    KeyedFails (.breakdown b)
  | expectedRows {f : SourceFault} (ha : actual.ReadToEnd)
    (hpairs : AllStand s (comparedPairs s expected.stream.rows actual.rows))
    (h : expected.ReadFails f) : KeyedFails (.source f)

/-- The first key column that a side misses; the expected side is looked at first. -/
inductive FirstMissing (expected actual : Header) : List String → Fault → Prop where
  | expected {c : String} {rest : List String} (h : expected.has c = false) :
    FirstMissing expected actual (c :: rest) (.missingKeyColumn c "expected")
  | actual {c : String} {rest : List String} (he : expected.has c = true)
    (h : actual.has (s.actualColumn c) = false) :
    FirstMissing expected actual (c :: rest) (.missingKeyColumn (s.actualColumn c) "actual")
  | later {c : String} {rest : List String} {f : Fault} (he : expected.has c = true)
    (ha : actual.has (s.actualColumn c) = true) (h : FirstMissing expected actual rest f) :
    FirstMissing expected actual (c :: rest) f

end Failures

/-- A keyed run whose actual rows were all read streams the expected ones against them. -/
theorem compareKeyed_of_readToEnd (ha : actual.ReadToEnd) :
    (compareKeyed s expected actual).result =
      (compareIndexed s expected.stream (indexRows s actual.rows)).result := by
  rw [compareKeyed_eq, ha.fault, Source.stream_rows ha.fault]

/-- **A keyed run ends in its first failure.** -/
theorem compareKeyed_error_iff (hkeyed : s.isKeyed = true) :
    (compareKeyed s expected actual).result = .error f ↔ KeyedFails s expected actual f := by
  constructor
  · intro h
    cases hactual : actual.stream.fault with
    | some g =>
      rw [compareKeyed_eq, hactual] at h
      obtain rfl := Except.error.inj h
      exact .actualRows (Source.readFails_of_fault hactual)
    | none =>
      have ha : actual.ReadToEnd := Source.readToEnd_of_fault hactual
      rw [compareKeyed_of_readToEnd ha, compareIndexed_result] at h
      split at h
      · rename_i b hroute
        obtain rfl := Except.error.inj h
        exact .cell ha ((passages_error_iff hkeyed).mp hroute)
      · rename_i routed g hroute hexpected
        obtain rfl := Except.error.inj h
        exact .expectedRows ha ((passages_returns_iff hkeyed).mp ⟨routed, hroute⟩)
          (Source.readFails_of_fault hexpected)
      · cases h
  · intro h
    cases h with
    | actualRows h => rw [compareKeyed_eq, h.fault]
    | cell ha h =>
      rw [compareKeyed_of_readToEnd ha, compareIndexed_result, (passages_error_iff hkeyed).mpr h]
    | expectedRows ha hpairs h =>
      obtain ⟨routed, hroute⟩ := (passages_returns_iff hkeyed).mpr hpairs
      rw [compareKeyed_of_readToEnd ha, compareIndexed_result, hroute, h.fault]

/-- **The check of the key columns** ends at the first one that is missing. -/
theorem checkKeyColumns_error_iff {expected actual : Header} :
    checkKeyColumns s expected actual = .error f ↔
      FirstMissing s expected actual s.keyColumns f := by
  unfold checkKeyColumns
  rw [List.forM_eq_forM]
  induction s.keyColumns with
  | nil => exact ⟨nofun, nofun⟩
  | cons c rest ih =>
    rw [List.forM_cons]
    constructor
    · intro h
      cases he : expected.has c with
      | false =>
        rw [he] at h
        obtain rfl := Except.error.inj h
        exact .expected he
      | true =>
        cases ha : actual.has (s.actualColumn c) with
        | false =>
          rw [he, ha] at h
          obtain rfl := Except.error.inj h
          exact .actual he ha
        | true =>
          rw [he, ha] at h
          exact .later he ha (ih.mp h)
    · intro h
      cases h with
      | expected he =>
        rw [he]
        rfl
      | actual he ha =>
        rw [he, ha]
        rfl
      | later he ha h =>
        rw [he, ha]
        exact ih.mpr h

/-! ## 3. Positional runs -/

section Failures

variable (s expected actual)

/-- The fault that reading both sides in step meets first: in each step the expected side is read
    before the actual one. -/
inductive StepsFail (f : SourceFault) : Prop where
  | expected (h : expected.ReadFails f)
    (hfirst : actual.ReadToEnd ∨ expected.stream.rows.length ≤ actual.stream.rows.length)
  | actual (h : actual.ReadFails f)
    (hfirst : expected.ReadToEnd ∨ actual.stream.rows.length < expected.stream.rows.length)

/-- The first failure of a positional run: both sides have to be open before either is read, and
    then they are read and compared in step. -/
inductive PositionalFails : Fault → Prop where
  | closed (he : expected.closed = false) (ha : actual.closed = true) :
    PositionalFails (.source .closed)
  | cell {b : Breakdown}
    (h : FirstFails (pairLeaves s) b (expected.stream.rows.zip actual.stream.rows)) :
    PositionalFails (.breakdown b)
  | rows {f : SourceFault} (hopen : actual.closed = true → expected.closed = true)
    (hpairs : AllStand s (expected.stream.rows.zip actual.stream.rows))
    (h : StepsFail expected actual f) : PositionalFails (.source f)

end Failures

theorem stepsFail_iff {f : SourceFault} :
    (stepsOf expected.stream actual.stream).2 = some f ↔ StepsFail expected actual f := by
  unfold stepsOf
  dsimp only
  constructor
  · intro h
    split at h
    · cases h
    · rename_i he ha
      obtain rfl := Option.some.inj h
      exact .expected (Source.readFails_of_fault he) (.inl (Source.readToEnd_of_fault ha))
    · rename_i he ha
      obtain rfl := Option.some.inj h
      exact .actual (Source.readFails_of_fault ha) (.inl (Source.readToEnd_of_fault he))
    · rename_i he ha
      split at h
      · rename_i hle
        obtain rfl := Option.some.inj h
        exact .expected (Source.readFails_of_fault he) (.inr hle)
      · rename_i hle
        obtain rfl := Option.some.inj h
        exact .actual (Source.readFails_of_fault ha) (.inr (Nat.lt_of_not_le hle))
  · intro h
    cases h with
    | expected he hfirst =>
      rw [he.fault]
      cases ha : actual.stream.fault with
      | none => rfl
      | some g =>
        have hle := hfirst.resolve_left fun hend => nomatch ha.symm.trans hend.fault
        dsimp only
        rw [if_pos hle]
    | actual ha hfirst =>
      rw [ha.fault]
      cases he : expected.stream.fault with
      | none => rfl
      | some g =>
        have hlt := hfirst.resolve_left fun hend => nomatch he.symm.trans hend.fault
        dsimp only
        rw [if_neg (Nat.not_le.mpr hlt)]

/-- **A positional run ends in its first failure.** -/
theorem comparePositional_error_iff :
    (comparePositional s expected actual).result = .error f ↔ PositionalFails s expected actual f := by
  rw [comparePositional_eq]
  constructor
  · intro h
    split at h
    · rename_i hclosed
      obtain ⟨ha, he⟩ := Bool.and_eq_true_iff.mp hclosed
      obtain rfl := Except.error.inj h
      exact .closed ((Bool.not_eq_true' _).mp he) ha
    · rename_i hclosed
      have hopen : actual.closed = true → expected.closed = true := fun ha => by
        rw [ha, Bool.true_and, Bool.not_eq_true', Bool.not_eq_false] at hclosed
        exact hclosed
      split at h
      · rename_i hnodes
        obtain rfl := Except.error.inj h
        exact .cell (pairNodes_error_iff.mp hnodes)
      · rename_i nodes g hnodes hended
        obtain rfl := Except.error.inj h
        exact .rows hopen (pairNodes_returns_iff.mp ⟨nodes, hnodes⟩) (stepsFail_iff.mp hended)
      · cases h
  · intro h
    cases h with
    | closed he ha => rw [he, ha, Bool.not_false, Bool.and_self, if_pos rfl]
    | cell h =>
      -- a closed source has no rows, so that there would be no pair to break off
      have hopen : actual.closed = false := Bool.eq_false_iff.mpr fun hclosed => by
        have hnone : actual.stream.rows = [] := by rw [Source.stream, if_pos hclosed]
        rw [hnone, List.zip_nil_right] at h
        cases h
      rw [hopen, Bool.false_and, if_neg Bool.false_ne_true, pairNodes_error_iff.mpr h]
    | rows hopen hpairs h =>
      have hnot : ¬ (actual.closed && !expected.closed) = true := fun hclosed => by
        obtain ⟨ha, he⟩ := Bool.and_eq_true_iff.mp hclosed
        rw [hopen ha] at he
        cases he
      obtain ⟨nodes, hnodes⟩ := pairNodes_returns_iff.mpr hpairs
      rw [if_neg hnot, hnodes, stepsFail_iff.mpr h]

/-! ## 4. Runs over sources that were opened -/

section Failures

variable (s expected actual)

/-- The headers of both sides can be read, and have the key columns. -/
structure HeadersRead : Prop where
  expectedHeader : expected.headerFault = none
  actualHeader : actual.headerFault = none
  columns : HasKeyColumns s expected.header actual.header

/-- The first failure of a run over sources that were opened. A keyed run reads both headers first. -/
inductive SourcesFail : Fault → Prop where
  | expectedHeader {reason : String} (hkeyed : s.isKeyed = true)
    (h : expected.headerFault = some reason) : SourcesFail (.source (.cannotRead reason))
  | actualHeader {reason : String} (hkeyed : s.isKeyed = true)
    (he : expected.headerFault = none) (h : actual.headerFault = some reason) :
    SourcesFail (.source (.cannotRead reason))
  | keyColumn {f : Fault} (hkeyed : s.isKeyed = true) (he : expected.headerFault = none)
    (ha : actual.headerFault = none)
    (h : FirstMissing s expected.header actual.header s.keyColumns f) : SourcesFail f
  | keyed {f : Fault} (hkeyed : s.isKeyed = true) (hheaders : HeadersRead s expected actual)
    (h : KeyedFails s expected actual f) : SourcesFail f
  | positional {f : Fault} (hkeyed : s.isKeyed = false)
    (h : PositionalFails s expected actual f) : SourcesFail f

end Failures

theorem compareSources_expectedHeader (hkeyed : s.isKeyed = true) {reason : String}
    (h : expected.headerFault = some reason) :
    compareSources s expected actual = ⟨.error (.source (.cannotRead reason)), []⟩ := by
  unfold compareSources Source.readHeader
  rw [if_pos hkeyed, h]
  rfl

theorem compareSources_actualHeader (hkeyed : s.isKeyed = true) {reason : String}
    (he : expected.headerFault = none) (h : actual.headerFault = some reason) :
    compareSources s expected actual = ⟨.error (.source (.cannotRead reason)), []⟩ := by
  unfold compareSources Source.readHeader
  rw [if_pos hkeyed, he, h]
  rfl

/-- A keyed run over sources whose headers can be read looks for the key columns. -/
theorem compareSources_of_headers (hkeyed : s.isKeyed = true) (he : expected.headerFault = none)
    (ha : actual.headerFault = none) : compareSources s expected actual =
      match checkKeyColumns s expected.header actual.header with
      | .error f => ⟨.error f, []⟩
      | .ok () => compareKeyed s expected actual := by
  unfold compareSources Source.readHeader
  rw [if_pos hkeyed, he, ha]
  rfl

/-- A keyed run that gets to the rows read the headers. -/
theorem headersRead_or_fails (hkeyed : s.isKeyed = true) :
    (HeadersRead s expected actual ∧
      compareSources s expected actual = compareKeyed s expected actual) ∨
    ∃ f, SourcesFail s expected actual f ∧ (compareSources s expected actual).result = .error f := by
  cases he : expected.headerFault with
  | some reason =>
    exact .inr ⟨_, .expectedHeader hkeyed he, by rw [compareSources_expectedHeader hkeyed he]⟩
  | none =>
    cases ha : actual.headerFault with
    | some reason =>
      exact .inr ⟨_, .actualHeader hkeyed he ha, by rw [compareSources_actualHeader hkeyed he ha]⟩
    | none =>
      rw [compareSources_of_headers hkeyed he ha]
      cases hcheck : checkKeyColumns s expected.header actual.header with
      | error f => exact .inr ⟨f, .keyColumn hkeyed he ha (checkKeyColumns_error_iff.mp hcheck), rfl⟩
      | ok u => exact .inl ⟨⟨he, ha, checkKeyColumns_ok_iff.mp hcheck⟩, rfl⟩

/-- **A run over sources that were opened ends in its first failure.** -/
theorem compareSources_error_iff :
    (compareSources s expected actual).result = .error f ↔ SourcesFail s expected actual f := by
  constructor
  · intro h
    cases hkeyed : s.isKeyed with
    | false =>
      rw [compareSources_of_positional hkeyed] at h
      exact .positional hkeyed (comparePositional_error_iff.mp h)
    | true =>
      rcases headersRead_or_fails hkeyed with ⟨hheaders, hresult⟩ | ⟨g, hfails, hresult⟩
      · rw [hresult] at h
        exact .keyed hkeyed hheaders ((compareKeyed_error_iff hkeyed).mp h)
      · obtain rfl := Except.error.inj (hresult.symm.trans h)
        exact hfails
  · intro h
    cases h with
    | expectedHeader hkeyed h => rw [compareSources_expectedHeader hkeyed h]
    | actualHeader hkeyed he h => rw [compareSources_actualHeader hkeyed he h]
    | keyColumn hkeyed he ha h =>
      rw [compareSources_of_headers hkeyed he ha, checkKeyColumns_error_iff.mpr h]
    | keyed hkeyed hheaders h =>
      rw [compareSources_of_headers hkeyed hheaders.expectedHeader hheaders.actualHeader,
        checkKeyColumns_ok_iff.mpr hheaders.columns]
      exact (compareKeyed_error_iff hkeyed).mpr h
    | positional hkeyed h =>
      rw [compareSources_of_positional hkeyed]
      exact comparePositional_error_iff.mpr h

/-- A run that returns over sources that were opened read all their rows and, with key columns, their
    headers. -/
theorem compareSources_complete {t : Tree} (h : (compareSources s expected actual).result = .ok t) :
    expected.ReadToEnd ∧ actual.ReadToEnd ∧
      (s.isKeyed = true → HeadersRead s expected actual) := by
  cases hkeyed : s.isKeyed with
  | false =>
    rw [compareSources_of_positional hkeyed] at h
    obtain ⟨he, ha⟩ := comparePositional_ok h
    exact ⟨Source.readToEnd_of_fault he, Source.readToEnd_of_fault ha, nofun⟩
  | true =>
    obtain ⟨he, ha⟩ := compareKeyed_ok (compareSources_ok hkeyed h)
    refine ⟨Source.readToEnd_of_fault he, Source.readToEnd_of_fault ha, fun _ => ?_⟩
    rcases headersRead_or_fails hkeyed with ⟨hheaders, _⟩ | ⟨f, _, hresult⟩
    · exact hheaders
    · rw [hresult] at h
      cases h

end Reconcile.Table
