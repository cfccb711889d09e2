import Reconcile.Proofs.Table.Caps
import Reconcile.Proofs.Table.KeyedRows
import Reconcile.Proofs.Table.PositionalRun

/-!
# Runs in step

Two runs over one expected source, whose actual sources give rows in a relation one by one. When
what a run makes of a single actual row is alike for rows in the relation -- its key, its node beside
an expected row, its node as a surplus row -- then so is all that the runs come to: what one of them
pairs, files, marks and counts, the other one does as well. The runs may differ in the names that
columns have on the actual side.

* `RowsInStep`: what is asked of single rows; `KeptNodes`: and of the relation of their nodes;
* `SourcesInStep`, `SourcesInStep.stream`: sources that are read equally far;
* `RoutedInStep`, `FindingsInStep`: rows of a report, and what a run comes to, in step;
* `passagesFrom_inStep`, `Passage.route_inStep`, `compareIndexed_inStep`: keyed runs;
* `pairNodes_inStep`, `comparePositional_inStep`: positional ones;
* **`compareSources_inStep`**: either.
-/

namespace Reconcile.Table

open Reconcile.Diff Reconcile.Expectation

/-! ## 1. What is asked of single rows -/

/-- A relation of nodes that is kept by what a run adds to a node, and that shows in its success. -/
structure KeptNodes (N : Tree → Tree → Prop) : Prop where
  success : ∀ {t u}, N t u → t.success = u.success
  marked : ∀ {t u}, N t u → ∀ first, N (markIf t first) (markIf u first)
  keyed : ∀ {t u}, N t u → ∀ key, N (commentKey t key) (commentKey u key)

/-- Rows in a relation are treated alike by a run and by one with another mapping of columns: they
    have the same key, and nodes in a relation beside every expected row with the given columns, and
    as surplus rows. -/
structure RowsInStep (s : Settings) (mapping : List (String × String)) (columns : List String)
    (R : Row → Row → Prop) (N X : Tree → Tree → Prop) : Prop where
  key : ∀ {a b}, R a b → actualKey s a = actualKey { s with columnMapping := mapping } b
  pair : ∀ {name e a b}, e.header.columns = columns → R a b →
    BothGive N (comparePair s name e a) (comparePair { s with columnMapping := mapping } name e b)
  surplus : ∀ {name a b}, R a b →
    X (extraRow s name a) (extraRow { s with columnMapping := mapping } name b)
  same : ∀ t, N t t
  results : KeptNodes N
  extras : KeptNodes X

/-- Two sources that can be read equally far and give rows in a relation. -/
structure SourcesInStep (R : Row → Row → Prop) (a b : Source) : Prop where
  rows : List.Forall₂ R a.rows b.rows
  closed : a.closed = b.closed
  headerFault : a.headerFault = b.headerFault
  rowFault : a.rowFault = b.rowFault

/-- Such sources give rows in the relation, up to the same fault. -/
theorem SourcesInStep.stream {R : Row → Row → Prop} {a b : Source} (h : SourcesInStep R a b) :
    List.Forall₂ R a.stream.rows b.stream.rows ∧ a.stream.fault = b.stream.fault := by
  unfold Source.stream
  rw [← h.closed, ← h.rowFault]
  split
  · exact ⟨.nil, rfl⟩
  · cases a.rowFault with
    | none => exact ⟨h.rows, rfl⟩
    | some fault => exact ⟨List.forall₂_take _ h.rows, rfl⟩

/-! ## 2. What runs come to -/

section Relations

variable (N X : Tree → Tree → Prop)

/-- Routed rows that are filed alike: results in the one relation, surplus rows in the other. -/
inductive RoutedInStep : RoutedRow → RoutedRow → Prop where
  | result {p : Section} {t u : Tree} (hp : p ≠ .extra) (h : N t u) : RoutedInStep ⟨p, t⟩ ⟨p, u⟩
  | surplus {t u : Tree} (h : X t u) : RoutedInStep ⟨.extra, t⟩ ⟨.extra, u⟩

/-- Runs that come to the same: to nothing, or to routed rows in step and the same comment on the
    numbers of rows. -/
inductive FindingsInStep : Findings → Findings → Prop where
  | nothing : FindingsInStep .nothing .nothing
  | rows {routed routed' : List RoutedRow} (h : List.Forall₂ (RoutedInStep N X) routed routed')
    (rowCount : Option String) : FindingsInStep (.rows routed rowCount) (.rows routed' rowCount)

/-- Trees of runs that come to the same. -/
def ReportsInStep (c : Caps) (t u : Tree) : Prop :=
  ∃ found found', FindingsInStep N X found found' ∧ t = found.tree c ∧ u = found'.tree c

end Relations

/-- What a keyed run comes to. -/
theorem keyedReport_findings (s : Settings) (e left : Nat) (routed : List RoutedRow) :
    keyedReport s e left routed =
      Findings.tree s.caps (if e = 0 ∧ left = 0 then .nothing else .rows routed none) := by
  unfold keyedReport
  split <;> rfl

/-- What a positional run comes to. -/
theorem positionalReport_findings (s : Settings) (e a : Nat) (routed : List RoutedRow) :
    positionalReport s e a routed = Findings.tree s.caps (if e = 0 ∧ a = 0 then .nothing
      else .rows routed (if e = a then none else some s!"Expected {e} rows, actual {a} rows")) := by
  unfold positionalReport
  split
  · rfl
  · split <;> rfl

variable {s : Settings} {mapping : List (String × String)} {columns : List String}
variable {R : Row → Row → Prop} {N X : Tree → Tree → Prop}

/-! ## 3. Keyed runs -/

theorem rowsMatch_inStep (h : RowsInStep s mapping columns R N X) {a b : Row} (hab : R a b)
    (e : Row) : rowsMatch s e a = rowsMatch { s with columnMapping := mapping } e b := by
  rw [rowsMatch, rowsMatch, h.key hab]
  rfl

variable (R) in
/-- Candidates for rows in the relation. -/
structure CandidatesInStep (c d : Candidate) : Prop where
  number : c.number = d.number
  row : R c.row d.row
  duplicateOf : c.duplicateOf = d.duplicateOf

theorem candidatesFrom_inStep (h : RowsInStep s mapping columns R N X) {as bs : List Row}
    (hrows : List.Forall₂ R as bs) : ∀ (n : Nat) (seen : KeyList String),
    List.Forall₂ (CandidatesInStep R) (candidatesFrom s n seen as)
      (candidatesFrom { s with columnMapping := mapping } n seen bs) := by
  induction hrows with
  | nil => exact fun _ _ => .nil
  | cons hab _ ih =>
    intro n seen
    rw [candidatesFrom_cons, candidatesFrom_cons, h.key hab]
    exact .cons ⟨rfl, hab, rfl⟩ (ih (n + 1) _)

variable (R) in
/-- Passages of the same expected row that take candidates in step, or nothing. -/
structure PassagesInStep (p q : Passage) : Prop where
  number : p.number = q.number
  row : p.row = q.row
  taken : Option.Rel (CandidatesInStep R) p.taken q.taken
  repeats : p.repeats = q.repeats

/-- **Expected rows pass alike** by candidates in step. -/
theorem passagesFrom_inStep (h : RowsInStep s mapping columns R N X) :
    ∀ (rows : List Row) (n : Nat) (seen : KeyList String) {left left' : List Candidate},
    List.Forall₂ (CandidatesInStep R) left left' →
    List.Forall₂ (PassagesInStep R) (passagesFrom s n seen left rows)
      (passagesFrom { s with columnMapping := mapping } n seen left' rows)
  | [], _, _, _, _, _ => .nil
  | row :: rest, n, seen, left, left', hleft => by
    have hmatch : ∀ c d, CandidatesInStep R c d → rowsMatch s row c.row =
        rowsMatch { s with columnMapping := mapping } row d.row := fun c d hcd =>
      rowsMatch_inStep h hcd.row row
    rw [passagesFrom_cons, passagesFrom_cons]
    exact .cons ⟨rfl, rfl, find?_forall₂ hmatch hleft, rfl⟩
      (passagesFrom_inStep h rest (n + 1) _ (eraseP_forall₂ hmatch hleft))

theorem leftOver_inStep (h : RowsInStep s mapping columns R N X) (es : List Row)
    {as bs : List Row} (hrows : List.Forall₂ R as bs) :
    List.Forall₂ (CandidatesInStep R) (leftOver s es as)
      (leftOver { s with columnMapping := mapping } es bs) :=
  left_forall₂ (fun e _ _ hcd => rowsMatch_inStep h hcd.row e) es
    (candidatesFrom_inStep h hrows 1 [])

/-- Results stay in step when their keys and marks are added. -/
theorem finishExpected_inStep (h : KeptNodes N) {p : Section} (hp : p ≠ .extra) {t u : Tree}
    (htu : N t u) (key : RowKey) (first : Option String) :
    RoutedInStep N X (finishExpected ⟨p, t⟩ key first) (finishExpected ⟨p, u⟩ key first) := by
  have hplace : ∀ q : Section, q ≠ .extra →
      (if first.isSome && q == .passed then Section.failed else q) ≠ .extra := fun q hq => by
    split
    · exact nofun
    · exact hq
  exact .result (hplace p hp) (h.marked (h.keyed htu key) first)

/-- **Passages in step are routed in step.** -/
theorem Passage.route_inStep (h : RowsInStep s mapping columns R N X) {p q : Passage}
    (hpq : PassagesInStep R p q) (hcolumns : p.row.header.columns = columns) :
    BothGive (RoutedInStep N X) (p.route s) (q.route { s with columnMapping := mapping }) := by
  have htaken := hpq.taken
  unfold Passage.route
  rw [← hpq.number, ← hpq.row, ← hpq.repeats]
  generalize p.taken = taken at htaken ⊢
  generalize q.taken = taken' at htaken ⊢
  cases htaken with
  | none =>
    have hplace : Section.notFound ≠ .extra := nofun
    exact .ok (finishExpected_inStep h.results hplace (h.same _) _ _)
  | @some c d hcd =>
    refine (h.pair hcolumns hcd.row).bind fun t u htu => .ok ?_
    have hplace : (if d.duplicateOf.isSome then Section.failed else .ofPair u) ≠ .extra := by
      split
      · exact nofun
      · exact ofPair_ne (p := .extra) nofun nofun u
    have hsame : Section.ofPair t = Section.ofPair u := by
      rw [Section.ofPair, Section.ofPair, h.results.success htu]
    rw [hcd.duplicateOf, hsame]
    exact finishExpected_inStep h.results hplace (h.results.marked htu d.duplicateOf) _ _

/-- Candidates in step are reported in step when they are left over. -/
theorem routeLeftovers_inStep (h : RowsInStep s mapping columns R N X)
    {left left' : List Candidate} (hleft : List.Forall₂ (CandidatesInStep R) left left') :
    List.Forall₂ (RoutedInStep N X) (routeLeftovers s left)
      (routeLeftovers { s with columnMapping := mapping } left') := by
  have hreported : ∀ c d, CandidatesInStep R c d → (isReported s c = true ↔
      isReported { s with columnMapping := mapping } d = true) := fun c d hcd => by
    rw [isReported, isReported, hcd.duplicateOf]
    rfl
  rw [routeLeftovers_eq, routeLeftovers_eq, List.forall₂_map_left_iff, List.forall₂_map_right_iff]
  refine (List.rel_filter (fun c d => hreported c d) hleft).imp fun c d hcd => .surplus ?_
  unfold surplusRow
  rw [hcd.number, hcd.duplicateOf]
  exact h.extras.marked (h.surplus hcd.row) d.duplicateOf

/-- Expected rows that are streamed against rows in step give reports in step. -/
theorem compareIndexed_inStep (h : RowsInStep s mapping columns R N X) {expected : Stream}
    {as bs : List Row} (hcolumns : ∀ row ∈ expected.rows, row.header.columns = columns)
    (hrows : List.Forall₂ R as bs) :
    BothGive (ReportsInStep N X s.caps) (compareIndexed s expected (indexRows s as)).result
      (compareIndexed { s with columnMapping := mapping } expected
        (indexRows { s with columnMapping := mapping } bs)).result := by
  have hpassages : List.Forall₂ (PassagesInStep R) (passages s expected.rows as)
      (passages { s with columnMapping := mapping } expected.rows bs) :=
    passagesFrom_inStep h expected.rows 1 [] (candidatesFrom_inStep h hrows 1 [])
  have hheader : ∀ p ∈ passages s expected.rows as, p.row.header.columns = columns := fun p hp =>
    hcolumns p.row ((passagesFrom_map s expected.rows 1 [] _).2.1 ▸ List.mem_map_of_mem hp)
  have hrouted : BothGive (List.Forall₂ (RoutedInStep N X))
      ((passages s expected.rows as).mapM (Passage.route s))
      ((passages { s with columnMapping := mapping } expected.rows bs).mapM
        (Passage.route { s with columnMapping := mapping })) :=
    .mapM (((List.forall₂_and_left _ _).mpr ⟨hheader, hpassages⟩).imp fun _ _ hpq =>
      Passage.route_inStep h hpq.2 hpq.1)
  have hleft := leftOver_inStep h expected.rows hrows
  rw [compareIndexed_result, compareIndexed_result]
  rcases hrouted.inv with ⟨b, hfirst, hsecond⟩ | ⟨routed, routed', hfirst, hsecond, hboth⟩
  · rw [hfirst, hsecond]
    exact .error _
  · rw [hfirst, hsecond]
    cases expected.fault with
    | some f => exact .error _
    | none =>
      refine .ok ⟨_, _, ?_, keyedReport_findings _ _ _ _, keyedReport_findings _ _ _ _⟩
      rw [hleft.length_eq]
      split
      · exact .nothing
      · exact .rows (List.rel_append hboth (routeLeftovers_inStep h hleft)) none

/-! ## 4. Positional runs -/

/-- Rows of the same place give pairs in step. -/
theorem pairNodes_inStep (h : RowsInStep s mapping columns R N X) : ∀ {es as bs : List Row} (n : Nat),
    (∀ e ∈ es, e.header.columns = columns) → List.Forall₂ R as bs →
    BothGive (List.Forall₂ N) (pairNodes s n (es.zip as))
      (pairNodes { s with columnMapping := mapping } n (es.zip bs))
  | [], _, _, n, _, _ => by
    rw [List.zip_nil_left, List.zip_nil_left, pairNodes_nil, pairNodes_nil]
    exact .ok .nil
  | e :: es, _, _, n, _, .nil => by
    rw [List.zip_nil_right, pairNodes_nil, pairNodes_nil]
    exact .ok .nil
  | e :: es, _, _, n, hcolumns, .cons hab hrest => by
    obtain ⟨he, hes⟩ := List.forall_mem_cons.mp hcolumns
    rw [List.zip_cons_cons, List.zip_cons_cons, pairNodes_cons, pairNodes_cons]
    exact (h.pair he hab).bind fun _ _ htu =>
      (pairNodes_inStep h (n + 1) hes hrest).bind fun _ _ hnodes => .ok (.cons htu hnodes)

/-- What ends the steps over two sides depends on how far either side can be read. -/
theorem stepsOf_fault_congr {expected a b : Stream} (hlength : a.rows.length = b.rows.length)
    (hfault : a.fault = b.fault) : (stepsOf expected a).2 = (stepsOf expected b).2 := by
  unfold stepsOf
  dsimp only
  rw [← hfault, ← hlength]
  cases expected.fault with
  | none => cases a.fault <;> rfl
  | some f =>
    cases a.fault with
    | none => rfl
    | some g =>
      dsimp only
      split <;> rfl

/-- Surplus rows in step. -/
theorem surplusNodes_inStep (h : RowsInStep s mapping columns R N X) {as bs : List Row}
    (hrows : List.Forall₂ R as bs) : ∀ n : Nat, List.Forall₂ X (surplusNodes s n as)
      (surplusNodes { s with columnMapping := mapping } n bs) := by
  induction hrows with
  | nil =>
    intro n
    rw [surplusNodes_nil, surplusNodes_nil]
    exact .nil
  | cons hab _ ih =>
    intro n
    have hpolicy : Settings.tableExtraPolicy { s with columnMapping := mapping } =
        s.tableExtraPolicy := rfl
    rw [surplusNodes_cons, surplusNodes_cons, hpolicy]
    refine List.rel_append ?_ (ih (n + 1))
    split
    · exact .nil
    · exact .cons (h.surplus hab) .nil

/-- **All rows of a positional report in step**, given the pairs. -/
theorem positionalRows_inStep (h : RowsInStep s mapping columns R N X) {pairs pairs' : List Tree}
    (hpairs : List.Forall₂ N pairs pairs') (es : List Row) {as bs : List Row}
    (hrows : List.Forall₂ R as bs) (n : Nat) :
    List.Forall₂ (RoutedInStep N X) (positionalRows s n pairs es as)
      (positionalRows { s with columnMapping := mapping } n pairs' es bs) := by
  have hfiled : ∀ t u, N t u → RoutedInStep N X ⟨.ofPair t, t⟩ ⟨.ofPair u, u⟩ := fun t u htu => by
    have hsame : Section.ofPair t = Section.ofPair u := by
      rw [Section.ofPair, Section.ofPair, h.results.success htu]
    rw [hsame]
    exact .result (ofPair_ne (p := .extra) nofun nofun u) htu
  unfold positionalRows
  rw [← hrows.length_eq]
  refine List.rel_append ?_ (List.rel_append ?_ ?_)
  · rw [List.forall₂_map_left_iff, List.forall₂_map_right_iff]
    exact hpairs.imp hfiled
  · rw [List.forall₂_map_left_iff, List.forall₂_map_right_iff]
    exact List.forall₂_same.mpr fun t _ => .result nofun (h.same t)
  · rw [List.forall₂_map_left_iff, List.forall₂_map_right_iff]
    exact (surplusNodes_inStep h (List.forall₂_drop _ hrows) _).imp fun _ _ => .surplus

/-- Positional runs over sources in step give reports in step. -/
theorem comparePositional_inStep (h : RowsInStep s mapping columns R N X) {expected a b : Source}
    (hcolumns : ∀ e ∈ expected.rows, e.header.columns = columns) (hab : SourcesInStep R a b) :
    BothGive (ReportsInStep N X s.caps) (comparePositional s expected a).result
      (comparePositional { s with columnMapping := mapping } expected b).result := by
  obtain ⟨hrows, hfault⟩ := hab.stream
  have hstream : ∀ e ∈ expected.stream.rows, e.header.columns = columns := fun e he =>
    hcolumns e (Source.mem_of_mem_stream he)
  have hpairs := pairNodes_inStep h 1 hstream hrows
  rw [comparePositional_eq, comparePositional_eq, ← hab.closed,
    ← stepsOf_fault_congr hrows.length_eq hfault]
  split
  · exact .error _
  · rcases hpairs.inv with ⟨br, hfirst, hsecond⟩ | ⟨nodes, nodes', hfirst, hsecond, hnodes⟩
    · rw [hfirst, hsecond]
      exact .error _
    · rw [hfirst, hsecond]
      cases (stepsOf expected.stream a.stream).2 with
      | some f => exact .error _
      | none =>
        refine .ok ⟨_, _, ?_, positionalReport_findings _ _ _ _, positionalReport_findings _ _ _ _⟩
        rw [hab.rows.length_eq]
        split
        · exact .nothing
        · exact .rows (positionalRows_inStep h hnodes expected.rows hab.rows 1) _

/-! ## 5. Runs -/

/-- **Comparisons with sources in step** fail alike, or come to the same, when the key columns are
    found alike. -/
theorem compareSources_inStep (h : RowsInStep s mapping columns R N X) {expected a b : Source}
    (hcolumns : ∀ e ∈ expected.rows, e.header.columns = columns) (hab : SourcesInStep R a b)
    (hkeys : checkKeyColumns s expected.header a.header =
      checkKeyColumns { s with columnMapping := mapping } expected.header b.header) :
    BothGive (ReportsInStep N X s.caps) (compareSources s expected a).result
      (compareSources { s with columnMapping := mapping } expected b).result := by
  obtain ⟨hrows, hfault⟩ := hab.stream
  cases hkeyed : s.isKeyed with
  | false =>
    have hkeyed' : Settings.isKeyed { s with columnMapping := mapping } = false := hkeyed
    rw [compareSources_of_positional hkeyed, compareSources_of_positional hkeyed']
    exact comparePositional_inStep h hcolumns hab
  | true =>
    have hkeyed' : Settings.isKeyed { s with columnMapping := mapping } = true := hkeyed
    have hheader : (a.readHeader.mapError Fault.source >>= checkKeyColumns s expected.header) =
        (b.readHeader.mapError Fault.source >>=
          checkKeyColumns { s with columnMapping := mapping } expected.header) := by
      unfold Source.readHeader
      rw [← hab.headerFault]
      cases a.headerFault with
      | some reason => rfl
      | none => exact hkeys
    unfold compareSources
    rw [if_pos hkeyed, if_pos hkeyed']
    have hchecked : (do
        let e ← expected.readHeader.mapError Fault.source
        let a ← a.readHeader.mapError Fault.source
        checkKeyColumns s e a) = (do
        let e ← expected.readHeader.mapError Fault.source
        let b ← b.readHeader.mapError Fault.source
        checkKeyColumns { s with columnMapping := mapping } e b) := by
      unfold Source.readHeader at hheader ⊢
      cases expected.headerFault with
      | some reason => rfl
      | none => exact hheader
    rw [hchecked]
    dsimp only
    split
    · exact .error _
    · rw [compareKeyed_eq, compareKeyed_eq, ← hfault]
      cases a.stream.fault with
      | some f => exact .error _
      | none =>
        exact compareIndexed_inStep h (fun e he => hcolumns e (Source.mem_of_mem_stream he)) hrows

end Reconcile.Table
