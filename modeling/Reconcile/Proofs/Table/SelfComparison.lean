import Reconcile.Proofs.Table.CellEquality
import Reconcile.Proofs.Table.KeyedAccount
import Reconcile.Proofs.Table.PositionalAccount
import Reconcile.Proofs.Table.Returns

/-!
# A table matches itself

A table without expressions that is compared to itself succeeds, by place and by key, and all its
rows pass. Keys may come more than once, or be equal up to a precision only: when the turn of a row
comes, all rows before it have been taken, so that it takes itself.

* `SelfComparable`: what is asked of the table and of the settings;
* `compareColumn_self`, `pairSucceeds_self`: every column of a row matches itself, and so does a row;
* `pairing_self`, `comparedPairs_self`: every row is paired with itself;
* `SelfNodes`, `AllPassed`: a report whose rows all passed; `allPassed_report`;
* **`table_matches_itself`**: the report of a table that is compared to itself.
-/

namespace Reconcile.Table

open Reconcile.Diff Reconcile.Expectation

variable (s : Settings) (rows : List Row)

/-! ## 1. What is asked -/

/-- A table that can be compared to itself: columns have the same name on both sides, no precision
    is negative, cells are absent or literals, and no two keys are equal where duplicates are looked
    for. -/
structure SelfComparable : Prop where
  mapping : s.columnMapping = []
  precisions : ∀ c p, s.precision? c = some p → 0 ≤ p.toRat
  literals : ∀ row ∈ rows, ∀ c ∈ row.header.columns, isExpression (row.get c) = false
  distinct : s.checkDuplicates = true → DistinctKeys s (rows.map (expectedKey s))

variable {s rows}

theorem SelfComparable.actualColumn (h : SelfComparable s rows) (c : String) :
    s.actualColumn c = c := by
  rw [Settings.actualColumn, h.mapping]
  rfl

theorem SelfComparable.actualKey (h : SelfComparable s rows) (row : Row) :
    actualKey s row = expectedKey s row := by
  rw [Table.actualKey, h.mapping]
  rfl

/-! ## 2. Rows -/

/-- A table has no columns that it lacks itself. -/
theorem comparedColumns_self (h : SelfComparable s rows) (header : Header)
    {column : ComparedColumn} (hcolumn : column ∈ comparedColumns s header header) :
    ∃ c ∈ header.columns, column = .paired c c := by
  have hname : s.actualColumn = id := funext h.actualColumn
  rw [comparedColumns, hname, List.map_id] at hcolumn
  rcases List.mem_append.mp hcolumn with hpaired | hsurplus
  · obtain ⟨c, hc, rfl⟩ := List.mem_map.mp hpaired
    exact ⟨c, (List.mem_filter.mp hc).1, rfl⟩
  · obtain ⟨c, hc, rfl⟩ := List.mem_map.mp hsurplus
    obtain ⟨hmem, hnot⟩ := List.mem_filter.mp hc
    rw [List.contains_iff_mem.mpr hmem] at hnot
    cases hnot

/-- Every compared column of a row matches itself. -/
theorem compareColumn_self (h : SelfComparable s rows) {row : Row} (hrow : row ∈ rows)
    {column : ComparedColumn} (hcolumn : column ∈ comparedColumns s row.header row.header) :
    ∃ leaf, compareColumn s row row column = .ok leaf ∧ leaf.passes = true := by
  obtain ⟨c, hc, rfl⟩ := comparedColumns_self h row.header hcolumn
  rw [compareColumn]
  cases s.infoColumns.contains c with
  | true => exact ⟨_, rfl, rfl⟩
  | false => exact ⟨_, compareCell_self (h.precisions c) (h.literals row hrow c hc), rfl⟩

/-- **A row matches itself.** -/
theorem pairSucceeds_self (h : SelfComparable s rows) {row : Row} (hrow : row ∈ rows) :
    pairSucceeds s row row = true := by
  refine List.all_eq_true.mpr fun column hcolumn => ?_
  obtain ⟨leaf, hleaf, hpasses⟩ := compareColumn_self h hrow hcolumn
  rw [hleaf]
  exact hpasses

/-- A row stands beside itself. -/
theorem pairStands_self (h : SelfComparable s rows) {row : Row} (hrow : row ∈ rows) :
    PairStands s row row :=
  fun c hc _ _ _ => breaksOff_of_literal (h.literals row hrow c hc) _

/-! ## 3. Pairs -/

/-- **Every row is paired with itself**, and nothing is left over. -/
theorem pairing_self (h : SelfComparable s rows) : pairing s rows rows = (rows.map some, []) :=
  firstMatches_self (fun row => by
    rw [rowsMatch, h.actualKey]
    exact sameKey_self h.precisions (expectedKey s row)) rows

theorem leftOver_self (h : SelfComparable s rows) : leftOver s rows rows = [] :=
  (nothing_left_iff s rows rows).mp (by rw [pairing_self h])

/-- Every passage takes the candidate for its own row. -/
theorem taken_self (h : SelfComparable s rows) {p : Passage} (hp : p ∈ passages s rows rows) :
    ∃ c ∈ candidates s rows, p.taken = some c ∧ c.row = p.row := by
  -- the pairing tells rows, not candidates: it gives every row itself
  have htaken : (passages s rows rows).map (fun p => p.taken.map Candidate.row) =
      (passages s rows rows).map fun p => some p.row := by
    have hpairing := congrArg Prod.fst (pairing_self h)
    rw [pairing_eq] at hpairing
    refine hpairing.trans ?_
    conv_lhs => rw [← passages_row s rows rows, List.map_map]
    rfl
  obtain ⟨c, hc, hrow⟩ := Option.map_eq_some_iff.mp (List.map_inj_left.mp htaken p hp)
  exact ⟨c, (mem_candidates_iff s rows rows).mpr (.inl ⟨p, hp, hc⟩), hc, hrow⟩

/-- A run compares every row to itself only. -/
theorem comparedPairs_self (h : SelfComparable s rows) {q : Row × Row}
    (hq : q ∈ comparedPairs s rows rows) : q.1 ∈ rows ∧ q.2 = q.1 := by
  refine ⟨(mem_of_comparedPairs hq).1, ?_⟩
  unfold comparedPairs at hq
  split at hq
  · obtain ⟨p, hp, hmap⟩ := List.mem_filterMap.mp hq
    obtain ⟨c, _, htaken, hrow⟩ := taken_self h hp
    rw [htaken, Option.map_some] at hmap
    obtain rfl := Option.some.inj hmap
    exact hrow
  · obtain ⟨i, hi, rfl⟩ := List.mem_iff_getElem.mp hq
    rw [List.getElem_zip]

/-! ## 4. Reports -/

variable (s) in
/-- The node of the row at a place that passed the comparison to itself. -/
structure SelfNode (i : Nat) (row : Row) (node : Tree) : Prop where
  name : node.name = some s!"Row #{i + 1}"
  success : node.success = true
  fields : ∃ tree, comparePair s s!"Row #{i + 1}" row row = .ok tree ∧ node.fields = tree.fields

variable (s rows) in
/-- A node for every row, in their order. -/
structure SelfNodes (nodes : List Tree) : Prop where
  length : nodes.length = rows.length
  node : ∀ (i : Nat) (row : Row) (node : Tree), rows[i]? = some row → nodes[i]? = some node →
    SelfNode s i row node

theorem SelfNodes.success {nodes : List Tree} (h : SelfNodes s rows nodes) :
    ∀ node ∈ nodes, node.success = true := fun node hnode => by
  obtain ⟨i, hi, rfl⟩ := List.mem_iff_getElem.mp hnode
  have hrow := List.getElem?_eq_getElem (h.length ▸ hi : i < rows.length)
  exact (h.node i _ _ hrow (List.getElem?_eq_getElem hi)).success

variable (s rows) in
/-- The report of a comparison in which every row passed: it counts all rows as passed, there is a
    node for each of them among the passed rows, as far as the cap admits, and the other sections
    are empty. -/
structure AllPassed (nodes : List Tree) (t : Tree) : Prop where
  comment : t.comment =
    some s!"Processed {rows.length} rows: {rows.length} passed / 0 failed"
  sections : t.children =
    [sectionTree "Passed rows" s.caps.passed nodes, sectionTree "Failed rows" s.caps.failed [],
      sectionTree "Not found rows" s.caps.notFound [], sectionTree "Extra rows" s.caps.extra []]
  nodes : SelfNodes s rows nodes

/-- The report of nodes that all passed. -/
theorem allPassed_report {nodes : List Tree} (h : SelfNodes s rows nodes) :
    (report s.caps (nodes.map fun node => ⟨.passed, node⟩)).success = true ∧
      AllPassed s rows nodes (report s.caps (nodes.map fun node => ⟨.passed, node⟩)) := by
  refine ⟨?_, ?_, ?_, h⟩
  · rw [report_success, List.all_map]
    exact List.all_eq_true.mpr h.success
  · have hpassed : passedCount (nodes.map fun node => ⟨.passed, node⟩) = nodes.length := by
      rw [passedCount, List.countP_map]
      exact List.countP_eq_length.mpr h.success
    have hzero : " passed / " ++ (toString 0 ++ " failed") = " passed / 0 failed" := by decide
    rw [report, hpassed, List.length_map, Nat.sub_self, h.length]
    show some (_ ++ " passed / " ++ toString 0 ++ " failed") = some (_ ++ " passed / 0 failed")
    rw [String.append_assoc, String.append_assoc, hzero]
  · rw [report_children]
    simp only [Section.all, List.map_cons, List.map_nil, rowsOf_map_self]
    rw [rowsOf_map_of_ne (p := .failed) (q := .passed) (by decide),
      rowsOf_map_of_ne (p := .notFound) (q := .passed) (by decide),
      rowsOf_map_of_ne (p := .extra) (q := .passed) (by decide)]
    rfl

/-- The nodes of a table whose rows are paired with themselves by place. -/
theorem pairNodes_self (h : SelfComparable s rows) {nodes : List Tree}
    (hpairs : pairNodes s 1 (rows.zip rows) = .ok nodes) : SelfNodes s rows nodes := by
  refine ⟨by rw [pairNodes_length hpairs, Nat.min_self], fun i row node hrow hnode => ?_⟩
  have hpair := pairNodes_at hpairs hrow hrow hnode
  refine ⟨comparePair_name hpair, ?_, node, hpair, rfl⟩
  rw [comparePair_success hpair, pairSucceeds_self h (List.mem_of_getElem? hrow)]

/-- A positional report of a table and itself holds a node for every row, and nothing else. -/
theorem positionalReport_self (hne : rows ≠ []) {nodes : List Tree}
    (h : SelfNodes s rows nodes) :
    positionalReport s rows.length rows.length (positionalRows s 1 nodes rows rows) =
      report s.caps (nodes.map fun node => ⟨.passed, node⟩) := by
  have hlength : ¬ (rows.length = 0 ∧ rows.length = 0) := fun hzero =>
    hne (List.length_eq_zero_iff.mp hzero.1)
  rw [positionalReport, if_neg hlength, if_pos rfl, positionalRows_of_length_eq rfl]
  refine congrArg _ (List.map_congr_left fun node hnode => ?_)
  rw [(ofPair_eq_passed node).mpr (h.success node hnode)]

/-- A row that was routed from a passage of a table to itself. -/
theorem routed_self (h : SelfComparable s rows) {i : Nat} {p : Passage} {r : RoutedRow}
    (hp : (passages s rows rows)[i]? = some p) (hr : p.route s = .ok r) :
    r.place = .passed ∧ SelfNode s i p.row r.row := by
  have hmem := List.mem_of_getElem? hp
  obtain ⟨hnumber, hrow⟩ := passage_at s hp
  obtain ⟨c, hc, htaken, hcrow⟩ := taken_self h hmem
  have hrepeats : p.repeats = none := (no_passage_repeats s rows rows).mpr h.distinct p hmem
  have hduplicate : c.duplicateOf = none := by
    refine (no_candidate_repeats s rows).mpr (fun hcheck => ?_) c hc
    rw [funext h.actualKey]
    exact h.distinct hcheck
  have hsuccess : r.row.success = true := by
    refine (p.route_success hr).mpr ⟨c, htaken, ?_, hduplicate, hrepeats⟩
    rw [hcrow, pairSucceeds_self h (List.mem_of_getElem? hrow)]
  refine ⟨(p.route_filed hr).passed.mpr hsuccess, ?_, hsuccess, ?_⟩
  · rw [p.route_name hr, htaken, Option.bind_some, hduplicate, hrepeats, hnumber, markText_none,
      String.append_empty, String.append_empty]
  · obtain ⟨tree, htree, hfields⟩ := p.route_fields hr htaken
    rw [hnumber, hcrow] at htree
    exact ⟨tree, htree, hfields⟩

/-- The rows that were routed from a table to itself are nodes of passed rows, one for each row. -/
theorem routedNodes_self (h : SelfComparable s rows) {routed : List RoutedRow}
    (hroute : List.Forall₂ (fun p r => p.route s = .ok r) (passages s rows rows) routed) :
    routed = (routed.map RoutedRow.row).map (fun node => ⟨.passed, node⟩) ∧
      SelfNodes s rows (routed.map RoutedRow.row) := by
  have hself : ∀ {i : Nat} {r : RoutedRow}, routed[i]? = some r →
      r.place = .passed ∧ ∀ row, rows[i]? = some row → SelfNode s i row r.row := fun hr => by
    obtain ⟨p, hp, hpr⟩ := routed_at hroute hr
    obtain ⟨hplace, hnode⟩ := routed_self h hp hpr
    refine ⟨hplace, fun row hrow => ?_⟩
    obtain rfl := Option.some.inj ((passage_at s hp).2.symm.trans hrow)
    exact hnode
  constructor
  · rw [List.map_map]
    conv_lhs => rw [← List.map_id routed]
    refine List.map_congr_left fun r hr => ?_
    obtain ⟨i, hi⟩ := List.mem_iff_getElem?.mp hr
    exact congrArg (RoutedRow.mk · r.row) (hself hi).1
  · refine ⟨by rw [List.length_map, routed_length hroute], fun i row node hrow hnode => ?_⟩
    rw [List.getElem?_map] at hnode
    obtain ⟨r, hr, rfl⟩ := Option.map_eq_some_iff.mp hnode
    exact (hself hr).2 row hrow

/-! ## 5. Runs -/

variable {expected actual : Supply} {t : Tree}

/-- The report of a positional run over a table and itself. -/
theorem positional_self (hkeyed : s.isKeyed = false)
    (hrows : actual.source.rows = expected.source.rows)
    (h : SelfComparable s expected.source.rows) (hne : expected.source.rows ≠ [])
    (ht : (compare s expected actual).result = .ok t) :
    t.success = true ∧ ∃ nodes, AllPassed s expected.source.rows nodes t := by
  obtain ⟨nodes, hpairs, rfl⟩ := compare_positional_ok hkeyed ht
  rw [hrows] at hpairs ⊢
  have hnodes := pairNodes_self h hpairs
  rw [positionalReport_self hne hnodes]
  obtain ⟨hreport, hpassed⟩ := allPassed_report hnodes
  exact ⟨hreport, nodes, hpassed⟩

/-- The report of a keyed run over a table and itself. -/
theorem keyed_self (hkeyed : s.isKeyed = true)
    (hrows : actual.source.rows = expected.source.rows)
    (h : SelfComparable s expected.source.rows) (hne : expected.source.rows ≠ [])
    (ht : (compare s expected actual).result = .ok t) :
    t.success = true ∧ ∃ nodes, AllPassed s expected.source.rows nodes t := by
  obtain ⟨routed, hroute, rfl⟩ := compare_keyed_ok hkeyed ht
  rw [hrows] at hroute ⊢
  obtain ⟨hrouted, hnodes⟩ := routedNodes_self h hroute
  have hsome : ¬ (expected.source.rows.length = 0 ∧ ([] : List Candidate).length = 0) :=
    fun hzero => hne (List.length_eq_zero_iff.mp hzero.1)
  rw [leftOver_self h, keyedReport, if_neg hsome, routeLeftovers, List.filterMap_nil,
    List.append_nil, hrouted]
  obtain ⟨hreport, hpassed⟩ := allPassed_report hnodes
  exact ⟨hreport, _, hpassed⟩

/-- The report of a table without rows and itself. -/
theorem empty_self (he : expected.source.rows = []) (ha : actual.source.rows = [])
    (ht : (compare s expected actual).result = .ok t) : t = emptyReport := by
  cases hkeyed : s.isKeyed with
  | false =>
    obtain ⟨nodes, _, rfl⟩ := compare_positional_ok hkeyed ht
    rw [he, ha]
    rfl
  | true =>
    obtain ⟨routed, _, rfl⟩ := compare_keyed_ok hkeyed ht
    rw [he, ha]
    rfl

/-- **A table matches itself**, by place and by key, whatever the caps, the policy for surplus rows,
    and the columns that are ignored or only reported: the comparison returns and succeeds, and if
    there are rows, all of them passed. -/
theorem table_matches_itself (he : expected.IsReadable) (ha : actual.IsReadable)
    (hheader : actual.source.header = expected.source.header)
    (hrows : actual.source.rows = expected.source.rows)
    (hkeys : ∀ c ∈ s.keyColumns, expected.source.header.has c = true)
    (h : SelfComparable s expected.source.rows) :
    ∃ t, (compare s expected actual).result = .ok t ∧ t.success = true ∧
      (expected.source.rows = [] → t = emptyReport) ∧
      (expected.source.rows ≠ [] → ∃ nodes, AllPassed s expected.source.rows nodes t) := by
  have hcolumns : HasKeyColumns s expected.source.header actual.source.header := fun c hc => by
    rw [h.actualColumn, hheader]
    exact ⟨hkeys c hc, hkeys c hc⟩
  obtain ⟨t, ht⟩ := (compare_returns_iff he ha hcolumns).mpr fun q hq => by
    rw [hrows] at hq
    obtain ⟨hmem, hsame⟩ := comparedPairs_self h hq
    rw [hsame]
    exact pairStands_self h hmem
  refine ⟨t, ht, ?_⟩
  by_cases hne : expected.source.rows = []
  · have hempty := empty_self hne (hrows.trans hne) ht
    exact ⟨by rw [hempty]; rfl, fun _ => hempty, fun hsome => absurd hne hsome⟩
  · have hself : t.success = true ∧ ∃ nodes, AllPassed s expected.source.rows nodes t := by
      cases hkeyed : s.isKeyed with
      | false => exact positional_self hkeyed hrows h hne ht
      | true => exact keyed_self hkeyed hrows h hne ht
    exact ⟨hself.1, fun hnone => absurd hnone hne, fun _ => hself.2⟩

/-- Keys that come twice, and keys that are equal up to a tolerance only; the report may hold three
    of the four rows. -/
theorem table_matches_itself_stock :
    let tolerance : Decimal := ⟨false, 1, 0⟩
    let s : Settings :=
      { keyColumns := ["Item"], numericColumns := [("Item", tolerance)], caps := { passed := 3 } }
    let table := stockOf [("7", "3"), ("8", "1"), ("7", "3"), ("9", "none")]
    ∃ t, (compare s table table).result = .ok t ∧ t.success = true ∧
      ∃ nodes, AllPassed s table.source.rows nodes t := by
  intro tolerance s table
  have hself : SelfComparable s table.source.rows := {
    mapping := rfl
    precisions := fun c p hp => by
      have hmem : (c, p) ∈ s.numericColumns := Entries.mem_of_lookup hp
      obtain ⟨_, rfl⟩ := Prod.mk.inj (List.mem_singleton.mp hmem)
      exact not_lt.mp fun hneg =>
        Bool.false_ne_true ((Decimal.toRat_neg_iff (d := tolerance) rfl).mp hneg)
    literals := by decide +kernel
    distinct := nofun }
  have hreadable : table.IsReadable := Source.IsReadable.held ⟨rfl, rfl, rfl⟩
  obtain ⟨t, ht, hsuccess, _, hpassed⟩ := table_matches_itself hreadable hreadable rfl rfl
    (fun c hc => by
      obtain rfl := List.mem_singleton.mp hc
      decide) hself
  exact ⟨t, ht, hsuccess, hpassed nofun⟩

end Reconcile.Table
