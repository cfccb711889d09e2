import Reconcile.Proofs.Table.InStep

/-!
# Columns that are not scored

Two comparisons of the same expected table with actual tables that differ only in cells of columns
that are not scored come to the same verdict. The runs go in step: what one of them pairs, files,
marks and counts, the other does as well, and their nodes differ only in the values that leaves
without a score report.

* `RowsAgree`, `SourcesAgree`: actual rows and sources that are the same where it counts;
* `AlikeNode`: nodes that differ in the values of leaves only; `comparePair_agree`,
  `extraRow_agree`: such are the nodes of rows that agree;
* `rowsInStep_agree`: single rows are treated alike; `ReportsInStep.alike`: and so are the reports;
* `SameOutcome`, **`unscored_columns_do_not_count`**: the outcome of either run.
-/

namespace Reconcile.Table

open Reconcile.Diff Reconcile.Expectation

/-! ## 1. Rows and sources that agree -/

section Agreement

variable (s : Settings) (columns : List String)

/-- Two actual rows agree, given the columns of the expected side: they have the same header, and
    the same values in the actual columns of scored columns and of key columns. Their other cells
    may hold anything. -/
structure RowsAgree (a b : Row) : Prop where
  header : a.header = b.header
  scored : ∀ c ∈ columns, IsScored s c → a.get (s.actualColumn c) = b.get (s.actualColumn c)
  keys : ∀ c ∈ s.keyColumns, a.get (s.actualColumn c) = b.get (s.actualColumn c)

/-- Two actual sources agree: they have the same header and equally many rows, which agree one by
    one, and they can be read equally far. -/
structure SourcesAgree (a b : Source) : Prop where
  header : a.header = b.header
  rows : List.Forall₂ (RowsAgree s columns) a.rows b.rows
  closed : a.closed = b.closed
  headerFault : a.headerFault = b.headerFault
  rowFault : a.rowFault = b.rowFault

end Agreement

variable {s : Settings} {columns : List String}

theorem SourcesAgree.inStep {a b : Source} (h : SourcesAgree s columns a b) :
    SourcesInStep (RowsAgree s columns) a b := ⟨h.rows, h.closed, h.headerFault, h.rowFault⟩

/-! ## 2. Nodes -/

/-- Two nodes of rows that differ only in what their leaves say of values. -/
structure AlikeNode (t u : Tree) : Prop where
  name : t.name = u.name
  comment : t.comment = u.comment
  failed : t.failed = u.failed
  outcomes : t.fields.map Leaf.outcome = u.fields.map Leaf.outcome
  children : t.children = u.children

namespace AlikeNode

variable {t u : Tree}

theorem refl (t : Tree) : AlikeNode t t := ⟨rfl, rfl, rfl, rfl, rfl⟩

theorem success (h : AlikeNode t u) : t.success = u.success := by
  have hfields := congrArg (List.all · Outcome.passes) h.outcomes
  rw [List.all_map, List.all_map] at hfields
  have hpass : t.fields.all Leaf.passes = u.fields.all Leaf.passes := hfields
  rw [Tree.success_eq, Tree.success_eq, h.failed, hpass, h.children]

theorem hasErrors (h : AlikeNode t u) : t.hasErrors = u.hasErrors := by
  have hfields := congrArg (List.any · (· == Outcome.error)) h.outcomes
  rw [List.any_map, List.any_map] at hfields
  have herrors : t.fields.any Leaf.isError = u.fields.any Leaf.isError := hfields
  rw [Tree.hasErrors_eq, Tree.hasErrors_eq, herrors, h.children]

theorem markIf (h : AlikeNode t u) (first : Option String) :
    AlikeNode (markIf t first) (markIf u first) := by
  cases first with
  | none => exact h
  | some first =>
    have hname : (markDuplicate t first).name = (markDuplicate u first).name := by
      unfold markDuplicate
      rw [h.name]
    exact ⟨hname, h.comment, rfl, h.outcomes, h.children⟩

theorem commentKey (h : AlikeNode t u) (key : RowKey) :
    AlikeNode (commentKey t key) (commentKey u key) := by
  have hcomment : (Table.commentKey t key).comment = (Table.commentKey u key).comment := by
    unfold Table.commentKey
    rw [h.comment]
  exact ⟨h.name, hcomment, h.failed, h.outcomes, h.children⟩

end AlikeNode

/-- A column of rows that agree has the same outcome: either it is scored and the same values are
    compared, or nothing is. -/
theorem compareColumn_agree {e a b : Row} (h : RowsAgree s e.header.columns a b)
    {column : ComparedColumn} (hcolumn : column ∈ comparedColumns s e.header a.header) :
    BothGive (fun l m => l.outcome = m.outcome) (compareColumn s e a column)
      (compareColumn s e b column) := by
  cases column with
  | surplus c => exact .ok rfl
  | paired c d =>
    obtain ⟨hc, hexpected, hactual, rfl⟩ := paired_mem_comparedColumns.mp hcolumn
    cases hinfo : s.infoColumns.contains c with
    | true =>
      rw [compareColumn, compareColumn, if_pos hinfo, if_pos hinfo]
      exact .ok rfl
    | false =>
      have hscored : IsScored s c := ⟨hexpected, hactual, hinfo⟩
      rw [compareColumn_of_scored hscored, compareColumn_of_scored hscored, h.scored c hc hscored]
      exact (BothGive.refl _).imp fun _ _ => congrArg Leaf.outcome

/-- **An expected row compares alike to rows that agree.** -/
theorem comparePair_agree {name : String} {e a b : Row} (h : RowsAgree s e.header.columns a b) :
    BothGive AlikeNode (comparePair s name e a) (comparePair s name e b) := by
  have hfields : BothGive (List.Forall₂ fun l m => l.outcome = m.outcome)
      ((comparedColumns s e.header a.header).mapM (compareColumn s e a))
      ((comparedColumns s e.header a.header).mapM (compareColumn s e b)) :=
    .mapM (List.forall₂_same.mpr fun _ => compareColumn_agree h)
  unfold comparePair
  rw [← h.header]
  refine hfields.bind fun fields fields' hfields => .ok ⟨rfl, rfl, rfl, ?_, rfl⟩
  exact map_eq_of_forall₂ (fun _ _ hlm => hlm) hfields

theorem extraRow_agree {name : String} {a b : Row} (h : RowsAgree s columns a b) :
    AlikeNode (extraRow s name a) (extraRow s name b) := by
  refine ⟨rfl, rfl, rfl, ?_, rfl⟩
  unfold extraRow
  rw [List.map_map, List.map_map, h.header]
  rfl

theorem actualKey_agree {a b : Row} (h : RowsAgree s columns a b) : actualKey s a = actualKey s b :=
  congrArg RowKey.mk (List.map_congr_left fun c hc => congrArg (Prod.mk c) (h.keys c hc))

theorem alikeNode_kept : KeptNodes AlikeNode :=
  ⟨AlikeNode.success, AlikeNode.markIf, AlikeNode.commentKey⟩

/-- **Rows that agree are treated alike.** -/
theorem rowsInStep_agree : RowsInStep s s.columnMapping columns (RowsAgree s columns) AlikeNode
    AlikeNode where
  key := actualKey_agree
  pair := by
    rintro name e a b rfl hab
    exact comparePair_agree hab
  surplus := extraRow_agree
  same := .refl
  results := alikeNode_kept
  extras := alikeNode_kept

/-! ## 3. Reports -/

theorem RoutedInStep.alike {R : Tree → Tree → Prop} {r q : RoutedRow} (h : RoutedInStep R R r q) :
    AlikeRouted R r q := by
  cases h with
  | result _ h => exact ⟨rfl, h⟩
  | surplus h => exact ⟨rfl, h⟩

/-- Reports in step are alike when surplus rows are in the same relation as results. -/
theorem ReportsInStep.alike {c : Caps} {t u : Tree} (h : ReportsInStep AlikeNode AlikeNode c t u) :
    AlikeReport AlikeNode t u := by
  obtain ⟨_, _, hfound, rfl, rfl⟩ := h
  cases hfound with
  | nothing => exact ⟨rfl, rfl, rfl, .nil⟩
  | rows hrouted rowCount =>
    have hreport := report_alike (fun _ _ => AlikeNode.success) c
      (hrouted.imp fun _ _ => RoutedInStep.alike)
    cases rowCount with
    | none => exact hreport
    | some comment => exact hreport.addChild rfl

/-! ## 4. Runs -/

/-- Two reports come to the same verdict, and hold rows of the same names in the same order in each
    section. -/
structure SameOutcome (t u : Tree) : Prop where
  success : t.success = u.success
  hasErrors : t.hasErrors = u.hasErrors
  comment : t.comment = u.comment
  names : ∀ p : Section, (sectionRows t p).map Tree.name = (sectionRows u p).map Tree.name

theorem AlikeReport.sameOutcome {t u : Tree} (h : AlikeReport AlikeNode t u) : SameOutcome t u where
  success := h.success
  hasErrors := h.hasErrors fun _ _ => AlikeNode.hasErrors
  comment := h.comment
  names p := map_eq_of_forall₂ (fun _ _ hnode => hnode.name) (h.sectionRows p)

/-- Comparisons with sources that agree fail alike, or give alike reports. -/
theorem compareSources_agree {expected a b : Source}
    (hcolumns : ∀ e ∈ expected.rows, e.header.columns = columns)
    (h : SourcesAgree s columns a b) :
    BothGive (AlikeReport AlikeNode) (compareSources s expected a).result
      (compareSources s expected b).result := by
  have hcheck : checkKeyColumns s expected.header a.header =
      checkKeyColumns s expected.header b.header := by rw [h.header]
  exact (compareSources_inStep rowsInStep_agree hcolumns h.inStep hcheck).imp fun _ _ =>
    ReportsInStep.alike

/-- **Columns that are not scored do not count.** Let two actual sources, however they are opened,
    have the same header and equally many rows, and let these agree in the actual columns of all
    scored columns of the expected side and of all key columns. Then both comparisons end in the
    same error, or come to the same verdict with rows of the same names in each section, whatever
    the cells of columns hold that are ignored, only reported, or on the actual side only. -/
theorem unscored_columns_do_not_count {expected actual actual' : Supply}
    (hheader : ∀ row ∈ expected.source.rows, row.header = expected.source.header)
    (h : BothGive (SourcesAgree s expected.source.header.columns) (actual.acquire "actual")
      (actual'.acquire "actual")) :
    BothGive SameOutcome (compare s expected actual).result (compare s expected actual').result := by
  have hcolumns : ∀ row ∈ expected.source.rows,
      row.header.columns = expected.source.header.columns := fun row hrow => by
    rw [hheader row hrow]
  unfold compare runSources
  cases hexpected : expected.acquire "expected" with
  | error f => exact .error _
  | ok e =>
    obtain rfl := Supply.acquire_ok hexpected
    rcases h.inv with ⟨f, hfirst, hsecond⟩ | ⟨a, b, hfirst, hsecond, hab⟩
    · rw [hfirst, hsecond]
      exact .error _
    · rw [hfirst, hsecond]
      exact (compareSources_agree hcolumns hab).imp fun _ _ => AlikeReport.sameOutcome

/-- A surplus row, a duplicate and a numeric key column: the actual tables differ in a column that is
    only reported. -/
theorem unscored_columns_do_not_count_stock :
    let s : Settings :=
      { keyColumns := ["Item"], numericColumns := [("Item", ⟨false, 1, 0⟩)]
        infoColumns := ["Count"], checkDuplicates := true }
    let expected := stockOf [("7", "3"), ("9", "1")]
    let actual := stockOf [("8", "3"), ("7", "is null or so"), ("7", "")]
    let actual' := stockOf [("8", ""), ("7", "5"), ("7", "[2]")]
    ∃ t u, (compare s expected actual).result = .ok t ∧
      (compare s expected actual').result = .ok u ∧ t.children ≠ [] ∧ SameOutcome t u := by
  intro s expected actual actual'
  obtain ⟨t, ht, hsome⟩ := exists_of_any (r := (compare s expected actual).result)
    (p := fun t => !t.children.isEmpty) (by decide +kernel)
  have hrows : ∀ a b : Row, a.header = b.header → a.get "Item" = b.get "Item" →
      RowsAgree s ["Item", "Count"] a b := fun a b hheader hitem => {
    header := hheader
    scored := fun c hc hscored => by
      rcases List.mem_cons.mp hc with rfl | hc
      · exact hitem
      · obtain rfl := List.mem_singleton.mp hc
        exact absurd hscored.compared (by decide)
    keys := fun c hc => by
      obtain rfl := List.mem_singleton.mp hc
      exact hitem }
  have hagree : SourcesAgree s expected.source.header.columns actual.source actual'.source :=
    ⟨rfl, .cons (hrows _ _ rfl rfl) (.cons (hrows _ _ rfl rfl) (.cons (hrows _ _ rfl rfl) .nil)),
      rfl, rfl, rfl⟩
  have houtcome : BothGive SameOutcome (compare s expected actual).result
      (compare s expected actual').result :=
    unscored_columns_do_not_count (by decide) (.ok hagree)
  obtain ⟨u, hu, hsame⟩ := houtcome.of_ok ht
  exact ⟨t, u, ht, hu, by simpa using hsome, hsame⟩

end Reconcile.Table
