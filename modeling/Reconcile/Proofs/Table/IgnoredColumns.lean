import Reconcile.Proofs.Table.ReportRows

/-!
# Ignored columns

Pairs of rows leave out a column of the expected side that is ignored under either of its names. A
row without a counterpart knows one side only: it leaves out the columns that are ignored under the
name that they have there. So a column is skipped everywhere when it is ignored under both its names,
and otherwise it may still be shown by a row without a counterpart.

* `IsExcluded`: a column that is ignored under either of its names;
* `ShownColumns`: the columns that a row of a section shows, in their order;
* `pairLeaves_names`, `notFoundRow_names`, `extraRow_names`: which leaves a row has;
* `LeavesStem.shown`: so these are the columns of the rows of a report;
* **`ignored_columns_hidden`**: what every report shows of ignored columns;
* `one_sided_rows_show_ignored`: a column ignored under one of its names may be shown by the other.
-/

namespace Reconcile.Table

open Reconcile.Diff Reconcile.Expectation

/-! ## 1. Columns of a report -/

/-- The names of the leaves of a row. -/
def leafNames (row : Tree) : List String := row.fields.map Leaf.name

section Columns

variable (s : Settings) (expected actual : List Row)

/-- A column of the expected side that is left out when rows are compared: it is ignored by its own
    name, or by the name that it has on the actual side. -/
def IsExcluded (column : String) : Prop :=
  column ∈ s.ignoreColumns ∨ s.actualColumn column ∈ s.ignoreColumns

instance (column : String) : Decidable (IsExcluded s column) := inferInstanceAs (Decidable (_ ∨ _))

/-- The columns that a row of a section shows, in the order of its leaves. A compared row shows the
    columns of the expected side that are not excluded, and then those that only the actual side
    has; a row without a counterpart shows the columns of its own side. -/
def ShownColumns (names : List String) : Section → Prop
  | .passed | .failed => ∃ q ∈ comparedPairs s expected actual,
    names = (q.1.header.columns.filter fun c => ¬ IsExcluded s c) ++
      q.2.header.columns.filter fun c =>
        c ∉ q.1.header.columns.map s.actualColumn ∧ c ∉ s.ignoreColumns
  | .notFound => ∃ e ∈ expected, names = e.header.columns.filter fun c => c ∉ s.ignoreColumns
  | .extra => ∃ a ∈ actual, names = a.header.columns.filter fun c => c ∉ s.ignoreColumns

/-- What the rows of a report show of ignored columns. Each row shows the columns of its section; no
    leaf bears a name that is listed; and a column that is excluded from the comparison of pairs is
    shown nowhere, under neither of its names, when every such column is listed by both names. -/
structure HidesIgnored (t : Tree) : Prop where
  shown : ∀ p : Section, ∀ row ∈ sectionRows t p, ShownColumns s expected actual (leafNames row) p
  listed : ∀ p : Section, ∀ row ∈ sectionRows t p, ∀ c ∈ leafNames row, c ∉ s.ignoreColumns
  skipped : (∀ c, IsExcluded s c → c ∈ s.ignoreColumns ∧ s.actualColumn c ∈ s.ignoreColumns) →
    ∀ c, IsExcluded s c → ∀ p : Section, ∀ row ∈ sectionRows t p,
      c ∉ leafNames row ∧ s.actualColumn c ∉ leafNames row

end Columns

variable {s : Settings} {expected actual : List Row}

/-! ## 2. Leaves of rows -/

/-- The name that a compared column has in a report. -/
def ComparedColumn.name : ComparedColumn → String
  | .paired expected _ => expected
  | .surplus actual => actual

theorem numericLeaf?_name {precision : Decimal} {column : String} {x y : Option String} {leaf : Leaf}
    (h : numericLeaf? precision column x y = some leaf) : leaf.name = column := by
  unfold numericLeaf? at h
  split at h
  · obtain rfl := Option.some.inj h
    rfl
  · cases h

/-- A compared column gives a leaf of its name. -/
theorem compareColumn_name {e a : Row} {column : ComparedColumn} {leaf : Leaf}
    (h : compareColumn s e a column = .ok leaf) : leaf.name = column.name := by
  cases column with
  | surplus c =>
    obtain rfl := Except.ok.inj h
    rfl
  | paired c d =>
    rw [compareColumn] at h
    split at h
    · obtain rfl := Except.ok.inj h
      rfl
    · unfold compareCell at h
      dsimp only at h
      split at h
      · rename_i hnumeric
        obtain rfl := Except.ok.inj h
        obtain ⟨precision, _, hnumeric⟩ := Option.bind_eq_some_iff.mp hnumeric
        split at hnumeric
        · cases hnumeric
        · exact numericLeaf?_name hnumeric
      · exact check_name h

/-- The columns that are compared, by the names that they have in a report. -/
theorem comparedColumns_names (expected actual : Header) :
    (comparedColumns s expected actual).map ComparedColumn.name =
      (expected.columns.filter fun c => ¬ IsExcluded s c) ++
        actual.columns.filter fun c =>
          c ∉ expected.columns.map s.actualColumn ∧ c ∉ s.ignoreColumns := by
  have hpaired : ∀ cs : List String,
      (cs.map fun c => ComparedColumn.paired c (s.actualColumn c)).map ComparedColumn.name = cs :=
    fun cs => by rw [List.map_map]; exact List.map_id cs
  have hsurplus : ∀ cs : List String, (cs.map ComparedColumn.surplus).map ComparedColumn.name = cs :=
    fun cs => by rw [List.map_map]; exact List.map_id cs
  unfold comparedColumns
  rw [List.map_append, hpaired, hsurplus]
  congr 1
  · refine List.filter_congr fun c _ => ?_
    simp [IsExcluded]
  · refine List.filter_congr fun c _ => ?_
    rw [Bool.eq_iff_iff]
    simp

/-- **The leaves of a pair** are named after the columns that are compared. -/
theorem pairLeaves_names {q : Row × Row} {leaves : List Leaf} (h : pairLeaves s q = .ok leaves) :
    leaves.map Leaf.name = (comparedColumns s q.1.header q.2.header).map ComparedColumn.name := by
  have hnames := map_eq_of_forall₂ (f := ComparedColumn.name) (g := Leaf.name)
    (fun _ _ hleaf => (compareColumn_name hleaf).symm) (mapM_eq_ok_iff.mp h)
  exact hnames.symm

theorem notFoundRow_names (name : String) (e : Row) : (notFoundRow s name e).fields.map Leaf.name =
    e.header.columns.filter fun c => c ∉ s.ignoreColumns := by
  rw [notFoundRow, List.map_map]
  refine (List.map_id _).trans (List.filter_congr fun c _ => ?_)
  simp

theorem extraRow_names (name : String) (a : Row) : (extraRow s name a).fields.map Leaf.name =
    a.header.columns.filter fun c => c ∉ s.ignoreColumns := by
  rw [extraRow, List.map_map]
  refine (List.map_id _).trans (List.filter_congr fun c _ => ?_)
  simp

/-- Wherever the leaves of a row stem from, they are named after the columns of its section. -/
theorem LeavesStem.shown {leaves : List Leaf} {p : Section}
    (h : LeavesStem s expected actual leaves p) :
    ShownColumns s expected actual (leaves.map Leaf.name) p := by
  cases p with
  | passed | failed =>
    obtain ⟨q, hq, hleaves⟩ := h
    exact ⟨q, hq, (pairLeaves_names hleaves).trans (comparedColumns_names _ _)⟩
  | notFound =>
    obtain ⟨e, he, name, rfl⟩ := h
    exact ⟨e, he, notFoundRow_names name e⟩
  | extra =>
    obtain ⟨a, ha, name, rfl⟩ := h
    exact ⟨a, ha, extraRow_names name a⟩

/-- No row of any section shows a name that is listed. -/
theorem ShownColumns.listed {names : List String} {p : Section}
    (h : ShownColumns s expected actual names p) : ∀ c ∈ names, c ∉ s.ignoreColumns := by
  intro c hc
  cases p with
  | passed | failed =>
    obtain ⟨q, _, rfl⟩ := h
    rcases List.mem_append.mp hc with hc | hc
    · have hkept := of_decide_eq_true (List.mem_filter.mp hc).2
      exact fun hlisted => hkept (.inl hlisted)
    · exact (of_decide_eq_true (List.mem_filter.mp hc).2).2
  | notFound =>
    obtain ⟨e, _, rfl⟩ := h
    exact of_decide_eq_true (List.mem_filter.mp hc).2
  | extra =>
    obtain ⟨a, _, rfl⟩ := h
    exact of_decide_eq_true (List.mem_filter.mp hc).2

/-! ## 3. Reports -/

/-- **What a report shows of ignored columns.** Whatever the settings, their caps and the two sources
    are: the rows of every report that a run gives show exactly the columns of their sections, in
    the order of these; no leaf bears a listed name; and the columns that are excluded from the
    comparison of pairs are shown by no row when they are listed by both their names. -/
theorem ignored_columns_hidden {expected actual : Supply} {t : Tree}
    (h : (compare s expected actual).result = .ok t) :
    HidesIgnored s expected.source.rows actual.source.rows t := by
  obtain ⟨found, rfl, hreports⟩ := compare_stems h
  have hshown : ∀ p : Section, ∀ row ∈ sectionRows (found.tree s.caps) p,
      ShownColumns s expected.source.rows actual.source.rows (leafNames row) p := by
    intro p row hrow
    rw [found.sectionRows] at hrow
    have hrouted := mem_rowsOf.mp ((stored_isPrefix _ _).subset hrow)
    exact (hreports.rows _ hrouted).leaves.shown
  refine ⟨hshown, fun p row hrow => (hshown p row hrow).listed, ?_⟩
  intro hboth c hexcluded p row hrow
  obtain ⟨hexpected, hactual⟩ := hboth c hexcluded
  exact ⟨fun hc => (hshown p row hrow).listed c hc hexpected,
    fun hc => (hshown p row hrow).listed _ hc hactual⟩

/-- A column that is ignored under its actual name, with a pair of rows that leaves it out, an expected
    row that is not found and shows it, and a surplus row that does not. -/
theorem ignored_columns_hidden_stock :
    let s : Settings :=
      { keyColumns := ["Item"], columnMapping := [("Count", "Number")], ignoreColumns := ["Number"] }
    let expected := stockOf [("pen", "3"), ("ink", "1")]
    let header : Header := ⟨["Number", "Item"], by decide⟩
    let actual : Supply := .held
      { header, rows := [("4", "pen"), ("9", "cap")].map fun r => ⟨header, [some r.1, some r.2], Nat.le_refl 2⟩ }
    ∃ t, (compare s expected actual).result = .ok t ∧ t.children ≠ [] ∧
      HidesIgnored s expected.source.rows actual.source.rows t := by
  intro s expected header actual
  obtain ⟨t, ht, hsome⟩ := exists_of_any (r := (compare s expected actual).result)
    (p := fun t => !t.children.isEmpty) (by decide +kernel)
  exact ⟨t, ht, by simpa using hsome, ignored_columns_hidden ht⟩

/-- **Rows without a counterpart may show an ignored column.** A column is excluded from the comparison
    of pairs by its actual name, and an expected row that is not found shows it under its own name;
    or it is excluded by its own name, and a surplus row shows it under its actual one. -/
theorem one_sided_rows_show_ignored :
    let s (ignored : String) : Settings :=
      { keyColumns := ["Item"], columnMapping := [("Count", "Number")], ignoreColumns := [ignored] }
    let header : Header := ⟨["Item", "Number"], by decide⟩
    let numbers (rows : List (String × String)) : Supply := .held
      { header, rows := rows.map fun r => ⟨header, [some r.1, some r.2], Nat.le_refl 2⟩ }
    (IsExcluded (s "Number") "Count" ∧ ∃ t,
      (compare (s "Number") (stockOf [("pen", "3")]) (numbers [])).result = .ok t ∧
      (sectionRows t .notFound).map leafNames = [["Item", "Count"]]) ∧
    (IsExcluded (s "Count") "Count" ∧ (s "Count").actualColumn "Count" = "Number" ∧ ∃ t,
      (compare (s "Count") (stockOf []) (numbers [("pen", "3")])).result = .ok t ∧
      (sectionRows t .extra).map leafNames = [["Item", "Number"]]) := by
  intro s header numbers
  refine ⟨⟨by decide, ?_⟩, by decide, by decide, ?_⟩
  · obtain ⟨t, ht, hnames⟩ := exists_of_any
      (r := (compare (s "Number") (stockOf [("pen", "3")]) (numbers [])).result)
      (p := fun t => (sectionRows t .notFound).map leafNames == [["Item", "Count"]])
      (by decide +kernel)
    exact ⟨t, ht, eq_of_beq hnames⟩
  · obtain ⟨t, ht, hnames⟩ := exists_of_any
      (r := (compare (s "Count") (stockOf []) (numbers [("pen", "3")])).result)
      (p := fun t => (sectionRows t .extra).map leafNames == [["Item", "Number"]])
      (by decide +kernel)
    exact ⟨t, ht, eq_of_beq hnames⟩

end Reconcile.Table
