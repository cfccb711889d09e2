import Reconcile.Proofs.Traversal
import Reconcile.Table.RowDiff

/-!
# Nodes of single rows

What the node of one row says: of a pair of rows that was compared, of an expected row without a
counterpart, and of an actual one.

* `IsScored`, `paired_mem_comparedColumns`: which columns of the expected side decide on a pair;
* `pairSucceeds`: success of a pair, said cell by cell;
* `comparePair_returns_iff`: when a pair can be compared;
* `pairLeaves`, `comparePair_error_iff`: what breaks a pair off;
* **`comparePair_success`**: a pair that can be compared succeeds when all its cells do;
* `notFoundRow_success`, `extraRow_success`: a row without a counterpart fails, but a surplus one
  only when surplus rows are failures.
-/

namespace Reconcile.Table

open Reconcile.Diff Reconcile.Expectation

variable {s : Settings} {name : String}

/-! ## 1. Columns -/

variable (s) in
/-- A column of the expected side is scored when it is ignored under neither of its names and is not
    only reported. -/
structure IsScored (column : String) : Prop where
  expected : s.ignoreColumns.contains column = false
  actual : s.ignoreColumns.contains (s.actualColumn column) = false
  compared : s.infoColumns.contains column = false

/-- The columns that are compared are those of the expected side that are ignored under neither of
    their names, each with the column of its actual name. -/
theorem paired_mem_comparedColumns {expected actual : Header} {c a : String} :
    .paired c a ∈ comparedColumns s expected actual ↔ c ∈ expected.columns ∧
      s.ignoreColumns.contains c = false ∧ s.ignoreColumns.contains (s.actualColumn c) = false ∧
      a = s.actualColumn c := by
  unfold comparedColumns
  simp only [List.mem_append, List.mem_map, List.mem_filter, Bool.and_eq_true, Bool.not_eq_true',
    ComparedColumn.paired.injEq, reduceCtorEq, and_false, exists_false, or_false]
  constructor
  · rintro ⟨d, ⟨hd, he, ha⟩, rfl, rfl⟩
    exact ⟨hd, he, ha, rfl⟩
  · rintro ⟨hc, he, ha, rfl⟩
    exact ⟨c, ⟨hc, he, ha⟩, rfl, rfl⟩

/-- A scored column is compared cell by cell. -/
theorem compareColumn_of_scored {column : String} (h : IsScored s column) (expected actual : Row) :
    compareColumn s expected actual (.paired column (s.actualColumn column)) =
      compareCell s column (expected.get column) (actual.get (s.actualColumn column)) := by
  rw [compareColumn, if_neg (by rw [h.compared]; exact Bool.false_ne_true)]

/-! ## 2. Pairs of rows -/

variable (s) in
/-- Whether all compared cells of a pair of rows pass. -/
def pairSucceeds (expected actual : Row) : Bool :=
  (comparedColumns s expected.header actual.header).all fun column =>
    (compareColumn s expected actual column).toOption.any Leaf.passes

/-- The node of a pair has its name and its leaves, and nothing else. -/
theorem comparePair_ok {expected actual : Row} {tree : Tree}
    (h : comparePair s name expected actual = .ok tree) :
    ∃ fields, (comparedColumns s expected.header actual.header).mapM
        (compareColumn s expected actual) = .ok fields ∧
      tree = { name := some name, fields } := by
  unfold comparePair at h
  cases hfields : (comparedColumns s expected.header actual.header).mapM
      (compareColumn s expected actual) with
  | error b => rw [hfields] at h; cases h
  | ok fields =>
    rw [hfields] at h
    exact ⟨fields, rfl, (Except.ok.inj h).symm⟩

variable (s) in
/-- The leaves of a pair of rows, or what breaks their comparison off. -/
def pairLeaves (pair : Row × Row) : Except Breakdown (List Leaf) :=
  (comparedColumns s pair.1.header pair.2.header).mapM (compareColumn s pair.1 pair.2)

/-- A pair breaks off where its leaves do, whatever its name is. -/
theorem comparePair_error_iff {expected actual : Row} {b : Breakdown} :
    comparePair s name expected actual = .error b ↔ pairLeaves s (expected, actual) = .error b := by
  unfold comparePair pairLeaves
  cases (comparedColumns s expected.header actual.header).mapM (compareColumn s expected actual) with
  | error b' => exact ⟨fun h => congrArg _ (Except.error.inj h), fun h => congrArg _ (Except.error.inj h)⟩
  | ok fields => exact ⟨nofun, nofun⟩

theorem comparePair_name {expected actual : Row} {tree : Tree}
    (h : comparePair s name expected actual = .ok tree) : tree.name = some name := by
  obtain ⟨fields, _, rfl⟩ := comparePair_ok h
  rfl

/-- The leaves of a pair are those of its columns. -/
theorem mem_fields_of_comparePair {expected actual : Row} {tree : Tree}
    (h : comparePair s name expected actual = .ok tree) {leaf : Leaf} :
    leaf ∈ tree.fields ↔ ∃ column ∈ comparedColumns s expected.header actual.header,
      compareColumn s expected actual column = .ok leaf := by
  obtain ⟨fields, hfields, rfl⟩ := comparePair_ok h
  exact mem_mapM_ok_iff hfields

/-- A pair of rows can be compared when all its columns can. -/
theorem comparePair_returns_iff {expected actual : Row} :
    (∃ tree, comparePair s name expected actual = .ok tree) ↔
      ∀ column ∈ comparedColumns s expected.header actual.header,
        ∃ leaf, compareColumn s expected actual column = .ok leaf := by
  rw [← mapM_returns_iff]
  constructor
  · rintro ⟨tree, htree⟩
    obtain ⟨fields, hfields, _⟩ := comparePair_ok htree
    exact ⟨fields, hfields⟩
  · rintro ⟨fields, hfields⟩
    exact ⟨{ name := some name, fields }, by rw [comparePair, hfields]; rfl⟩

theorem pairLeaves_returns_iff {expected actual : Row} :
    (∃ leaves, pairLeaves s (expected, actual) = .ok leaves) ↔
      ∃ tree, comparePair s name expected actual = .ok tree := by
  rw [comparePair_returns_iff]
  exact mapM_returns_iff

/-- **A pair succeeds cell by cell**, whatever its name is. -/
theorem comparePair_success {expected actual : Row} {tree : Tree}
    (h : comparePair s name expected actual = .ok tree) :
    tree.success = pairSucceeds s expected actual := by
  obtain ⟨fields, hfields, rfl⟩ := comparePair_ok h
  rw [Tree.success_eq, pairSucceeds, ← all_of_mapM_ok Leaf.passes hfields]
  exact Bool.and_true _

/-! ## 3. Rows without a counterpart -/

/-- An expected row that was not found fails. -/
theorem notFoundRow_success (row : Row) : (notFoundRow s name row).success = false := by
  rw [Tree.success_eq]
  rfl

/-- A surplus row fails only when surplus rows are failures: its leaves only report. -/
theorem extraRow_success (row : Row) :
    (extraRow s name row).success = (s.tableExtraPolicy != .fail) := by
  have hfields : (extraRow s name row).fields.all Leaf.passes = true := by
    rw [extraRow, List.all_map]
    exact List.all_eq_true.mpr fun _ _ => rfl
  rw [Tree.success_eq, hfields, Bool.and_true]
  exact Bool.and_true _

end Reconcile.Table
