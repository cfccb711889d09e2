import Reconcile.Proofs.Table.CellEquality
import Reconcile.Proofs.Table.SuccessfulRun

/-!
# Looser numeric columns

A comparison that succeeds still succeeds when numeric columns get larger precisions, or when, where
case counts, further columns are compared as numbers. Columns of the key are left as they are, so
the same rows are paired; and a pair of cells that passes keeps its leaf.

* `Loosens`: numeric columns that are looser than those of some settings;
* `numericLeaf?_loosened`, **`compareCell_loosened`**: cells that pass keep their leaves;
* `pairSucceeds_loosened`: pairs of rows that succeed still do;
* `sameKey_congr`, `rowsMatch_loosened`: keys are equal as before;
* `tablesAgree_loosened`, `placesAgree_loosened`: so tables that agree still do;
* **`loosening_keeps_success`**: runs that succeed.
-/

namespace Reconcile.Table

open Reconcile.Diff Reconcile.Expectation

/-- Numeric columns are looser than those of the settings: columns of the key have the precisions
    that they had, a numeric column stays one and may have a larger precision, and other columns may
    become numeric where case counts, with a precision that is not negative. -/
structure Loosens (s : Settings) (numeric : List (String × Decimal)) : Prop where
  keys : ∀ c ∈ s.keyColumns, numeric.lookup c = s.precision? c
  raised : ∀ (c : String) (p : Decimal), s.precision? c = some p →
    ∃ q, numeric.lookup c = some q ∧ p.toRat ≤ q.toRat
  added : ∀ (c : String) (q : Decimal), s.precision? c = none → numeric.lookup c = some q →
    s.caseSensitive = true ∧ 0 ≤ q.toRat

variable {s : Settings} {numeric : List (String × Decimal)}

/-! ## 1. Cells -/

/-- Cells are numbers whatever the precision is. -/
theorem numericLeaf?_eq_none_iff {p q : Decimal} {column : String}
    {expected actual : Option String} : numericLeaf? p column expected actual = none ↔
      numericLeaf? q column expected actual = none := by
  unfold numericLeaf?
  split
  · exact iff_of_false nofun nofun
  · exact Iff.rfl

/-- Numbers that agree do so up to a larger precision. -/
theorem numericLeaf?_loosened {p q : Decimal} (hpq : p.toRat ≤ q.toRat) {column : String}
    {expected actual : Option String} {leaf : Leaf}
    (h : numericLeaf? p column expected actual = some leaf) (hpass : leaf.passes = true) :
    numericLeaf? q column expected actual = some leaf := by
  unfold numericLeaf? at h ⊢
  split at h
  case h_2 => cases h
  case h_1 e a _ _ =>
    obtain rfl := Option.some.inj h
    cases hwithin : Decimal.within e a p with
    | false =>
      rw [hwithin] at hpass
      cases hpass
    | true =>
      have hlooser : Decimal.within e a q = true :=
        Decimal.within_iff.mpr ((Decimal.within_iff.mp hwithin).trans hpq)
      rw [hlooser]

/-- An expression is evaluated in numeric columns, too. -/
theorem compareCell_expression {column : String} {expected : Option String}
    (hexpected : isExpression expected = true) (actual : Option String) :
    compareCell s column expected actual =
      check column expected actual none s.caseSensitive := by
  rw [compareCell, hexpected]
  cases s.precision? column <;> rfl

/-- Where case counts, a literal that passes its check is the actual value. -/
theorem eq_of_check_passes {column : String} {expected actual : Option String} {leaf : Leaf}
    (hexpected : isExpression expected = false)
    (h : check column expected actual none true = .ok leaf) (hpass : leaf.passes = true) :
    actual = expected := by
  rw [check, accepts_of_literal hexpected, literalMatches_eq] at h
  obtain rfl := Except.ok.inj h
  cases heq : actual == expected with
  | true => exact eq_of_beq heq
  | false =>
    rw [heq] at hpass
    cases hpass

/-- **A pair of cells that passes keeps its leaf.** Numbers that agreed still agree, and cells that
    were equal as texts are equal as numbers, if they are numbers. -/
theorem compareCell_loosened (h : Loosens s numeric) {column : String}
    {expected actual : Option String} {leaf : Leaf}
    (hcell : compareCell s column expected actual = .ok leaf) (hpass : leaf.passes = true) :
    compareCell { s with numericColumns := numeric } column expected actual = .ok leaf := by
  cases hexpected : isExpression expected with
  | true =>
    rw [compareCell_expression hexpected] at hcell ⊢
    exact hcell
  | false =>
    cases hprecision : s.precision? column with
    | some p =>
      obtain ⟨q, hq, hpq⟩ := h.raised column p hprecision
      rw [compareCell_numeric hprecision hexpected] at hcell
      rw [compareCell_numeric (s := { s with numericColumns := numeric }) hq hexpected]
      cases hleaf : numericLeaf? p column expected actual with
      | none =>
        rw [hleaf] at hcell
        rw [numericLeaf?_eq_none_iff.mp hleaf]
        exact hcell
      | some leaf' =>
        rw [hleaf] at hcell
        obtain rfl := Except.ok.inj hcell
        rw [numericLeaf?_loosened hpq hleaf hpass]
        rfl
    | none =>
      rw [compareCell_plain hprecision] at hcell
      cases hlooser : numeric.lookup column with
      | none =>
        rw [compareCell_plain (s := { s with numericColumns := numeric }) hlooser]
        exact hcell
      | some q =>
        obtain ⟨hcase, hq⟩ := h.added column q hprecision hlooser
        rw [hcase] at hcell
        obtain rfl := eq_of_check_passes hexpected hcell hpass
        rw [check_self hexpected] at hcell
        rw [compareCell_self (s := { s with numericColumns := numeric }) _ hexpected]
        · exact hcell
        · intro p hp
          obtain rfl := Option.some.inj (hlooser.symm.trans hp)
          exact hq

/-! ## 2. Pairs of rows -/

/-- Columns that pass keep their leaves. -/
theorem compareColumn_loosened (h : Loosens s numeric) {expected actual : Row}
    {column : ComparedColumn} {leaf : Leaf}
    (hcolumn : compareColumn s expected actual column = .ok leaf) (hpass : leaf.passes = true) :
    compareColumn { s with numericColumns := numeric } expected actual column = .ok leaf := by
  cases column with
  | surplus c => exact hcolumn
  | paired c a =>
    rw [compareColumn] at hcolumn ⊢
    cases hinfo : s.infoColumns.contains c with
    | true =>
      rw [hinfo] at hcolumn
      exact hcolumn
    | false =>
      rw [hinfo] at hcolumn
      exact compareCell_loosened h hcolumn hpass

/-- **A pair of rows that succeeds** still does. -/
theorem pairSucceeds_loosened (h : Loosens s numeric) {expected actual : Row}
    (hpair : pairSucceeds s expected actual = true) :
    pairSucceeds { s with numericColumns := numeric } expected actual = true := by
  refine List.all_eq_true.mpr fun column hcolumn => ?_
  obtain ⟨leaf, hleaf, hpass⟩ := exists_of_any (List.all_eq_true.mp hpair column hcolumn)
  rw [compareColumn_loosened h hleaf hpass]
  exact hpass

/-! ## 3. Keys -/

/-- Equality of keys depends on the precisions of their columns only. -/
theorem sameKey_congr {numeric numeric' : List (String × Decimal)} {k l : RowKey}
    (h : ∀ c ∈ k.columns, numeric.lookup c = numeric'.lookup c) :
    sameKey numeric k l = sameKey numeric' k l := by
  obtain ⟨ps⟩ := k
  obtain ⟨qs⟩ := l
  unfold sameKey
  replace h : ∀ c ∈ ps.map Prod.fst, numeric.lookup c = numeric'.lookup c := h
  dsimp only
  induction ps generalizing qs with
  | nil => cases qs <;> rfl
  | cons p ps ih =>
    obtain ⟨hp, hps⟩ := List.forall_mem_cons.mp h
    cases qs with
    | nil => rfl
    | cons q qs => rw [List.isEqv_cons_cons, List.isEqv_cons_cons, hp, ih qs hps]

/-- Keys of rows are equal as before. -/
theorem sameKey_loosened (h : Loosens s numeric) {k : RowKey} (hk : IsRowKey s k) (l : RowKey) :
    sameKey numeric k l = sameKey s.numericColumns k l :=
  sameKey_congr fun c hc => h.keys c (hk.1 ▸ hc)

theorem rowsMatch_loosened (h : Loosens s numeric) :
    rowsMatch { s with numericColumns := numeric } = rowsMatch s :=
  funext₂ fun expected actual =>
    sameKey_loosened h (expectedKey_isRowKey s expected) (actualKey s actual)

/-- Keys of rows are distinct as before. -/
theorem distinctKeys_loosened (h : Loosens s numeric) {keys : List RowKey}
    (hkeys : ∀ k ∈ keys, IsRowKey s k) (hdistinct : DistinctKeys s keys) :
    DistinctKeys { s with numericColumns := numeric } keys :=
  List.Pairwise.imp_of_mem (fun hk _ hne => (sameKey_loosened h (hkeys _ hk) _).trans hne) hdistinct

/-! ## 4. Tables -/

/-- Tables that agree by key still do. -/
theorem tablesAgree_loosened (h : Loosens s numeric) {expected actual : List Row}
    (hagree : TablesAgree s expected actual) :
    TablesAgree { s with numericColumns := numeric } expected actual := by
  have hpairing : pairing { s with numericColumns := numeric } expected actual =
      pairing s expected actual := by rw [pairing, rowsMatch_loosened h, pairing]
  refine ⟨?_, fun i e a he ha => ?_, fun hpolicy => ?_, fun hcheck => ?_⟩
  · rw [hpairing]
    exact hagree.paired
  · rw [hpairing] at ha
    exact pairSucceeds_loosened h (hagree.rows i e a he ha)
  · rw [hpairing]
    exact hagree.surplus hpolicy
  · obtain ⟨hexpected, hactual⟩ := hagree.distinct hcheck
    exact ⟨distinctKeys_loosened h (List.forall_mem_map.mpr fun row _ => expectedKey_isRowKey s row)
        hexpected,
      distinctKeys_loosened h (List.forall_mem_map.mpr fun row _ => actualKey_isRowKey s row)
        hactual⟩

/-- Tables that agree by place still do. -/
theorem placesAgree_loosened (h : Loosens s numeric) {expected actual : List Row}
    (hagree : PlacesAgree s expected actual) :
    PlacesAgree { s with numericColumns := numeric } expected actual :=
  ⟨hagree.length, fun i e a he ha => pairSucceeds_loosened h (hagree.rows i e a he ha)⟩

/-- A run reads its sources whatever columns are numeric. -/
theorem runComplete_loosened {expected actual : Supply} (h : RunComplete s expected actual) :
    RunComplete { s with numericColumns := numeric } expected actual where
  expectedOpens := h.expectedOpens
  actualOpens := h.actualOpens
  expectedRows := h.expectedRows
  actualRows := h.actualRows
  headers hkeyed :=
    have hread := h.headers hkeyed
    ⟨hread.expectedHeader, hread.actualHeader, hread.columns⟩

/-! ## 5. Runs -/

/-- **Loosening numeric columns never breaks a passing comparison.** Whatever the two tables are, by
    place and by key: when a comparison succeeds, then so does the one in which numeric columns that
    are no key columns have larger precisions, or, where case counts, further columns that are no
    key columns are numeric with precisions that are not negative. -/
theorem loosening_keeps_success {expected actual : Supply} {t : Tree} (h : Loosens s numeric)
    (ht : (compare s expected actual).result = .ok t) (hsuccess : t.success = true) :
    ∃ t', (compare { s with numericColumns := numeric } expected actual).result = .ok t' ∧
      t'.success = true := by
  obtain ⟨hcomplete, hkeyed, hpositional⟩ := compare_succeeds_iff.mp ⟨t, ht, hsuccess⟩
  exact compare_succeeds_iff.mpr ⟨runComplete_loosened hcomplete,
    fun hk => tablesAgree_loosened h (hkeyed hk),
    fun hp => placesAgree_loosened h (hpositional hp)⟩

/-- A larger precision, and a further column that is compared as numbers. -/
theorem loosening_keeps_success_stock :
    let s : Settings := { numericColumns := [("Count", ⟨false, 1, 0⟩)] }
    let numeric := [("Item", ⟨false, 0, 0⟩), ("Count", ⟨false, 2, 0⟩)]
    let expected := stockOf [("7", "3"), ("pen", "@\x7bisNumber\x7d")]
    let actual := stockOf [("7", "4"), ("pen", "1")]
    Loosens s numeric ∧
      (∃ t, (compare s expected actual).result = .ok t ∧ t.success = true) ∧
      ∃ t, (compare { s with numericColumns := numeric } expected actual).result = .ok t ∧
        t.success = true := by
  intro s numeric expected actual
  have hcount : ∀ c, c ≠ "Count" → s.precision? c = none := fun c hne => by
    rw [Settings.precision?, List.lookup_cons, beq_false_of_ne hne]
    rfl
  have hloosens : Loosens s numeric := {
    keys := fun c hc => absurd hc List.not_mem_nil
    raised := fun c p hp => by
      rcases eq_or_ne c "Count" with rfl | hne
      · obtain rfl := Option.some.inj hp
        exact ⟨_, rfl, Decimal.le_iff.mp (by decide)⟩
      · rw [hcount c hne] at hp
        cases hp
    added := fun c q hplain hq => by
      rcases eq_or_ne c "Count" with rfl | hne
      · cases hplain
      · rcases eq_or_ne c "Item" with rfl | hne'
        · obtain rfl := Option.some.inj hq
          exact ⟨rfl, by simp [Decimal.toRat, Decimal.signed]⟩
        · rw [List.lookup_cons, beq_false_of_ne hne', List.lookup_cons, beq_false_of_ne hne] at hq
          cases hq }
  obtain ⟨t, ht, hsuccess⟩ := exists_of_any (r := (compare s expected actual).result)
    (p := Tree.success) (by decide +kernel)
  exact ⟨hloosens, ⟨t, ht, hsuccess⟩, loosening_keeps_success hloosens ht hsuccess⟩

end Reconcile.Table
