import Reconcile.Proofs.Table.Tally

/-!
# Swapped sides

Tables of literals can be compared in either direction. The one side is indexed and the other one
streamed, but the pairs that come about are the same, and every comparison of cells is symmetric:
rows that one run does not find are surplus rows of the other one.

* `Swappable`: what is asked of the tables and the settings;
* `compareCell_swap`, `pairSucceeds_swap`, `rowsMatch_swap`: cells, rows and keys from either side;
* **`comparedPairs_swap`**: both runs compare the same pairs;
* `SwappedReports`, **`compare_swapped`**: what the reports of the two runs have in common.
-/

namespace Reconcile.Table

open Reconcile.Diff Reconcile.Expectation

variable (s : Settings) (header : Header) (expected actual : List Row)

/-! ## 1. What is asked -/

/-- Rows of literals under one header. -/
structure LiteralRows (rows : List Row) : Prop where
  shared : ∀ row ∈ rows, row.header = header
  literals : ∀ row ∈ rows, ∀ c ∈ header.columns, isExpression (row.get c) = false

variable {s header expected actual}

/-! ## 2. Cells and rows -/

theorem within_comm (a b p : Decimal) : Decimal.within a b p = Decimal.within b a p := by
  rw [Bool.eq_iff_iff, Decimal.within_iff, Decimal.within_iff, abs_sub_comm]

/-- Whether a pair of cells passes, if it gives a leaf. -/
def cellPasses (s : Settings) (column : String) (x y : Option String) : Bool :=
  (compareCell s column x y).toOption.any Leaf.passes

/-- A check of a literal passes when it is the actual value. -/
theorem check_literal {x : Option String} (hx : isExpression x = false) (column : String)
    (y : Option String) (caseSensitive : Bool) :
    (check column x y none caseSensitive).toOption.any Leaf.passes =
      literalMatches x y caseSensitive := by
  rw [check, accepts_of_literal hx]
  show Leaf.passes _ = _
  cases literalMatches x y caseSensitive <;> rfl

theorem numericLeaf?_passes (p : Decimal) (column : String) (x y : Option String) :
    (numericLeaf? p column x y).map Leaf.passes = (numericLeaf? p column y x).map Leaf.passes := by
  unfold numericLeaf?
  cases Decimal.readCell? (x.map Text.trim) with
  | none => cases Decimal.readCell? (y.map Text.trim) <;> rfl
  | some a => cases Decimal.readCell? (y.map Text.trim) with
    | none => rfl
    | some b =>
      dsimp only
      rw [within_comm]
      cases Decimal.within b a p <;> rfl

/-- A pair of literal cells passes as numbers where the column is numeric and both are numbers, and
    as literals otherwise. -/
theorem cellPasses_literal {x : Option String} (hx : isExpression x = false) (column : String)
    (y : Option String) : cellPasses s column x y =
      ((s.precision? column).bind fun p => (numericLeaf? p column x y).map Leaf.passes).getD
        (literalMatches x y s.caseSensitive) := by
  rw [cellPasses, compareCell, ← check_literal hx column]
  cases s.precision? column with
  | none => rfl
  | some p =>
    rw [Option.bind_some, Option.bind_some, hx, if_neg Bool.false_ne_true]
    cases numericLeaf? p column x y <;> rfl

/-- **A pair of literal cells passes from either side.** -/
theorem cellPasses_swap {x y : Option String} (hx : isExpression x = false)
    (hy : isExpression y = false) (column : String) :
    cellPasses s column x y = cellPasses s column y x := by
  simp only [cellPasses_literal hx, cellPasses_literal hy, numericLeaf?_passes _ column x y,
    literalMatches_comm x y]

theorem actualColumn_of_unmapped (hmapping : s.columnMapping = []) (c : String) :
    s.actualColumn c = c := by
  rw [Settings.actualColumn, hmapping]
  rfl

/-- Where columns have the same name on both sides, no column of one header is a surplus one. -/
theorem comparedColumns_same (hmapping : s.columnMapping = []) (header : Header) :
    comparedColumns s header header =
      (header.columns.filter fun c => !s.ignoreColumns.contains c).map fun c => .paired c c := by
  have hname : s.actualColumn = id := funext (actualColumn_of_unmapped hmapping)
  have hsurplus : (header.columns.filter fun c =>
      !header.columns.contains c && !s.ignoreColumns.contains c) = [] := by
    refine List.filter_eq_nil_iff.mpr fun c hc => ?_
    rw [List.contains_iff_mem.mpr hc]
    exact Bool.false_ne_true
  rw [comparedColumns, hname, List.map_id, hsurplus, List.map_nil, List.append_nil]
  simp only [id_eq, Bool.and_self]

/-- **A pair of rows succeeds from either side.** -/
theorem pairSucceeds_swap (hmapping : s.columnMapping = []) (he : LiteralRows header expected)
    (ha : LiteralRows header actual) {e a : Row} (hea : e ∈ expected) (haa : a ∈ actual) :
    pairSucceeds s e a = pairSucceeds s a e := by
  have hcolumn : ∀ c ∈ header.columns,
      ((compareColumn s e a (.paired c c)).toOption.any Leaf.passes) =
        (compareColumn s a e (.paired c c)).toOption.any Leaf.passes := by
    intro c hc
    rw [compareColumn, compareColumn]
    split
    · rfl
    · exact cellPasses_swap (he.literals e hea c hc) (ha.literals a haa c hc) c
  rw [pairSucceeds, pairSucceeds, he.shared e hea, ha.shared a haa, comparedColumns_same hmapping,
    List.all_map, List.all_map, Bool.eq_iff_iff, List.all_eq_true, List.all_eq_true]
  refine forall₂_congr fun c hc => ?_
  rw [Function.comp_apply, Function.comp_apply, hcolumn c (List.mem_filter.mp hc).1]

/-- Keys are equal from either side. -/
theorem rowsMatch_swap (hmapping : s.columnMapping = []) (e a : Row) :
    rowsMatch s e a = rowsMatch s a e := by
  have hkey : ∀ row, actualKey s row = expectedKey s row := fun row => by
    rw [actualKey, hmapping]
    rfl
  rw [rowsMatch, rowsMatch, hkey, hkey, sameKey_comm]

/-- Rows of literals under one header can be compared. -/
theorem pairStands_literal (he : LiteralRows header expected) {e : Row}
    (hea : e ∈ expected) (a : Row) : PairStands s e a := by
  intro c hc _ _ _
  rw [he.shared e hea] at hc
  exact breaksOff_of_literal (he.literals e hea c hc) _

/-! ## 3. Pairs -/

/-- **Both runs compare the same pairs**, by place and by key. -/
theorem comparedPairs_swap (hmapping : s.columnMapping = []) (expected actual : List Row) :
    ((comparedPairs s expected actual).map Prod.swap).Perm (comparedPairs s actual expected) := by
  cases hkeyed : s.isKeyed with
  | false =>
    rw [comparedPairs, comparedPairs, hkeyed, if_neg Bool.false_ne_true, if_neg Bool.false_ne_true,
      List.zip_swap]
  | true =>
    have hflip : (fun a e => rowsMatch s e a) = rowsMatch s :=
      funext fun a => funext fun e => rowsMatch_swap hmapping e a
    have hswap := matchedPairs_swap (m := rowsMatch s) expected actual
    rwa [hflip, ← comparedPairs_keyed hkeyed, ← comparedPairs_keyed hkeyed] at hswap

/-- As many of them succeed. -/
theorem passingPairs_swap (hmapping : s.columnMapping = []) (he : LiteralRows header expected)
    (ha : LiteralRows header actual) :
    passingPairs s expected actual = passingPairs s actual expected := by
  rw [passingPairs, passingPairs, ← (comparedPairs_swap hmapping expected actual).countP_eq,
    List.countP_map]
  refine List.countP_congr fun q hq => ?_
  obtain ⟨hqe, hqa⟩ := mem_of_comparedPairs hq
  rw [Function.comp_apply, Prod.fst_swap, Prod.snd_swap, pairSucceeds_swap hmapping he ha hqe hqa]

/-! ## 4. Reports -/

/-- Two reports that count the same, with the sides exchanged. -/
structure SwappedReports (t u : Tree) : Prop where
  success : t.success = u.success
  comment : t.comment = u.comment
  notFound : (sectionRows t .notFound).length = (sectionRows u .extra).length
  extra : (sectionRows t .extra).length = (sectionRows u .notFound).length

/-- Reports whose tallies are exchanged. -/
theorem Tally.swapped {e a k p : Nat} {t u : Tree} (hk : k ≤ e ∧ k ≤ a) (ht : Tally e a k p t)
    (hu : Tally a e k p u) : SwappedReports t u := by
  have htotal : e + (a - k) = a + (e - k) := by omega
  refine ⟨?_, ?_, ?_, ?_⟩
  · rw [Bool.eq_iff_iff, ht.success, hu.success, and_left_comm]
  · rw [ht.comment, hu.comment, htotal]
    exact if_congr and_comm rfl rfl
  · rw [ht.notFound, hu.extra]
  · rw [ht.extra, hu.notFound]

/-- **Swapping the sides of a comparison of literals.** Let two tables have the same header and no
    expressions, let columns have the same name on both sides, surplus rows be failures, duplicates
    not be looked for and sections have no caps. By place, and by key columns of any precision, the
    two runs return, have the same success and comment, and the rows that one does not find are as
    many as the surplus rows of the other; where the tables lack a key column both fail alike. -/
theorem compare_swapped {s : Settings} {expected actual : Supply} (hmapping : s.columnMapping = [])
    (hpolicy : s.tableExtraPolicy = .fail) (hcheck : s.checkDuplicates = false)
    (hcaps : s.caps = {}) (he : expected.IsReadable) (ha : actual.IsReadable)
    (hheader : actual.source.header = expected.source.header)
    (hexpected : LiteralRows expected.source.header expected.source.rows)
    (hactual : LiteralRows expected.source.header actual.source.rows) :
    ((∀ c ∈ s.keyColumns, expected.source.header.has c = true) →
      ∃ t u, (compare s expected actual).result = .ok t ∧ (compare s actual expected).result = .ok u ∧
        SwappedReports t u) ∧
    (¬ (∀ c ∈ s.keyColumns, expected.source.header.has c = true) →
      ∃ f, (compare s expected actual).result = .error f ∧
        (compare s actual expected).result = .error f) := by
  have hname := actualColumn_of_unmapped hmapping
  constructor
  · intro hkeys
    have hcolumns : HasKeyColumns s expected.source.header expected.source.header := fun c hc =>
      ⟨hkeys c hc, by rw [hname]; exact hkeys c hc⟩
    obtain ⟨t, ht⟩ := (compare_returns_iff he ha (by rwa [hheader])).mpr fun q hq =>
      pairStands_literal hexpected (mem_of_comparedPairs hq).1 q.2
    obtain ⟨u, hu⟩ := (compare_returns_iff ha he (by rwa [hheader])).mpr fun q hq =>
      pairStands_literal hactual (mem_of_comparedPairs hq).1 q.2
    have htally := compare_tally hcaps hcheck hpolicy ht
    have hswap := compare_tally hcaps hcheck hpolicy hu
    have hpairs := (comparedPairs_swap hmapping expected.source.rows actual.source.rows).length_eq
    rw [List.length_map] at hpairs
    rw [← hpairs, ← passingPairs_swap hmapping hexpected hactual] at hswap
    exact ⟨t, u, ht, hu, htally.swapped (comparedPairs_length_le _ _ _) hswap⟩
  · intro hmissing
    have hkeyed : s.isKeyed = true := by
      rw [Settings.isKeyed, Bool.not_eq_true', List.isEmpty_eq_false_iff]
      intro hnone
      exact hmissing fun c hc => by
        rw [hnone] at hc
        cases hc
    rw [compare_of_readable he ha, compare_of_readable ha he,
      compareSources_of_readable hkeyed he.source ha.source,
      compareSources_of_readable hkeyed ha.source he.source, hheader]
    cases hchecked : checkKeyColumns s expected.source.header expected.source.header with
    | error f => exact ⟨f, rfl, rfl⟩
    | ok _ => exact absurd (fun c hc => (checkKeyColumns_ok_iff.mp hchecked c hc).1) hmissing

/-- A numeric key that comes twice on both sides, written differently; two rows of one side and one
    of the other are in no pair. -/
theorem compare_swapped_stock :
    let s : Settings := { keyColumns := ["Item"], numericColumns := [("Item", ⟨false, 0, 0⟩)] }
    let expected := stockOf [("7", "3"), ("8", "1"), ("7.0", "2"), ("9", "4")]
    let actual := stockOf [("07", "3"), ("10", "1"), ("7", "5")]
    ∃ t u, (compare s expected actual).result = .ok t ∧ (compare s actual expected).result = .ok u ∧
      SwappedReports t u := by
  intro s expected actual
  have hexpected : LiteralRows expected.source.header expected.source.rows :=
    ⟨by decide +kernel, by decide +kernel⟩
  have hactual : LiteralRows expected.source.header actual.source.rows :=
    ⟨by decide +kernel, by decide +kernel⟩
  have he : expected.IsReadable := stockOf_isReadable _
  have ha : actual.IsReadable := stockOf_isReadable _
  have hkeys : ∀ c ∈ s.keyColumns, expected.source.header.has c = true := by decide
  exact (compare_swapped (s := s) rfl rfl rfl rfl he ha rfl hexpected hactual).1 hkeys

end Reconcile.Table
