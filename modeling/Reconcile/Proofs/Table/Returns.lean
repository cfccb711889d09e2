import Reconcile.Proofs.Expectation.Breakdown
import Reconcile.Proofs.Table.KeyedVerdict
import Reconcile.Proofs.Table.PositionalRun

/-!
# When a comparison of tables returns

Once both sources can be read and have the key columns, nothing but the texts of cells can end a
run. This module says which ones: a run returns exactly when no cell that it compares breaks its
evaluation off.

* `PairStands`: no compared cell of a pair of rows breaks off; `comparePair_returns_iff_stands`;
* `comparedPairs`: the pairs of rows that a run compares, by place or by key;
* `pairNodes_error_iff`, `passages_error_iff`: the first of them that breaks off ends the run;
* **`compare_returns_iff`**: a run returns when all these pairs stand.
-/

namespace Reconcile.Table

open Reconcile.Diff Reconcile.Expectation

variable {s : Settings}

/-! ## 1. Pairs of rows -/

/-- A pair of cells gives a leaf unless the expected one breaks off: where both are compared as
    numbers, the expected one is no expression. -/
theorem compareCell_returns_iff {column : String} {expected actual : Option String} :
    (∃ leaf, compareCell s column expected actual = .ok leaf) ↔
      (Expression.ofCell expected).breaksOff actual = false := by
  have hcheck := check_returns_iff column expected actual none s.caseSensitive
  rw [Option.any_none, Bool.false_eq_true, false_or] at hcheck
  unfold compareCell
  dsimp only
  split
  case h_2 => exact hcheck
  case h_1 leaf hleaf =>
    refine iff_of_true ⟨leaf, rfl⟩ ?_
    obtain ⟨precision, _, hleaf⟩ := Option.bind_eq_some_iff.mp hleaf
    cases hexpression : isExpression expected with
    | true =>
      rw [hexpression] at hleaf
      cases hleaf
    | false => exact breaksOff_of_literal hexpression actual

variable (s) in
/-- No cell of a pair of rows that is compared breaks its evaluation off. -/
def PairStands (expected actual : Row) : Prop :=
  ∀ c ∈ expected.header.columns, s.ignoreColumns.contains c = false →
    s.ignoreColumns.contains (s.actualColumn c) = false → s.infoColumns.contains c = false →
      (Expression.ofCell (expected.get c)).breaksOff (actual.get (s.actualColumn c)) = false

instance (expected actual : Row) : Decidable (PairStands s expected actual) :=
  inferInstanceAs (Decidable (∀ c ∈ expected.header.columns, _))

/-- A column gives a leaf unless it is compared and breaks off. -/
theorem compareColumn_paired_returns_iff {expected actual : Row} {c a : String} :
    (∃ leaf, compareColumn s expected actual (.paired c a) = .ok leaf) ↔
      (s.infoColumns.contains c = false →
        (Expression.ofCell (expected.get c)).breaksOff (actual.get a) = false) := by
  rw [compareColumn]
  cases s.infoColumns.contains c with
  | true => exact iff_of_true ⟨_, rfl⟩ fun h => Bool.noConfusion h
  | false => exact compareCell_returns_iff.trans ⟨fun h _ => h, fun h => h rfl⟩

/-- A pair of rows is compared exactly when it stands, whatever its name is. -/
theorem comparePair_returns_iff_stands {name : String} {expected actual : Row} :
    (∃ tree, comparePair s name expected actual = .ok tree) ↔ PairStands s expected actual := by
  have hsurplus : ∀ c, ∃ leaf, compareColumn s expected actual (.surplus c) = .ok leaf :=
    fun c => ⟨_, rfl⟩
  rw [comparePair_returns_iff, comparedColumns]
  simp only [List.forall_mem_append, List.forall_mem_map, compareColumn_paired_returns_iff,
    hsurplus, implies_true, and_true, List.mem_filter, Bool.and_eq_true, Bool.not_eq_true']
  exact ⟨fun h c hc hi ha hn => h c ⟨hc, hi, ha⟩ hn, fun h c hc hn => h c hc.1 hc.2.1 hc.2.2 hn⟩

/-! ## 2. Runs -/

variable (s) in
/-- The pairs of rows that a run compares: each expected row with the actual one that it takes, or
    rows of the same place. -/
def comparedPairs (expected actual : List Row) : List (Row × Row) :=
  if s.isKeyed then
    (passages s expected actual).filterMap fun p => p.taken.map fun c => (p.row, c.row)
  else expected.zip actual

/-- Compared pairs consist of a row of either side. -/
theorem mem_of_comparedPairs {expected actual : List Row} {q : Row × Row}
    (h : q ∈ comparedPairs s expected actual) : q.1 ∈ expected ∧ q.2 ∈ actual := by
  unfold comparedPairs at h
  split at h
  · obtain ⟨p, hp, hq⟩ := List.mem_filterMap.mp h
    obtain ⟨c, htaken, rfl⟩ := Option.map_eq_some_iff.mp hq
    have hcandidate := (mem_candidates_iff s expected actual).mpr (.inl ⟨p, hp, htaken⟩)
    have hrow := List.mem_map_of_mem (f := Passage.row) hp
    have hcrow := List.mem_map_of_mem (f := Candidate.row) hcandidate
    rw [passages_row] at hrow
    rw [candidates_row] at hcrow
    exact ⟨hrow, hcrow⟩
  · exact List.of_mem_zip h

theorem pairNodes_returns_iff {n : Nat} {pairs : List (Row × Row)} :
    (∃ nodes, pairNodes s n pairs = .ok nodes) ↔ ∀ q ∈ pairs, PairStands s q.1 q.2 := by
  unfold pairNodes
  rw [mapM_returns_iff]
  simp only [comparePair_returns_iff_stands]
  conv_rhs => rw [← List.zipIdx_map_fst n pairs, List.forall_mem_map]

/-- The first pair that breaks off breaks off the nodes of pairs. -/
theorem pairNodes_error_iff {n : Nat} {pairs : List (Row × Row)} {b : Breakdown} :
    pairNodes s n pairs = .error b ↔ FirstFails (pairLeaves s) b pairs := by
  have hpairs : (pairs.zipIdx n).filterMap (fun q => some q.1) = pairs := by
    have hmap : (pairs.zipIdx n).filterMap (some ∘ Prod.fst) = (pairs.zipIdx n).map Prod.fst := by
      rw [List.filterMap_eq_map]
    exact hmap.trans (List.zipIdx_map_fst n pairs)
  unfold pairNodes
  rw [mapM_eq_error_iff]
  conv_rhs => rw [← hpairs]
  refine FirstFails.filterMap_iff nofun ?_ ?_
  · rintro ⟨⟨e, a⟩, i⟩ q hq
    obtain rfl := Option.some.inj hq
    exact pairLeaves_returns_iff.symm
  · rintro ⟨⟨e, a⟩, i⟩ q hq
    obtain rfl := Option.some.inj hq
    exact comparePair_error_iff

/-- Expected rows that pass by actual ones are routed when the compared pairs stand. -/
theorem passages_returns_iff (hkeyed : s.isKeyed = true) {expected actual : List Row} :
    (∃ routed, (passages s expected actual).mapM (Passage.route s) = .ok routed) ↔
      ∀ q ∈ comparedPairs s expected actual, PairStands s q.1 q.2 := by
  rw [mapM_returns_iff, comparedPairs, if_pos hkeyed]
  simp only [Passage.route_returns_iff, comparePair_returns_iff_stands, List.mem_filterMap,
    Option.map_eq_some_iff]
  constructor
  · rintro h q ⟨p, hp, c, hc, rfl⟩
    exact h p hp c hc
  · exact fun h p hp c hc => h (p.row, c.row) ⟨p, hp, c, hc, rfl⟩

/-- The first compared pair that breaks off breaks off the passages. -/
theorem passages_error_iff (hkeyed : s.isKeyed = true) {expected actual : List Row}
    {b : Breakdown} : (passages s expected actual).mapM (Passage.route s) = .error b ↔
      FirstFails (pairLeaves s) b (comparedPairs s expected actual) := by
  rw [mapM_eq_error_iff, comparedPairs, if_pos hkeyed]
  refine FirstFails.filterMap_iff (fun p hp => ?_) (fun p q hq => ?_) (fun p q hq => ?_)
  · refine Passage.route_returns_iff.mpr fun c hc => ?_
    rw [hc] at hp
    cases hp
  · obtain ⟨c, hc, rfl⟩ := Option.map_eq_some_iff.mp hq
    rw [pairLeaves_returns_iff, Passage.route_returns_iff]
    constructor
    · exact fun h => h c hc
    · rintro h d hd
      obtain rfl := Option.some.inj (hc.symm.trans hd)
      exact h
  · obtain ⟨c, hc, rfl⟩ := Option.map_eq_some_iff.mp hq
    rw [Passage.route_error_iff, ← comparePair_error_iff]
    constructor
    · rintro ⟨d, hd, h⟩
      obtain rfl := Option.some.inj (hc.symm.trans hd)
      exact h
    · exact fun h => ⟨c, hc, h⟩

/-- **A run over readable sources that have the key columns** returns exactly when no compared cell
    of the pairs of rows that it compares breaks off. -/
theorem compare_returns_iff {expected actual : Supply} (he : expected.IsReadable)
    (ha : actual.IsReadable)
    (hcolumns : HasKeyColumns s expected.source.header actual.source.header) :
    (∃ t, (compare s expected actual).result = .ok t) ↔
      ∀ q ∈ comparedPairs s expected.source.rows actual.source.rows, PairStands s q.1 q.2 := by
  cases hkeyed : s.isKeyed with
  | false =>
    rw [compare_positional_returns_iff hkeyed he ha, pairNodes_returns_iff, comparedPairs,
      if_neg (by rw [hkeyed]; exact Bool.false_ne_true)]
  | true =>
    rw [compare_keyed_returns_iff hkeyed he ha hcolumns, ← passages_returns_iff hkeyed,
      mapM_returns_iff]
    simp only [Passage.route_returns_iff]

end Reconcile.Table
