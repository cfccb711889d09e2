import Reconcile.Proofs.Table.KeyedAccount
import Reconcile.Proofs.Table.MatchedPairs
import Reconcile.Proofs.Table.PositionalAccount
import Reconcile.Proofs.Table.Returns

/-!
# The tally of a report

Where surplus rows are failures and duplicates are not looked for, four numbers tell what a report
counts: how many rows either side has, how many pairs of them were compared, and how many of these
succeed. This holds by place and by key.

* `Counted`: the routed rows in numbers; `Tally`: what a report says in numbers;
* `Counted.tally`: a report of rows that are so counted says so;
* `comparedPairs_keyed`: by key, the pairs are those of a pairing by first match;
* `positional_counted`, `keyed_counted`: what either kind of run routes;
* **`compare_tally`**: what every report of a run says in numbers.
-/

namespace Reconcile.Table

open Reconcile.Diff Reconcile.Expectation

variable {s : Settings}

/-! ## 1. Numbers of a report -/

/-- Routed rows in numbers: of `e` expected and `a` actual rows `k` are in pairs, and `p` of the
    pairs succeed, but no other row. -/
structure Counted (e a k p : Nat) (routed : List RoutedRow) : Prop where
  paired : p ≤ k ∧ k ≤ e ∧ k ≤ a
  notFound : (rowsOf .notFound routed).length = e - k
  extra : (rowsOf .extra routed).length = a - k
  total : routed.length = e + (a - k)
  passed : passedCount routed = p

/-- What a report without caps says in numbers. -/
structure Tally (e a k p : Nat) (t : Tree) : Prop where
  success : t.success = true ↔ e = k ∧ a = k ∧ p = k
  comment : t.comment = if e = 0 ∧ a = 0 then emptyReport.comment else
    some s!"Processed {e + (a - k)} rows: {p} passed / {e + (a - k) - p} failed"
  notFound : (sectionRows t .notFound).length = e - k
  extra : (sectionRows t .extra).length = a - k

variable {e a k p : Nat} {routed : List RoutedRow}

/-- A report succeeds when all its rows passed. -/
theorem report_success_iff (caps : Caps) (routed : List RoutedRow) :
    (report caps routed).success = true ↔ passedCount routed = routed.length := by
  rw [report_success, List.all_eq_true, passedCount, List.countP_eq_length]

/-- A report of rows says how they are counted; where the sides have equally many rows it has no
    node for their numbers. -/
theorem Counted.tally (h : Counted e a k p routed) (hsome : ¬ (e = 0 ∧ a = 0))
    {rowCount : Option String} (hcount : e = a → rowCount = none) :
    Tally e a k p (withRowCount (report {} routed) rowCount) := by
  obtain ⟨hpk, hke, hka⟩ := h.paired
  have hpassed := h.passed
  have htotal := h.total
  refine ⟨?_, ?_, ?_, ?_⟩
  · rw [withRowCount_success, Bool.and_eq_true, report_success_iff, hpassed, htotal,
      Option.isNone_iff_eq_none]
    constructor
    · rintro ⟨hall, _⟩
      omega
    · rintro ⟨rfl, rfl, rfl⟩
      exact ⟨by omega, hcount rfl⟩
  · rw [withRowCount_comment, if_neg hsome, ← htotal, ← hpassed]
    rfl
  · rw [sectionRows_report, h.notFound]
  · rw [sectionRows_report, h.extra]

/-- Where there are no rows there is nothing to count. -/
theorem tally_emptyReport (hpk : p ≤ k) (hke : k ≤ e) (hnone : e = 0 ∧ a = 0) :
    Tally e a k p emptyReport := by
  obtain ⟨rfl, rfl⟩ := hnone
  refine ⟨iff_of_true rfl ⟨by omega, by omega, by omega⟩, rfl, ?_, ?_⟩
  · exact (Nat.zero_sub k).symm
  · exact (Nat.zero_sub k).symm

theorem length_rowsOf (place : Section) (routed : List RoutedRow) :
    (rowsOf place routed).length = routed.countP fun r => r.place == place := by
  rw [rowsOf, List.length_map, List.countP_eq_length_filter]

/-- Rows that all fail do not count as passed. -/
theorem passedCount_eq_zero (h : ∀ r ∈ routed, r.row.success = false) : passedCount routed = 0 :=
  List.countP_eq_zero.mpr fun r hr => by rw [h r hr]; exact Bool.false_ne_true

theorem passedCount_append (routed more : List RoutedRow) :
    passedCount (routed ++ more) = passedCount routed + passedCount more := List.countP_append

/-- How many of the pairs that a run compares succeed. -/
def passingPairs (s : Settings) (expected actual : List Row) : Nat :=
  (comparedPairs s expected actual).countP fun q => pairSucceeds s q.1 q.2

variable {expected actual : List Row}

/-! ## 2. By place -/

section Positional

theorem countP_eq_of_forall₂ {α β : Type} {R : α → β → Prop} {f : α → Bool} {g : β → Bool}
    (hfg : ∀ a b, R a b → f a = g b) {as : List α} {bs : List β} (h : List.Forall₂ R as bs) :
    as.countP f = bs.countP g := by
  have hmap := congrArg (List.countP id) (map_eq_of_forall₂ hfg h)
  rwa [List.countP_map, List.countP_map] at hmap

/-- As many pairs pass as have cells that all pass. -/
theorem pairNodes_countP {n : Nat} {pairs : List (Row × Row)} {nodes : List Tree}
    (h : pairNodes s n pairs = .ok nodes) :
    nodes.countP Tree.success = pairs.countP fun q => pairSucceeds s q.1 q.2 := by
  have hcount : (pairs.zipIdx n).countP (fun q => pairSucceeds s q.1.1 q.1.2) =
      nodes.countP Tree.success := by
    refine countP_eq_of_forall₂ (fun q node hq => ?_) (mapM_eq_ok_iff.mp h)
    exact (comparePair_success hq).symm
  rw [← hcount]
  conv_rhs => rw [← List.zipIdx_map_fst n pairs, List.countP_map]
  rfl

theorem missingNodes_length (n : Nat) (rows : List Row) :
    (missingNodes s n rows).length = rows.length := by
  rw [missingNodes, List.length_map, List.length_zipIdx]

theorem surplusNodes_length (hpolicy : s.tableExtraPolicy = .fail) (n : Nat) (rows : List Row) :
    (surplusNodes s n rows).length = rows.length := by
  rw [surplusNodes, hpolicy, if_neg (by decide), List.length_map, List.length_zipIdx]

/-- No expected row without a counterpart passes. -/
theorem missingNodes_passed (n : Nat) (rows : List Row) :
    passedCount ((missingNodes s n rows).map (⟨.notFound, ·⟩)) = 0 := by
  refine passedCount_eq_zero fun r hr => ?_
  obtain ⟨_, hrow, rfl⟩ := List.mem_map.mp hr
  obtain ⟨q, _, rfl⟩ := List.mem_map.mp hrow
  exact notFoundRow_success q.1

/-- No surplus row passes where they are failures. -/
theorem surplusNodes_passed (hpolicy : s.tableExtraPolicy = .fail) (n : Nat) (rows : List Row) :
    passedCount ((surplusNodes s n rows).map (⟨.extra, ·⟩)) = 0 := by
  refine passedCount_eq_zero fun r hr => ?_
  obtain ⟨_, hrow, rfl⟩ := List.mem_map.mp hr
  rw [surplusNodes, hpolicy, if_neg (by decide)] at hrow
  obtain ⟨q, _, rfl⟩ := List.mem_map.mp hrow
  rw [extraRow_success, hpolicy]
  rfl

/-- What a run by place routes, in numbers. -/
theorem positional_counted (hkeyed : s.isKeyed = false) (hpolicy : s.tableExtraPolicy = .fail)
    {nodes : List Tree} (h : pairNodes s 1 (expected.zip actual) = .ok nodes) :
    Counted expected.length actual.length (comparedPairs s expected actual).length
      (passingPairs s expected actual) (positionalRows s 1 nodes expected actual) := by
  have hpairs : comparedPairs s expected actual = expected.zip actual := by
    rw [comparedPairs, hkeyed]
    rfl
  have hmin : min expected.length actual.length ≤ expected.length ∧
    min expected.length actual.length ≤ actual.length := by omega
  rw [passingPairs, hpairs, List.length_zip]
  refine ⟨⟨?_, hmin⟩, ?_, ?_, ?_, ?_⟩
  · rw [← List.length_zip]
    exact List.countP_le_length
  · rw [positionalRows, rowsOf_append, rowsOf_append,
      rowsOf_ofPair_of_ne (p := .notFound) (by decide) (by decide), rowsOf_map_self,
      rowsOf_map_of_ne (p := .notFound) (q := .extra) (by decide), List.nil_append,
      List.append_nil, missingNodes_length, List.length_drop]
    omega
  · rw [positionalRows, rowsOf_append, rowsOf_append,
      rowsOf_ofPair_of_ne (p := .extra) (by decide) (by decide),
      rowsOf_map_of_ne (p := .extra) (q := .notFound) (by decide), rowsOf_map_self,
      List.nil_append, List.nil_append, surplusNodes_length hpolicy, List.length_drop]
    omega
  · rw [positionalRows, List.length_append, List.length_append, List.length_map, List.length_map,
      List.length_map, pairNodes_length h, missingNodes_length, surplusNodes_length hpolicy,
      List.length_drop, List.length_drop]
    omega
  · rw [positionalRows, passedCount_append, passedCount_append, missingNodes_passed,
      surplusNodes_passed hpolicy, ← pairNodes_countP h, passedCount, List.countP_map]
    rfl

end Positional

/-! ## 3. By key -/

section Keyed

/-- By key, rows are compared to what the pairing gives them. -/
theorem comparedPairs_keyed (hkeyed : s.isKeyed = true) :
    comparedPairs s expected actual = matchedPairs (rowsMatch s) expected actual := by
  have hzip : expected.zip (pairing s expected actual).1 =
      (passages s expected actual).map fun p => (p.row, p.taken.map Candidate.row) := by
    rw [pairing_eq, ← List.zip_map', passages_row]
  rw [comparedPairs, if_pos hkeyed, matchedPairs_eq, ← pairing, hzip, List.filterMap_map]
  refine List.filterMap_congr fun p _ => ?_
  rw [Function.comp_apply, Option.map_map]
  rfl

variable (s expected actual) in
/-- Actual rows are compared or left over. -/
theorem leftOver_length (hkeyed : s.isKeyed = true) : (leftOver s expected actual).length +
    (comparedPairs s expected actual).length = actual.length := by
  have hleft := left_length (m := rowsMatch s) expected actual
  rwa [← pairing, pairing_eq, List.length_map, ← comparedPairs_keyed hkeyed] at hleft

variable (s expected actual) in
/-- Expected rows are compared, or their passages take nothing. -/
theorem unpaired_length (hkeyed : s.isKeyed = true) :
    (passages s expected actual).countP (fun p => p.taken.isNone) +
      (comparedPairs s expected actual).length = expected.length := by
  have hlength : (passages s expected actual).length = expected.length := by
    rw [← List.length_map Passage.row, passages_row]
  rw [comparedPairs, if_pos hkeyed, List.length_filterMap_eq_countP, ← hlength,
    List.length_eq_countP_add_countP fun p : Passage => p.taken.isNone]
  congr 2
  funext p
  cases p.taken <;> rfl

/-- A row that is not marked passes when it is compared and all its cells pass. -/
theorem routed_passed (hkeyed : s.isKeyed = true) (hcheck : s.checkDuplicates = false)
    (h : List.Forall₂ (fun p r => p.route s = .ok r) (passages s expected actual) routed) :
    passedCount routed = passingPairs s expected actual := by
  have hunchecked : ∀ {keys : List RowKey}, s.checkDuplicates = true → DistinctKeys s keys :=
    fun hcheck' => by rw [hcheck] at hcheck'; cases hcheck'
  have hrepeats := (no_passage_repeats s expected actual).mpr hunchecked
  have hdup := (no_candidate_repeats s actual).mpr hunchecked
  have hunmarked : ∀ p ∈ passages s expected actual,
      p.repeats = none ∧ ∀ c, p.taken = some c → c.duplicateOf = none := fun p hp =>
    ⟨hrepeats p hp, fun c hc => hdup c ((mem_candidates_iff s expected actual).mpr
      (.inl ⟨p, hp, hc⟩))⟩
  have hcount : (passages s expected actual).countP
      (fun p => p.taken.any fun c => pairSucceeds s p.row c.row) = passedCount routed := by
    refine countP_eq_of_forall₂ ?_ ((List.forall₂_and_left _ _).mpr ⟨hunmarked, h⟩)
    rintro p r ⟨⟨hnone, hplain⟩, hroute⟩
    rw [Bool.eq_iff_iff, p.route_success hroute, Option.any_eq_true]
    constructor
    · rintro ⟨c, hc, hpair⟩
      exact ⟨c, hc, hpair, hplain c hc, hnone⟩
    · rintro ⟨c, hc, hpair, _⟩
      exact ⟨c, hc, hpair⟩
  rw [← hcount, passingPairs, comparedPairs, if_pos hkeyed, List.countP_filterMap]
  congr 1
  funext p
  cases p.taken <;> rfl

/-- No left-over row passes where they are failures. -/
theorem leftovers_passed (hpolicy : s.tableExtraPolicy = .fail) (left : List Candidate) :
    passedCount (routeLeftovers s left) = 0 := by
  refine passedCount_eq_zero fun r hr => ?_
  rw [routeLeftovers_eq] at hr
  obtain ⟨c, _, rfl⟩ := List.mem_map.mp hr
  exact Bool.eq_false_iff.mpr fun hsuccess => ((surplusRow_success s c).mp hsuccess).1 hpolicy

/-- What a run by key routes, in numbers. -/
theorem keyed_counted (hkeyed : s.isKeyed = true) (hcheck : s.checkDuplicates = false)
    (hpolicy : s.tableExtraPolicy = .fail)
    (h : List.Forall₂ (fun p r => p.route s = .ok r) (passages s expected actual) routed) :
    Counted expected.length actual.length (comparedPairs s expected actual).length
      (passingPairs s expected actual)
      (routed ++ routeLeftovers s (leftOver s expected actual)) := by
  have hleft := leftOver_length s expected actual hkeyed
  have hunpaired := unpaired_length s expected actual hkeyed
  have hreported : (leftOver s expected actual).filter (isReported s) = leftOver s expected actual := by
    refine List.filter_eq_self.mpr fun c _ => ?_
    rw [isReported, hpolicy]
    rfl
  have hnotFound : (passages s expected actual).countP (fun p => p.taken.isNone) =
      routed.countP fun r => r.place == .notFound := by
    refine countP_eq_of_forall₂ (fun p r hroute => ?_) h
    rw [Bool.eq_iff_iff, Option.isNone_iff_eq_none, beq_iff_eq]
    exact (p.route_notFound hroute).symm
  refine ⟨⟨List.countP_le_length, by omega, by omega⟩, ?_, ?_, ?_, ?_⟩
  · rw [rowsOf_append, rowsOf_leftovers_of_ne (p := .notFound) s _ (by decide), List.append_nil,
      length_rowsOf, ← hnotFound]
    omega
  · rw [rowsOf_append, rowsOf_eq_nil (routed_ne_extra h), rowsOf_leftovers, hreported,
      List.nil_append, List.length_map]
    omega
  · rw [List.length_append, routed_length h, routeLeftovers_eq, hreported, List.length_map]
    omega
  · rw [passedCount_append, leftovers_passed hpolicy, routed_passed hkeyed hcheck h]
    rfl

end Keyed

/-! ## 4. A run -/

variable (s expected actual) in
/-- A run compares at most as many pairs as either side has rows. -/
theorem comparedPairs_length_le : (comparedPairs s expected actual).length ≤ expected.length ∧
    (comparedPairs s expected actual).length ≤ actual.length := by
  cases hkeyed : s.isKeyed with
  | false =>
    rw [comparedPairs, hkeyed, if_neg Bool.false_ne_true, List.length_zip]
    omega
  | true =>
    have hleft := leftOver_length s expected actual hkeyed
    have hunpaired := unpaired_length s expected actual hkeyed
    omega

/-- **The tally of a run.** Where surplus rows are failures, duplicates are not looked for and there
    are no caps, what a run reports is counted by the rows of either side, the pairs that it compares
    and those of them that succeed, whether they are compared by place or by key. -/
theorem compare_tally {expected actual : Supply} {t : Tree} (hcaps : s.caps = {})
    (hcheck : s.checkDuplicates = false) (hpolicy : s.tableExtraPolicy = .fail)
    (h : (compare s expected actual).result = .ok t) :
    Tally expected.source.rows.length actual.source.rows.length
      (comparedPairs s expected.source.rows actual.source.rows).length
      (passingPairs s expected.source.rows actual.source.rows) t := by
  cases hkeyed : s.isKeyed with
  | false =>
    obtain ⟨nodes, hnodes, rfl⟩ := compare_positional_ok hkeyed h
    have hcounted := positional_counted hkeyed hpolicy hnodes
    by_cases hnone : expected.source.rows.length = 0 ∧ actual.source.rows.length = 0
    · rw [positionalReport, if_pos hnone]
      exact tally_emptyReport hcounted.paired.1 hcounted.paired.2.1 hnone
    · rw [positionalReport_eq hcaps hnone]
      exact hcounted.tally hnone fun heq => if_pos heq
  | true =>
    obtain ⟨routed, hrouted, rfl⟩ := compare_keyed_ok hkeyed h
    have hcounted := keyed_counted hkeyed hcheck hpolicy hrouted
    have hleft := leftOver_length s expected.source.rows actual.source.rows hkeyed
    obtain ⟨hpassed, hexpected, hactual⟩ := hcounted.paired
    by_cases hnone : expected.source.rows.length = 0 ∧ actual.source.rows.length = 0
    · rw [keyedReport, if_pos ⟨hnone.1, by omega⟩]
      exact tally_emptyReport hpassed hexpected hnone
    · rw [keyedReport, if_neg (by omega), hcaps]
      have htally : Tally _ _ _ _ (withRowCount (report {} _) none) :=
        hcounted.tally hnone fun _ => rfl
      exact htally

end Reconcile.Table
