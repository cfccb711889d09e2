import Reconcile.Proofs.Table.Caps
import Reconcile.Proofs.Table.KeyedRows

/-!
# The verdict of a keyed run

A keyed run that returns succeeds exactly when the two tables agree: rows pair up by key, pairs
agree cell by cell, nothing that must not be is left over, and no key comes twice. The report says
so row by row; here its rows are put together.

* `pairing`, `TablesAgree`: agreement of two tables, said without an index or a report;
* `pairing_eq`: passages take what the pairing gives; `paired_iff`, `pairs_succeed_iff`,
  `nothing_left_iff`, `no_passage_repeats`, `no_candidate_repeats`: each condition, passage by
  passage;
* `routed_success_iff`, `keyedReport_success`: when all rows of a report succeed;
* **`keyed_verdict`**: success of a run is agreement of the tables.
-/

namespace Reconcile.Table

open Reconcile.Diff Reconcile.Expectation

variable (s : Settings) (expected actual : List Row)

/-! ## 1. Agreement of two tables -/

/-- The actual row that each expected row is paired with, by first match, and what is left over. -/
def pairing : List (Option Row) × List Row := firstMatches (rowsMatch s) expected actual

/-- Two tables agree by key: every expected row is paired, every pair succeeds cell by cell, nothing
    is left over where surplus rows are failures, and neither side repeats a key where duplicates
    are looked for. -/
structure TablesAgree : Prop where
  paired : none ∉ (pairing s expected actual).1
  rows : ∀ (i : Nat) (e a : Row), expected[i]? = some e →
    (pairing s expected actual).1[i]? = some (some a) → pairSucceeds s e a = true
  surplus : s.tableExtraPolicy = .fail → (pairing s expected actual).2 = []
  distinct : s.checkDuplicates = true →
    DistinctKeys s (expected.map (expectedKey s)) ∧ DistinctKeys s (actual.map (actualKey s))

/-! ## 2. Passages and the pairing -/

theorem candidates_row : (candidates s actual).map Candidate.row = actual :=
  (candidatesFrom_map s actual 1 []).2.1

theorem passages_row : (passages s expected actual).map Passage.row = expected :=
  (passagesFrom_map s expected 1 [] _).2.1

theorem passages_taken : (passages s expected actual).map Passage.taken =
    (firstMatches (fun e c => rowsMatch s e c.row) expected (candidates s actual)).1 :=
  passagesFrom_taken s expected 1 [] _

/-- **Passages take what the pairing gives**, and leave what it leaves. -/
theorem pairing_eq : pairing s expected actual =
    ((passages s expected actual).map fun p => p.taken.map Candidate.row,
      (leftOver s expected actual).map Candidate.row) := by
  have hmap := firstMatches_map (rowsMatch s) Candidate.row expected (candidates s actual)
  rw [candidates_row] at hmap
  rw [pairing, hmap, ← passages_taken, List.map_map]
  rfl

/-- A candidate is taken by a passage or left over. -/
theorem mem_candidates_iff {c : Candidate} : c ∈ candidates s actual ↔
    (∃ p ∈ passages s expected actual, p.taken = some c) ∨ c ∈ leftOver s expected actual := by
  rw [mem_iff_taken_or_left (fun e c => rowsMatch s e c.row) expected, ← passages_taken,
    List.mem_map]
  rfl

/-- The pairing leaves no row unpaired exactly when every passage takes a candidate. -/
theorem paired_iff : none ∉ (pairing s expected actual).1 ↔
    ∀ p ∈ passages s expected actual, p.taken ≠ none := by
  rw [pairing_eq, List.mem_map, not_exists]
  refine forall_congr' fun p => ?_
  rw [not_and, Option.map_eq_none_iff]

/-- All pairs succeed exactly when every passage that takes a candidate succeeds with it. -/
theorem pairs_succeed_iff : (∀ (i : Nat) (e a : Row), expected[i]? = some e →
      (pairing s expected actual).1[i]? = some (some a) → pairSucceeds s e a = true) ↔
    ∀ p ∈ passages s expected actual, ∀ c, p.taken = some c →
      pairSucceeds s p.row c.row = true := by
  constructor
  · intro h p hp c hc
    obtain ⟨i, hi⟩ := List.mem_iff_getElem?.mp hp
    refine h i p.row c.row (passage_at s hi).2 ?_
    rw [pairing_eq, List.getElem?_map, hi, Option.map_some, hc]
    rfl
  · intro h i e a he ha
    rw [pairing_eq, List.getElem?_map] at ha
    obtain ⟨p, hp, hmap⟩ := Option.map_eq_some_iff.mp ha
    obtain rfl : p.row = e := Option.some.inj ((passage_at s hp).2.symm.trans he)
    obtain ⟨c, hc, rfl⟩ := Option.map_eq_some_iff.mp hmap
    exact h p (List.mem_of_getElem? hp) c hc

theorem nothing_left_iff :
    (pairing s expected actual).2 = [] ↔ leftOver s expected actual = [] := by
  rw [pairing_eq]
  exact List.map_eq_nil_iff

theorem no_passage_repeats : (∀ p ∈ passages s expected actual, p.repeats = none) ↔
    (s.checkDuplicates = true → DistinctKeys s (expected.map (expectedKey s))) :=
  no_repeats_iff (passagesFrom_map s expected 1 [] (candidates s actual)).2.2

theorem no_candidate_repeats : (∀ c ∈ candidates s actual, c.duplicateOf = none) ↔
    (s.checkDuplicates = true → DistinctKeys s (actual.map (actualKey s))) :=
  no_repeats_iff (candidatesFrom_map s actual 1 []).2.2

/-! ## 3. The verdict -/

variable {s expected actual}

theorem forall_iff_of_forall₂ {α β : Type} {R : α → β → Prop} {P : α → Prop} {Q : β → Prop}
    (h : ∀ a b, R a b → (Q b ↔ P a)) {as : List α} {bs : List β} (hR : List.Forall₂ R as bs) :
    (∀ b ∈ bs, Q b) ↔ ∀ a ∈ as, P a := by
  induction hR with
  | nil => exact ⟨fun _ _ => nofun, fun _ _ => nofun⟩
  | cons hab _ ih => rw [List.forall_mem_cons, List.forall_mem_cons, h _ _ hab, ih]

/-- All rows of a report succeed when every passage takes a candidate that succeeds with it, and
    nothing that is left over is a failure. -/
theorem routed_success_iff {routed : List RoutedRow} {ps : List Passage} (left : List Candidate)
    (h : List.Forall₂ (fun p r => p.route s = .ok r) ps routed) :
    ((routed ++ routeLeftovers s left).all fun r => r.row.success) = true ↔
      (∀ p ∈ ps, ∃ c, p.taken = some c ∧ pairSucceeds s p.row c.row = true ∧
        c.duplicateOf = none ∧ p.repeats = none) ∧
      ∀ c ∈ left, s.tableExtraPolicy ≠ .fail ∧ c.duplicateOf = none := by
  rw [List.all_append, Bool.and_eq_true, routeLeftovers_success, List.all_eq_true,
    forall_iff_of_forall₂ (fun p r hr => p.route_success hr) h]

/-- Where there is nothing to compare no row is routed. -/
theorem nothing_routed {routed : List RoutedRow}
    (h : List.Forall₂ (fun p r => p.route s = .ok r) (passages s expected actual) routed)
    (hnone : expected.length = 0 ∧ (leftOver s expected actual).length = 0) :
    routed ++ routeLeftovers s (leftOver s expected actual) = [] := by
  have hpassages : passages s expected actual = [] := by
    rw [← List.map_eq_nil_iff, passages_row, List.length_eq_zero_iff.mp hnone.1]
  rw [hpassages, List.forall₂_nil_left_iff] at h
  rw [h, List.length_eq_zero_iff.mp hnone.2]
  rfl

/-- A keyed report succeeds when all its rows do; when there was nothing to compare it has none. -/
theorem keyedReport_success {e left : Nat} {routed : List RoutedRow}
    (h : e = 0 ∧ left = 0 → routed = []) :
    (keyedReport s e left routed).success = routed.all fun r => r.row.success := by
  unfold keyedReport
  split
  · rename_i hnone
    rw [h hnone]
    rfl
  · exact report_success s.caps routed

/-- A keyed report without caps holds all routed rows, each in its section. -/
theorem sectionRows_keyedReport (hcaps : s.caps = {}) {e left : Nat} {routed : List RoutedRow}
    (hnone : e = 0 ∧ left = 0 → routed = []) (p : Section) :
    sectionRows (keyedReport s e left routed) p = rowsOf p routed := by
  unfold keyedReport
  split
  · rename_i h
    rw [hnone h]
    rfl
  · rw [hcaps]
    exact sectionRows_report routed none p

/-- Passages and left-over candidates succeed exactly when the tables agree. -/
theorem tablesAgree_iff : TablesAgree s expected actual ↔
    (∀ p ∈ passages s expected actual, ∃ c, p.taken = some c ∧
      pairSucceeds s p.row c.row = true ∧ c.duplicateOf = none ∧ p.repeats = none) ∧
    ∀ c ∈ leftOver s expected actual, s.tableExtraPolicy ≠ .fail ∧ c.duplicateOf = none := by
  constructor
  · intro h
    have hpaired := (paired_iff s expected actual).mp h.paired
    have hrows := (pairs_succeed_iff s expected actual).mp h.rows
    have hrepeats := (no_passage_repeats s expected actual).mpr fun hcheck => (h.distinct hcheck).1
    have hdup := (no_candidate_repeats s actual).mpr fun hcheck => (h.distinct hcheck).2
    refine ⟨fun p hp => ?_, fun c hc => ⟨fun hfail => ?_, ?_⟩⟩
    · obtain ⟨c, hc⟩ := Option.ne_none_iff_exists'.mp (hpaired p hp)
      exact ⟨c, hc, hrows p hp c hc,
        hdup c ((mem_candidates_iff s expected actual).mpr (.inl ⟨p, hp, hc⟩)), hrepeats p hp⟩
    · rw [(nothing_left_iff s expected actual).mp (h.surplus hfail)] at hc
      cases hc
    · exact hdup c ((mem_candidates_iff s expected actual).mpr (.inr hc))
  · rintro ⟨hpassages, hleft⟩
    have hdup : ∀ c ∈ candidates s actual, c.duplicateOf = none := by
      intro c hc
      rcases (mem_candidates_iff s expected actual).mp hc with ⟨p, hp, htaken⟩ | hc
      · obtain ⟨d, hd, _, hdup, _⟩ := hpassages p hp
        obtain rfl : d = c := Option.some.inj (hd.symm.trans htaken)
        exact hdup
      · exact (hleft c hc).2
    have hrepeats : ∀ p ∈ passages s expected actual, p.repeats = none := by
      intro p hp
      obtain ⟨_, _, _, _, hrepeats⟩ := hpassages p hp
      exact hrepeats
    refine ⟨(paired_iff s expected actual).mpr fun p hp => ?_,
      (pairs_succeed_iff s expected actual).mpr fun p hp c hc => ?_, fun hfail => ?_,
      fun hcheck => ⟨(no_passage_repeats s expected actual).mp hrepeats hcheck,
        (no_candidate_repeats s actual).mp hdup hcheck⟩⟩
    · obtain ⟨c, htaken, _⟩ := hpassages p hp
      rw [htaken]
      exact nofun
    · obtain ⟨d, hd, hpair, _⟩ := hpassages p hp
      obtain rfl : d = c := Option.some.inj (hd.symm.trans hc)
      exact hpair
    · refine (nothing_left_iff s expected actual).mpr (List.eq_nil_iff_forall_not_mem.mpr ?_)
      exact fun c hc => (hleft c hc).1 hfail

/-- **The verdict of a keyed run.** Whatever the caps, the tolerances of numeric columns and the
    policy for surplus rows are: a keyed run that returns succeeds exactly when the tables agree. -/
theorem keyed_verdict {s : Settings} {expected actual : Supply} {t : Tree}
    (hkeyed : s.isKeyed = true) (h : (compare s expected actual).result = .ok t) :
    t.success = true ↔ TablesAgree s expected.source.rows actual.source.rows := by
  obtain ⟨routed, hrouted, rfl⟩ := compare_keyed_ok hkeyed h
  rw [tablesAgree_iff, ← routed_success_iff _ hrouted,
    keyedReport_success (nothing_routed hrouted)]

/-- Rows in another order, a surplus one that is only reported, and no key twice. -/
theorem keyed_verdict_stock :
    let s : Settings := { keyColumns := ["Item"], checkDuplicates := true, extraPolicy := some .info }
    let expected := stockOf [("pen", "3"), ("ink", "1")]
    let actual := stockOf [("ink", "1"), ("cap", "9"), ("pen", "3")]
    ∃ t, (compare s expected actual).result = .ok t ∧ t.success = true ∧
      TablesAgree s expected.source.rows actual.source.rows := by
  intro s expected actual
  obtain ⟨t, ht, hsuccess⟩ := exists_of_any (r := (compare s expected actual).result)
    (p := Tree.success) (by decide +kernel)
  exact ⟨t, ht, hsuccess, (keyed_verdict (by decide) ht).mp hsuccess⟩

end Reconcile.Table
