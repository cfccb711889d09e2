import Reconcile.Proofs.Table.PositionalAccount
import Reconcile.Proofs.Table.Release

/-!
# Runs that succeed

A run gives a report that succeeds exactly when it reads both its sources to their end and the two
tables agree, by key or by place. In particular tables that agree let no cell break the run off.

* `PlacesAgree`: agreement of two tables by place; `RunSucceeds`: what a successful run takes;
* `comparePair_of_pairSucceeds`: a pair that succeeds can be compared;
* `compareKeyed_of_agree`, `comparePositional_of_agree`: sources whose rows agree;
* **`compare_succeeds_iff`**: when a run succeeds.
-/

namespace Reconcile.Table

open Reconcile.Diff

section Success

variable (s : Settings)

/-- Two tables agree by place: they have equally many rows, and the rows of every place succeed cell
    by cell. -/
structure PlacesAgree (expected actual : List Row) : Prop where
  length : expected.length = actual.length
  rows : ∀ (i : Nat) (e a : Row), expected[i]? = some e → actual[i]? = some a →
    pairSucceeds s e a = true

/-- A run reads both its sources to their end, and their tables agree, by key when there are key
    columns and by place otherwise. -/
structure RunSucceeds (expected actual : Supply) : Prop where
  complete : RunComplete s expected actual
  keyed : s.isKeyed = true → TablesAgree s expected.source.rows actual.source.rows
  positional : s.isKeyed = false → PlacesAgree s expected.source.rows actual.source.rows

end Success

variable {s : Settings}

/-- A pair whose cells all pass can be compared, whatever its name is. -/
theorem comparePair_of_pairSucceeds {expected actual : Row}
    (h : pairSucceeds s expected actual = true) (name : String) :
    ∃ tree, comparePair s name expected actual = .ok tree :=
  comparePair_returns_iff.mpr fun column hcolumn =>
    have ⟨leaf, hleaf, _⟩ := exists_of_any (List.all_eq_true.mp h column hcolumn)
    ⟨leaf, hleaf⟩

/-! ## 1. By key -/

/-- A keyed run over sources that are read to their end succeeds when their tables agree. -/
theorem compareKeyed_of_agree {expected actual : Source} (he : expected.ReadToEnd)
    (ha : actual.ReadToEnd) (h : TablesAgree s expected.rows actual.rows) :
    ∃ t, (compareKeyed s expected actual).result = .ok t ∧ t.success = true := by
  rw [tablesAgree_iff] at h
  obtain ⟨routed, hrouted⟩ : ∃ routed,
      (passages s expected.rows actual.rows).mapM (Passage.route s) = .ok routed := by
    refine mapM_returns_iff.mpr fun p hp => Passage.route_returns_iff.mpr fun c hc => ?_
    obtain ⟨d, hd, hpair, _⟩ := h.1 p hp
    obtain rfl := Option.some.inj (hd.symm.trans hc)
    exact comparePair_of_pairSucceeds hpair _
  have hroutes := mapM_eq_ok_iff.mp hrouted
  refine ⟨_, by rw [compareKeyed_result he.fault ha.fault, hrouted], ?_⟩
  rw [keyedReport_success (nothing_routed hroutes)]
  exact (routed_success_iff _ hroutes).mpr h

/-! ## 2. By place -/

/-- Whether the report of a positional run succeeds. -/
theorem positionalReport_success {expected actual : List Row} {pairs : List Tree}
    (h : pairNodes s 1 (expected.zip actual) = .ok pairs) :
    (positionalReport s expected.length actual.length
        (positionalRows s 1 pairs expected actual)).success = true ↔
      PlacesAgree s expected actual := by
  rw [positionalReport]
  split
  · rename_i hnone
    obtain ⟨he, ha⟩ := hnone
    refine iff_of_true rfl ⟨he.trans ha.symm, fun i e a hexpected => ?_⟩
    rw [List.length_eq_zero_iff.mp he] at hexpected
    cases hexpected
  · dsimp only
    split
    · rename_i hlength
      rw [report_success, positionalRows_of_length_eq hlength, List.all_map, List.all_eq_true]
      exact ((pairNodes_success h).trans ⟨fun hrows => ⟨hlength, hrows⟩, fun hagree => hagree.rows⟩)
    · rename_i hlength
      refine iff_of_false ?_ fun hagree => hlength hagree.length
      rw [← withRowCount, withRowCount_success, Option.isNone_some, Bool.and_false]
      exact Bool.false_ne_true

/-- A positional run over sources that are read to their end succeeds when their tables agree. -/
theorem comparePositional_of_agree {expected actual : Source} (he : expected.ReadToEnd)
    (ha : actual.ReadToEnd) (h : PlacesAgree s expected.rows actual.rows) :
    ∃ t, (comparePositional s expected actual).result = .ok t ∧ t.success = true := by
  obtain ⟨pairs, hpairs⟩ : ∃ pairs,
      pairNodes s 1 (expected.rows.zip actual.rows) = .ok pairs := by
    refine mapM_returns_iff.mpr fun q hq => comparePair_of_pairSucceeds ?_ _
    obtain ⟨i, hi⟩ := List.mem_iff_getElem?.mp hq
    rw [List.getElem?_zipIdx] at hi
    obtain ⟨pair, hpair, rfl⟩ := Option.map_eq_some_iff.mp hi
    obtain ⟨hexpected, hactual⟩ := List.getElem?_zip_eq_some.mp hpair
    exact h.rows i _ _ hexpected hactual
  refine ⟨_, by rw [comparePositional_result he.fault ha.fault, hpairs], ?_⟩
  exact (positionalReport_success hpairs).mpr h

/-! ## 3. Runs -/

/-- A run whose sources open compares them. -/
theorem compare_of_opens {expected actual : Supply} (he : expected.Opens) (ha : actual.Opens) :
    (compare s expected actual).result =
      (compareSources s expected.source actual.source).result := by
  unfold compare runSources
  rw [he.acquire, ha.acquire]

/-- **A run succeeds** exactly when both its sources are read to their end and their tables agree. -/
theorem compare_succeeds_iff {expected actual : Supply} :
    (∃ t, (compare s expected actual).result = .ok t ∧ t.success = true) ↔
      RunSucceeds s expected actual := by
  constructor
  · rintro ⟨t, ht, hsuccess⟩
    refine ⟨compare_complete ht, fun hkeyed => ?_, fun hkeyed => ?_⟩
    · obtain ⟨routed, hrouted, rfl⟩ := compare_keyed_ok hkeyed ht
      rw [keyedReport_success (nothing_routed hrouted)] at hsuccess
      exact tablesAgree_iff.mpr ((routed_success_iff _ hrouted).mp hsuccess)
    · obtain ⟨pairs, hpairs, rfl⟩ := compare_positional_ok hkeyed ht
      exact (positionalReport_success hpairs).mp hsuccess
  · rintro ⟨hcomplete, hagreeByKey, hagreeByPlace⟩
    rw [compare_of_opens hcomplete.expectedOpens hcomplete.actualOpens]
    cases hkeyed : s.isKeyed with
    | true =>
      obtain ⟨hexpected, hactual, hcolumns⟩ := hcomplete.headers hkeyed
      rw [compareSources_of_headers hkeyed hexpected hactual, checkKeyColumns_ok_iff.mpr hcolumns]
      exact compareKeyed_of_agree hcomplete.expectedRows hcomplete.actualRows (hagreeByKey hkeyed)
    | false =>
      rw [compareSources_of_positional hkeyed]
      exact comparePositional_of_agree hcomplete.expectedRows hcomplete.actualRows
        (hagreeByPlace hkeyed)

end Reconcile.Table
