import Reconcile.Proofs.Table.FirstRepeats
import Reconcile.Proofs.Table.KeyedAccount

/-!
# Marks of duplicates

Where duplicates are looked for, a row of a keyed report is marked when its expected row repeats an
earlier one, and when the actual row that it takes or reports does. Between keys without a
tolerance every mark names the first row with the key. A marked row fails, and an actual row that
repeats another one is reported even where surplus rows are ignored.

* `MarkedRow`, `DuplicateAccount`: what a report says of repeated rows;
* `candidate_duplicateOf`, `passage_repeats`: the names that a run gives to them;
* `passage_marked`, `surplus_marked`: the marks of single rows;
* **`keyed_report_marks_duplicates`**: every keyed report marks repeated rows so.
-/

namespace Reconcile.Table

open Reconcile.Diff Reconcile.Expectation

variable (s : Settings) (expected actual : List Row)

/-! ## 1. What a report says of repeated rows -/

/-- The name of an expected row, by its place. -/
def rowName (i : Nat) : String := s!"Row #{i + 1}"

/-- The name of an actual row, by its place. -/
def actualRowName (j : Nat) : String := s!"Actual row #{j + 1}"

/-- A row of a report with the marks that it bears: one for the first actual row with the key of
    its actual row, and one for the first expected row with the key of its expected row. A row that
    bears a mark fails. -/
structure MarkedRow (name : String) (firstActual firstExpected : Option Nat) (r : RoutedRow) :
    Prop where
  name : r.row.name = some (name ++ markText (firstActual.map actualRowName) ++
    markText (firstExpected.map rowName))
  fails : firstActual.isSome = true ∨ firstExpected.isSome = true →
    r.row.success = false ∧ r.place ≠ .passed

/-- The report marks all rows that repeat an earlier one of their side, and no others: the rows of
    its sections are one result for each expected row, marked for itself and for the actual row that
    it takes, and the surplus rows, marked for themselves. Every actual row that repeats an earlier
    one is taken, or is among the surplus rows. -/
structure DuplicateAccount (taken : List (Option Nat)) (firstExpected firstActual : Nat → Option Nat)
    (results : List RoutedRow) (extras : List Tree) (t : Tree) : Prop where
  takes : TakesFirst s expected actual taken
  expectedRepeats : RepeatsFirst s (expected.map (expectedKey s)) firstExpected
  actualRepeats : RepeatsFirst s (actual.map (actualKey s)) firstActual
  length : results.length = expected.length
  rows : ∀ (i : Nat) (e : Row) (r : RoutedRow), expected[i]? = some e → results[i]? = some r →
    AccountsFor s i e (taken[i]?.join.bind fun j => actual[j]?) r ∧
      MarkedRow (rowName i) (taken[i]?.join.bind firstActual) (firstExpected i) r
  surplus : List.Forall₂ (fun j row => AccountsForSurplus s actual j row ∧
      MarkedRow s!"Extra row #{j + 1}" (firstActual j) none ⟨.extra, row⟩)
    (surplusPlaces s actual taken fun j => (firstActual j).isSome) extras
  sections : ∀ p : Section,
    sectionRows t p = rowsOf p (results ++ extras.map fun row => ⟨.extra, row⟩)
  reported : ∀ j < actual.length, (firstActual j).isSome = true →
    some j ∈ taken ∨ j ∈ surplusPlaces s actual taken fun j => (firstActual j).isSome

/-! ## 2. Names of repeated rows -/

variable {s expected actual}

theorem keys_isRowKey_expected : ∀ k ∈ expected.map (expectedKey s), IsRowKey s k := by
  intro k hk
  obtain ⟨row, _, rfl⟩ := List.mem_map.mp hk
  exact expectedKey_isRowKey s row

theorem keys_isRowKey_actual : ∀ k ∈ actual.map (actualKey s), IsRowKey s k := by
  intro k hk
  obtain ⟨row, _, rfl⟩ := List.mem_map.mp hk
  exact actualKey_isRowKey s row

section Names

variable (hexact : ExactKeys s) (hcheck : s.checkDuplicates = true)
include hexact hcheck

/-- A candidate that repeats an earlier one bears the name of the first row with its key. -/
theorem candidate_duplicateOf {c : Candidate} (h : c ∈ candidates s actual) :
    c.duplicateOf = (firstBefore s (actual.map (actualKey s)) c.place).map actualRowName := by
  obtain ⟨j, hj⟩ := List.mem_iff_getElem?.mp h
  obtain ⟨hnumber, hrow, hdup⟩ := candidate_at s hj
  have hplace : c.place = j := by rw [Candidate.place, hnumber, Nat.add_sub_cancel]
  have hlt : j < (actual.map (actualKey s)).length := by
    rw [List.length_map]
    exact (List.getElem?_eq_some_iff.mp hrow).1
  rw [repeatsFrom_getElem? hexact hcheck _ keys_isRowKey_actual hlt] at hdup
  rw [hplace]
  exact (Option.some.inj hdup).symm

/-- An expected row that repeats an earlier one bears the name of the first row with its key. -/
theorem passage_repeats {i : Nat} {p : Passage} (h : (passages s expected actual)[i]? = some p) :
    p.repeats = (firstBefore s (expected.map (expectedKey s)) i).map rowName := by
  have hrepeats := getElem?_of_map_eq (passagesFrom_map s expected 1 [] (candidates s actual)).2.2 h
  have hlt : i < (expected.map (expectedKey s)).length := by
    rw [List.length_map]
    exact (List.getElem?_eq_some_iff.mp (passage_at s h).2).1
  rw [repeatsFrom_getElem? hexact hcheck _ keys_isRowKey_expected hlt] at hrepeats
  exact (Option.some.inj hrepeats).symm

/-! ## 3. Marks of rows -/

/-- The row of a passage bears its marks. -/
theorem passage_marked {i : Nat} {p : Passage} {r : RoutedRow}
    (hp : (passages s expected actual)[i]? = some p) (h : p.route s = .ok r) :
    MarkedRow (rowName i)
      ((placesTaken s expected actual)[i]?.join.bind
        (firstBefore s (actual.map (actualKey s))))
      (firstBefore s (expected.map (expectedKey s)) i) r := by
  have hmark : ((placesTaken s expected actual)[i]?.join.bind
      (firstBefore s (actual.map (actualKey s)))).map actualRowName =
      p.taken.bind Candidate.duplicateOf := by
    rw [placesTaken_eq, List.getElem?_map, hp, Option.map_some, Option.join_some]
    cases htaken : p.taken with
    | none => rfl
    | some c =>
      have hmem := (mem_candidates_iff s expected actual).mpr
        (.inl ⟨p, List.mem_of_getElem? hp, htaken⟩)
      exact (candidate_duplicateOf hexact hcheck hmem).symm
  have hrepeats := passage_repeats hexact hcheck hp
  constructor
  · rw [p.route_name h, (passage_at s hp).1, hrepeats, hmark]
    rfl
  · intro hmarked
    have hfails : r.row.success = false := by
      refine Bool.eq_false_iff.mpr fun hsuccess => ?_
      obtain ⟨c, htaken, _, hdup, hnone⟩ := (p.route_success h).mp hsuccess
      rcases hmarked with hmarked | hmarked
      · rw [← Option.isSome_map (f := actualRowName), hmark, htaken, Option.bind_some, hdup]
          at hmarked
        cases hmarked
      · rw [← Option.isSome_map (f := rowName), ← hrepeats, hnone] at hmarked
        cases hmarked
    refine ⟨hfails, fun hplace => ?_⟩
    rw [(p.route_filed h).passed.mp hplace] at hfails
    cases hfails

/-- The row of a left-over candidate bears its mark. -/
theorem surplusRow_marked {c : Candidate} (h : c ∈ candidates s actual) :
    MarkedRow s!"Extra row #{c.place + 1}"
      (firstBefore s (actual.map (actualKey s)) c.place) none ⟨.extra, surplusRow s c⟩ := by
  have hdup := candidate_duplicateOf hexact hcheck h
  constructor
  · rw [surplusRow_name, (candidate_of_mem h).1, hdup]
    exact congrArg some (String.append_empty).symm
  · rintro (hmarked | hmarked)
    · refine ⟨Bool.eq_false_iff.mpr fun hsuccess => ?_, nofun⟩
      rw [← Option.isSome_map (f := actualRowName), ← hdup,
        ((surplusRow_success s c).mp hsuccess).2] at hmarked
      cases hmarked
    · cases hmarked

/-- A flagged row is one whose key has an earlier place. -/
theorem actualFlags_eq {j : Nat} (hj : j < actual.length) :
    actualFlags s actual j = (firstBefore s (actual.map (actualKey s)) j).isSome := by
  have hlt : j < (actual.map (actualKey s)).length := by rwa [List.length_map]
  rw [actualFlags, flagAt, repeatsFrom_getElem? hexact hcheck _ keys_isRowKey_actual hlt,
    Option.any_some, Option.isSome_map]

variable (taken : List (Option Nat)) in
theorem surplusPlaces_eq : surplusPlaces s actual taken (actualFlags s actual) =
    surplusPlaces s actual taken
      fun j => (firstBefore s (actual.map (actualKey s)) j).isSome := by
  refine List.filter_congr fun j hj => ?_
  rw [actualFlags_eq hexact hcheck (List.mem_range.mp (List.mem_filter.mp hj).1)]

variable (expected actual) in
/-- The surplus rows are those of the left-over candidates that are reported, each with its mark. -/
theorem surplus_marked : List.Forall₂ (fun j row => AccountsForSurplus s actual j row ∧
      MarkedRow s!"Extra row #{j + 1}" (firstBefore s (actual.map (actualKey s)) j) none
        ⟨.extra, row⟩)
    (surplusPlaces s actual (placesTaken s expected actual)
      fun j => (firstBefore s (actual.map (actualKey s)) j).isSome)
    (((leftOver s expected actual).filter (isReported s)).map (surplusRow s)) := by
  rw [← surplusPlaces_eq hexact hcheck, ← reported_place, List.forall₂_map_left_iff,
    List.forall₂_map_right_iff, List.forall₂_same]
  intro c hc
  have hmem := leftOver_mem (List.mem_filter.mp hc).1
  exact ⟨surplusRow_accounts hmem, surplusRow_marked hexact hcheck hmem⟩

end Names

/-! ## 4. The report -/

/-- Every actual row is taken, or it is left over; one that repeats another is then reported. -/
theorem taken_or_surplus {taken : List (Option Nat)} {flagged : Nat → Bool} {j : Nat}
    (hj : j < actual.length) (h : flagged j = true) :
    some j ∈ taken ∨ j ∈ surplusPlaces s actual taken flagged := by
  by_cases htaken : some j ∈ taken
  · exact .inl htaken
  · refine .inr (List.mem_filter.mpr ⟨List.mem_filter.mpr ⟨List.mem_range.mpr hj, ?_⟩, ?_⟩)
    · exact decide_eq_true htaken
    · rw [h, Bool.or_true]

/-- **Duplicates are marked over a whole run.** Whatever the policy for surplus rows is: without
    caps and tolerances, a keyed run that looks for duplicates and returns marks the rows that
    repeat an earlier one of their side, and no others; every mark names the first row of that side
    with the key, every marked row fails and is not among the passed ones, and every actual row that
    repeats an earlier one is in the report. -/
theorem keyed_report_marks_duplicates {s : Settings} {expected actual : Supply} {t : Tree}
    (hkeyed : s.isKeyed = true) (hcheck : s.checkDuplicates = true) (hexact : ExactKeys s)
    (hcaps : s.caps = {}) (h : (compare s expected actual).result = .ok t) :
    ∃ taken firstExpected firstActual results extras,
      DuplicateAccount s expected.source.rows actual.source.rows
        taken firstExpected firstActual results extras t := by
  obtain ⟨routed, hrouted, rfl⟩ := compare_keyed_ok hkeyed h
  generalize expected.source.rows = es at *
  generalize actual.source.rows = as at *
  refine ⟨placesTaken s es as, firstBefore s (es.map (expectedKey s)),
    firstBefore s (as.map (actualKey s)), routed,
    ((leftOver s es as).filter (isReported s)).map (surplusRow s), takesFirst_placesTaken,
    firstBefore_repeatsFirst _, firstBefore_repeatsFirst _, routed_length hrouted,
    fun i e r he hr => ?_, surplus_marked es as hexact hcheck, fun p => ?_,
    fun j hj hrepeats => taken_or_surplus hj hrepeats⟩
  · obtain ⟨p, hp, hroute⟩ := routed_at hrouted hr
    exact ⟨passage_accounts he hp hroute, passage_marked hexact hcheck hp hroute⟩
  · rw [sectionRows_keyedReport hcaps (nothing_routed hrouted), routeLeftovers_eq, List.map_map]
    rfl

/-- Each side has one key twice, written differently: the second expected row takes the actual row
    that repeats the first one, and the last actual row is reported although surplus rows are
    ignored. -/
theorem keyed_report_marks_duplicates_stock :
    let s : Settings :=
      { keyColumns := ["Item"], numericColumns := [("Item", ⟨false, 0, 2⟩)], checkDuplicates := true
        extraPolicy := some .ignore }
    let expected := stockOf [("7", "3"), ("7.0", "1")]
    let actual := stockOf [("07", "3"), ("7", "1"), ("7.00", "2")]
    ∃ t, (compare s expected actual).result = .ok t ∧ sectionRows t .extra ≠ [] ∧
      ∃ taken firstExpected firstActual results extras,
        DuplicateAccount s expected.source.rows actual.source.rows
          taken firstExpected firstActual results extras t := by
  intro s expected actual
  obtain ⟨t, ht, hsome⟩ := exists_of_any (r := (compare s expected actual).result)
    (p := fun t => !(sectionRows t .extra).isEmpty) (by decide +kernel)
  have hexact : ExactKeys s := by
    intro c hc p hp
    obtain rfl : c = "Item" := List.mem_singleton.mp hc
    obtain rfl : ⟨false, 0, 2⟩ = p := Option.some.inj hp
    rfl
  exact ⟨t, ht, by simpa using hsome,
    keyed_report_marks_duplicates (by decide) rfl hexact rfl ht⟩

end Reconcile.Table
