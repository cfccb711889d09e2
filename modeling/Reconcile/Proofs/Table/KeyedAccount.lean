import Reconcile.Proofs.Table.KeyedVerdict

/-!
# The account of a keyed run

A keyed report without caps accounts for every row of both sides: each expected row has one row in
it, filed by its outcome, each actual row is taken at most once, and what nobody takes is reported
as surplus as far as the policy wants it.

* `TakesFirst`: which actual row each expected row takes, said by places;
* `AccountsFor`: what a report says of one expected row;
* `KeyedAccount`: what it says of all rows, section by section and in its totals;
* `takesFirst_placesTaken`, `leftOver_place`: the run takes and leaves these places;
* `passage_accounts`, `surplus_accounts`: the parts of it that speak of single rows;
* **`keyed_report_accounts`**: every keyed report with sections is such an account.
-/

namespace Reconcile.Table

open Reconcile.Diff Reconcile.Expectation

variable (s : Settings) (expected actual : List Row)

/-! ## 1. What a report accounts for -/

/-- Every expected row takes the first actual row with an equal key that no earlier one takes, so
    that no actual row is taken twice. Rows are told by their places. -/
structure TakesFirst (taken : List (Option Nat)) : Prop where
  length : taken.length = expected.length
  first : ∀ (i : Nat) (e : Row), expected[i]? = some e → ∀ j, taken[i]? = some (some j) ↔
    IsLeast {k | ∃ a, actual[k]? = some a ∧ rowsMatch s e a = true ∧ some k ∉ taken.take i} j
  once : ∀ i i' j : Nat, taken[i]? = some (some j) → taken[i']? = some (some j) → i = i'

/-- The row of a report for the expected row at a place: it bears its number, is filed by its
    outcome, and shows how it compares to the actual row that it takes. -/
structure AccountsFor (i : Nat) (row : Row) (counterpart : Option Row) (r : RoutedRow) : Prop where
  name : ∃ marks, r.row.name = some (s!"Row #{i + 1}" ++ marks)
  filed : r.Filed
  found : r.place = .notFound ↔ counterpart = none
  fields : ∀ a, counterpart = some a → ∃ tree,
    comparePair s s!"Row #{i + 1}" row a = .ok tree ∧ r.row.fields = tree.fields

/-- The row of a report for the surplus row at a place. -/
structure AccountsForSurplus (j : Nat) (row : Tree) : Prop where
  name : ∃ marks, row.name = some (s!"Extra row #{j + 1}" ++ marks)
  fields : ∃ a, actual[j]? = some a ∧ row.fields = (extraRow s s!"Extra row #{j + 1}" a).fields

/-- The places of the surplus rows that are reported: all that nobody takes or, where surplus rows
    are ignored, those of them that are flagged as duplicates. -/
def surplusPlaces (taken : List (Option Nat)) (flagged : Nat → Bool) : List Nat :=
  ((List.range actual.length).filter fun j => some j ∉ taken).filter fun j =>
    s.tableExtraPolicy != .ignore || flagged j

/-- The report accounts for all rows: for each expected row by one of the results, which are the
    rows of the first three sections, and for the surplus rows in the last one. Its comment tells
    how many rows it has, and how many of them succeed and fail. -/
structure KeyedAccount (taken : List (Option Nat)) (flagged : Nat → Bool)
    (results : List RoutedRow) (extras : List Tree) (t : Tree) : Prop where
  takes : TakesFirst s expected actual taken
  flags : FlagsRepeats s (actual.map (actualKey s)) flagged
  length : results.length = expected.length
  rows : ∀ (i : Nat) (e : Row) (r : RoutedRow), expected[i]? = some e → results[i]? = some r →
    AccountsFor s i e (taken[i]?.join.bind fun j => actual[j]?) r
  surplus : List.Forall₂ (AccountsForSurplus s actual) (surplusPlaces s actual taken flagged) extras
  sections : t.children.map (fun c => (c.name, c.children)) =
    [(some "Passed rows", rowsOf .passed results), (some "Failed rows", rowsOf .failed results),
      (some "Not found rows", rowsOf .notFound results), (some "Extra rows", extras)]
  totals : ∃ rows passed : Nat, rows = (t.children.flatMap Tree.children).length ∧
    passed = (t.children.flatMap Tree.children).countP Tree.success ∧
    t.comment = some s!"Processed {rows} rows: {passed} passed / {rows - passed} failed"

/-! ## 2. Places of candidates -/

/-- The place of the actual row of a candidate. -/
def Candidate.place (c : Candidate) : Nat := c.number - 1

/-- Whether the actual row at a place has the key of an expected row. -/
def matchesAt (e : Row) (j : Nat) : Bool := actual[j]?.any (rowsMatch s e)

/-- The places that the expected rows take. -/
def placesTaken : List (Option Nat) :=
  (firstMatches (matchesAt s actual) expected (List.range actual.length)).1

/-- The flags of the actual rows. -/
def actualFlags : Nat → Bool :=
  flagAt (repeatsFrom s (fun n => s!"Actual row #{n}") 1 [] (actual.map (actualKey s)))

variable {s expected actual}

/-- A candidate tells its place, its row and whether it is flagged. -/
theorem candidate_of_mem {c : Candidate} (h : c ∈ candidates s actual) :
    c.number = c.place + 1 ∧ actual[c.place]? = some c.row ∧
      actualFlags s actual c.place = c.duplicateOf.isSome := by
  obtain ⟨j, hj⟩ := List.mem_iff_getElem?.mp h
  obtain ⟨hnumber, hrow, hdup⟩ := candidate_at s hj
  have hplace : c.place = j := by rw [Candidate.place, hnumber, Nat.add_sub_cancel]
  rw [hplace, actualFlags, flagAt, hdup, Option.any_some]
  exact ⟨hnumber, hrow, rfl⟩

variable (s actual) in
theorem candidates_place : (candidates s actual).map Candidate.place = List.range actual.length := by
  have hnumber : (candidates s actual).map Candidate.number = List.range' 1 actual.length :=
    (candidatesFrom_map s actual 1 []).1
  have hsub : (candidates s actual).map Candidate.place =
      ((candidates s actual).map Candidate.number).map (· - 1) := by
    rw [List.map_map]
    rfl
  rw [hsub, hnumber, List.map_sub_range' (by omega), List.range_eq_range']

variable (s expected actual) in
/-- Pairing by places is pairing by candidates. -/
theorem firstMatches_place : firstMatches (matchesAt s actual) expected (List.range actual.length) =
    ((passages s expected actual).map fun p => p.taken.map Candidate.place,
      (leftOver s expected actual).map Candidate.place) := by
  have hcongr : firstMatches (fun e c => matchesAt s actual e c.place) expected
      (candidates s actual) =
      firstMatches (fun e c => rowsMatch s e c.row) expected (candidates s actual) := by
    refine firstMatches_congr expected fun e c hc => ?_
    rw [matchesAt, (candidate_of_mem hc).2.1, Option.any_some]
  rw [← candidates_place, firstMatches_map, hcongr, ← passages_taken, List.map_map]
  rfl

theorem placesTaken_eq : placesTaken s expected actual =
    (passages s expected actual).map fun p => p.taken.map Candidate.place := by
  rw [placesTaken, firstMatches_place]

/-- **The run takes first matches**, and none of them twice. -/
theorem takesFirst_placesTaken : TakesFirst s expected actual (placesTaken s expected actual) := by
  have hfirst : ∀ (i : Nat) (e : Row), expected[i]? = some e → ∀ j,
      (placesTaken s expected actual)[i]? = some (some j) ↔
        IsLeast {k | ∃ a, actual[k]? = some a ∧ rowsMatch s e a = true ∧
          some k ∉ (placesTaken s expected actual).take i} j := by
    intro i e he j
    have hset : ∀ k, (k < actual.length ∧ matchesAt s actual e k = true ∧
        some k ∉ (placesTaken s expected actual).take i) ↔
        ∃ a, actual[k]? = some a ∧ rowsMatch s e a = true ∧
          some k ∉ (placesTaken s expected actual).take i := by
      intro k
      rw [matchesAt, Option.any_eq_true]
      constructor
      · rintro ⟨_, ⟨a, ha, hmatch⟩, hfree⟩
        exact ⟨a, ha, hmatch, hfree⟩
      · rintro ⟨a, ha, hmatch, hfree⟩
        exact ⟨(List.getElem?_eq_some_iff.mp ha).1, ⟨a, ha, hmatch⟩, hfree⟩
    rw [placesTaken, taken_isLeast _ he, ← placesTaken]
    simp only [hset]
  exact ⟨taken_length _ _ _, hfirst, fun _ _ _ => taken_once _ List.nodup_range⟩

/-- What is left over stands at the places that nobody takes. -/
theorem leftOver_place : (leftOver s expected actual).map Candidate.place =
    (List.range actual.length).filter fun j => some j ∉ placesTaken s expected actual := by
  have hleft := left_eq_untaken (matchesAt s actual) expected
    (List.nodup_range (n := actual.length))
  rw [← placesTaken, firstMatches_place] at hleft
  exact hleft

/-! ## 3. Rows of the report -/

theorem leftOver_mem {c : Candidate} (h : c ∈ leftOver s expected actual) :
    c ∈ candidates s actual := (mem_candidates_iff s expected actual).mpr (.inr h)

/-- The reported ones of the left-over candidates stand at the surplus places. -/
theorem reported_place : ((leftOver s expected actual).filter (isReported s)).map Candidate.place =
    surplusPlaces s actual (placesTaken s expected actual) (actualFlags s actual) := by
  have hreported : ∀ c ∈ leftOver s expected actual, isReported s c =
      (s.tableExtraPolicy != .ignore || actualFlags s actual c.place) := by
    intro c hc
    rw [isReported, (candidate_of_mem (leftOver_mem hc)).2.2]
  rw [List.filter_congr hreported, surplusPlaces, ← leftOver_place, List.filter_map]
  rfl

/-- The row of a left-over candidate accounts for the actual row at its place. -/
theorem surplusRow_accounts {c : Candidate} (h : c ∈ candidates s actual) :
    AccountsForSurplus s actual c.place (surplusRow s c) := by
  obtain ⟨hnumber, hrow, _⟩ := candidate_of_mem h
  refine ⟨⟨markText c.duplicateOf, ?_⟩, c.row, hrow, ?_⟩
  · rw [surplusRow_name, hnumber]
  · rw [surplusRow, markIf_fields, hnumber]

theorem surplus_accounts : List.Forall₂ (AccountsForSurplus s actual)
    (surplusPlaces s actual (placesTaken s expected actual) (actualFlags s actual))
    (((leftOver s expected actual).filter (isReported s)).map (surplusRow s)) := by
  rw [← reported_place, List.forall₂_map_left_iff, List.forall₂_map_right_iff, List.forall₂_same]
  exact fun c hc => surplusRow_accounts (leftOver_mem (List.mem_filter.mp hc).1)

/-- Every expected row is routed, at its place. -/
theorem routed_length {routed : List RoutedRow}
    (h : List.Forall₂ (fun p r => p.route s = .ok r) (passages s expected actual) routed) :
    routed.length = expected.length := by
  rw [← h.length_eq, ← List.length_map Passage.row, passages_row]

theorem routed_at {routed : List RoutedRow}
    (h : List.Forall₂ (fun p r => p.route s = .ok r) (passages s expected actual) routed)
    {i : Nat} {r : RoutedRow} (hr : routed[i]? = some r) :
    ∃ p, (passages s expected actual)[i]? = some p ∧ p.route s = .ok r := by
  obtain ⟨hi, rfl⟩ := List.getElem?_eq_some_iff.mp hr
  have hp : i < (passages s expected actual).length := by rwa [h.length_eq]
  exact ⟨_, List.getElem?_eq_getElem hp, h.get hp hi⟩

theorem routed_ne_extra {routed : List RoutedRow}
    (h : List.Forall₂ (fun p r => p.route s = .ok r) (passages s expected actual) routed) :
    ∀ r ∈ routed, r.place ≠ .extra := by
  intro r hr
  obtain ⟨i, hi⟩ := List.mem_iff_getElem?.mp hr
  obtain ⟨p, _, hroute⟩ := routed_at h hi
  exact (p.route_filed hroute).expected

/-- A routed row accounts for the expected row of its passage. -/
theorem passage_accounts {i : Nat} {e : Row} {p : Passage} {r : RoutedRow}
    (he : expected[i]? = some e) (hp : (passages s expected actual)[i]? = some p)
    (h : p.route s = .ok r) : AccountsFor s i e
      ((placesTaken s expected actual)[i]?.join.bind fun j => actual[j]?) r := by
  obtain ⟨hnumber, hrow⟩ := passage_at s hp
  obtain rfl : p.row = e := Option.some.inj (hrow.symm.trans he)
  -- the place that is taken leads back to the row of the candidate
  have hcounterpart : ((placesTaken s expected actual)[i]?.join.bind fun j => actual[j]?) =
      p.taken.map Candidate.row := by
    rw [placesTaken_eq, List.getElem?_map, hp, Option.map_some, Option.join_some]
    cases htaken : p.taken with
    | none => rfl
    | some c =>
      have hmem := (mem_candidates_iff s expected actual).mpr
        (.inl ⟨p, List.mem_of_getElem? hp, htaken⟩)
      exact (candidate_of_mem hmem).2.1
  rw [hcounterpart]
  refine ⟨⟨markText (p.taken.bind Candidate.duplicateOf) ++ markText p.repeats, ?_⟩,
    p.route_filed h, ?_, fun a ha => ?_⟩
  · rw [p.route_name h, hnumber, String.append_assoc]
  · rw [p.route_notFound h, Option.map_eq_none_iff]
  · obtain ⟨c, htaken, rfl⟩ := Option.map_eq_some_iff.mp ha
    rw [← hnumber]
    exact p.route_fields h htaken

/-! ## 4. The account -/

/-- The report of a run without caps: its results, and the surplus rows after them. -/
theorem keyedReport_eq {e left : Nat} {results : List RoutedRow} {remaining : List Candidate}
    (hcaps : s.caps = {})
    (h : (keyedReport s e left (results ++ routeLeftovers s remaining)).children ≠ []) :
    keyedReport s e left (results ++ routeLeftovers s remaining) =
      report {} (results ++
        ((remaining.filter (isReported s)).map (surplusRow s)).map fun row => ⟨.extra, row⟩) := by
  rw [routeLeftovers_eq, List.map_map]
  unfold keyedReport at h ⊢
  split at h
  · exact absurd rfl h
  · rename_i hsome
    rw [if_neg hsome, hcaps]
    rfl

/-- **A keyed report accounts for every row.** Without caps, whatever the policy for surplus rows
    and the tolerances of numeric columns are: when a keyed run gives a report with sections, each
    expected row has one row in it, filed by its outcome and compared to the first actual row with
    its key that no earlier one takes; no actual row is taken twice, and those that nobody takes
    are reported as surplus in their order, all of them or, where they are ignored, the duplicates. -/
theorem keyed_report_accounts {s : Settings} {expected actual : Supply} {t : Tree}
    (hkeyed : s.isKeyed = true) (hcaps : s.caps = {})
    (h : (compare s expected actual).result = .ok t) (hsections : t.children ≠ []) :
    ∃ taken flagged results extras, KeyedAccount s expected.source.rows actual.source.rows
      taken flagged results extras t := by
  obtain ⟨routed, hrouted, rfl⟩ := compare_keyed_ok hkeyed h
  generalize expected.source.rows = es at *
  generalize actual.source.rows = as at *
  rw [keyedReport_eq hcaps hsections]
  refine ⟨placesTaken s es as, actualFlags s as, routed, _, takesFirst_placesTaken,
    repeatsFrom_flags _ _ _, routed_length hrouted, fun i e r he hr => ?_, surplus_accounts,
    report_sections (routed_ne_extra hrouted) _, report_totals _⟩
  obtain ⟨p, hp, hroute⟩ := routed_at hrouted hr
  exact passage_accounts he hp hroute

/-- Two rows of one key, of which the second is a duplicate that nobody takes and that is reported
    although surplus rows are ignored; the other surplus row is not. -/
theorem keyed_report_accounts_stock :
    let s : Settings :=
      { keyColumns := ["Item"], checkDuplicates := true, extraPolicy := some .ignore }
    let expected := stockOf [("pen", "3"), ("ink", "1"), ("pad", "2")]
    let actual := stockOf [("ink", "4"), ("pen", "3"), ("cap", "9"), ("ink", "1")]
    ∃ t, (compare s expected actual).result = .ok t ∧ t.children ≠ [] ∧
      ∃ taken flagged results extras, KeyedAccount s expected.source.rows actual.source.rows
        taken flagged results extras t := by
  intro s expected actual
  obtain ⟨t, ht, hsome⟩ := exists_of_any (r := (compare s expected actual).result)
    (p := fun t => !t.children.isEmpty) (by decide +kernel)
  have hsome : t.children ≠ [] := by simpa using hsome
  exact ⟨t, ht, hsome, keyed_report_accounts (by decide) rfl ht hsome⟩

end Reconcile.Table
