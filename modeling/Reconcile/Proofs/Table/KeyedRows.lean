import Reconcile.Proofs.Table.KeyedRun
import Reconcile.Proofs.Table.RowNodes
import Reconcile.Proofs.Table.Sections

/-!
# Rows of a keyed report

What the report of a keyed run says of a single row: of an expected one whose passage was routed,
and of a candidate that is left over. A row that repeats another one is marked in its name and
fails, wherever it is filed.

* `markText`, `markIf_success`, `markIf_name`: marks;
* `Passage.route_name`, `Passage.route_success`, **`Passage.route_filed`**: a routed row has the
  number of its passage in its name, and is filed among the passed rows exactly when it succeeds;
* `isReported`, `routeLeftovers_eq`, `rowsOf_leftovers`, **`routeLeftovers_success`**: which
  candidates are reported as surplus, and when none of them fails.
-/

namespace Reconcile.Table

open Reconcile.Diff Reconcile.Expectation

variable {s : Settings}

/-! ## 1. Marks -/

/-- What the mark of a duplicate adds to the name of a row. -/
def markText : Option String → String
  | some first => " (duplicate of row named '" ++ first ++ "')"
  | none => ""

theorem markText_none : markText none = "" := rfl

theorem markIf_name {row : Tree} {name : String} (h : row.name = some name) (first : Option String) :
    (markIf row first).name = some (name ++ markText first) := by
  cases first with
  | none => rw [markText_none, String.append_empty]; exact h
  | some first =>
    show some (row.name.getD "None" ++ " (duplicate of row named '" ++ first ++ "')") =
      some (name ++ (" (duplicate of row named '" ++ first ++ "')"))
    rw [h, Option.getD_some, String.append_assoc, String.append_assoc, String.append_assoc]

theorem markIf_fields (row : Tree) (first : Option String) :
    (markIf row first).fields = row.fields := by cases first <;> rfl

/-- A marked row fails. -/
theorem markIf_success (row : Tree) (first : Option String) :
    (markIf row first).success = (row.success && first.isNone) := by
  cases first with
  | none => exact (Bool.and_true _).symm
  | some first =>
    rw [markIf, Tree.success_eq, Option.isNone_some, Bool.and_false]
    rfl

theorem commentKey_success (row : Tree) (key : RowKey) :
    (commentKey row key).success = row.success := by
  rw [Tree.success_eq, Tree.success_eq]
  rfl

/-! ## 2. Expected rows -/

/-- A row is filed by what it comes to: among the passed rows when it succeeds, among the failed
    ones or those not found when it does not. -/
structure RoutedRow.Filed (r : RoutedRow) : Prop where
  passed : r.place = .passed ↔ r.row.success = true
  expected : r.place ≠ .extra

theorem finishExpected_success (r : RoutedRow) (key : RowKey) (first : Option String) :
    (finishExpected r key first).row.success = (r.row.success && first.isNone) := by
  rw [finishExpected, markIf_success, commentKey_success]

theorem finishExpected_name {r : RoutedRow} {name : String} (h : r.row.name = some name)
    (key : RowKey) (first : Option String) :
    (finishExpected r key first).row.name = some (name ++ markText first) := by
  have hname : (commentKey r.row key).name = some name := h
  exact markIf_name hname first

theorem finishExpected_fields (r : RoutedRow) (key : RowKey) (first : Option String) :
    (finishExpected r key first).row.fields = r.row.fields := markIf_fields _ first

theorem finishExpected_place (r : RoutedRow) (key : RowKey) (first : Option String) :
    (finishExpected r key first).place =
      if first.isSome && r.place == .passed then .failed else r.place := rfl

theorem finishExpected_notFound (r : RoutedRow) (key : RowKey) (first : Option String) :
    (finishExpected r key first).place = .notFound ↔ r.place = .notFound := by
  rw [finishExpected_place]
  cases first <;> rcases r.place with _ | _ | _ | _ <;> simp

/-- Marking a row moves it out of the passed ones. -/
theorem finishExpected_filed {r : RoutedRow} (h : r.Filed) (key : RowKey) (first : Option String) :
    (finishExpected r key first).Filed := by
  refine ⟨?_, ?_⟩
  · have hplace := h.passed
    rw [finishExpected_success, finishExpected_place]
    cases first with
    | none => simpa using hplace
    | some first => rcases r.place with _ | _ | _ | _ <;> simp
  · rw [finishExpected_place]
    split
    · exact nofun
    · exact h.expected

/-- A compared pair is filed by its own outcome, unless its actual row repeats another one. -/
theorem filed_pair (tree : Tree) (first : Option String) :
    RoutedRow.Filed ⟨if first.isSome then .failed else .ofPair tree, markIf tree first⟩ := by
  cases first with
  | none => exact ⟨ofPair_eq_passed tree, ofPair_ne (p := .extra) nofun nofun tree⟩
  | some first =>
    refine ⟨?_, nofun⟩
    rw [markIf_success, Option.isNone_some, Bool.and_false]
    exact ⟨nofun, nofun⟩

theorem filed_notFound (name : String) (row : Row) :
    RoutedRow.Filed ⟨.notFound, notFoundRow s name row⟩ := by
  refine ⟨?_, nofun⟩
  rw [notFoundRow_success]
  exact ⟨nofun, nofun⟩

namespace Passage

variable {p : Passage} {r : RoutedRow}

/-- **A routed row is filed by what it comes to.** -/
theorem route_filed (h : p.route s = .ok r) : r.Filed := by
  rcases route_ok.mp h with ⟨_, rfl⟩ | ⟨c, tree, _, _, rfl⟩
  · exact finishExpected_filed (filed_notFound _ _) _ _
  · exact finishExpected_filed (filed_pair _ _) _ _

/-- A row is not found when its passage takes no candidate. -/
theorem route_notFound (h : p.route s = .ok r) : r.place = .notFound ↔ p.taken = none := by
  rcases route_ok.mp h with ⟨htaken, rfl⟩ | ⟨c, tree, htaken, _, rfl⟩
  · rw [finishExpected_notFound, htaken]
    exact ⟨fun _ => rfl, fun _ => rfl⟩
  · rw [finishExpected_notFound, htaken]
    refine ⟨fun hplace => absurd hplace ?_, nofun⟩
    cases c.duplicateOf with
    | none => exact ofPair_ne (p := .notFound) nofun nofun tree
    | some first => exact nofun

/-- A row bears its number, a mark when it takes a row that repeats another one, and a mark when it
    repeats another one itself. -/
theorem route_name (h : p.route s = .ok r) :
    r.row.name = some (s!"Row #{p.number}" ++ markText (p.taken.bind Candidate.duplicateOf) ++
      markText p.repeats) := by
  rcases route_ok.mp h with ⟨htaken, rfl⟩ | ⟨c, tree, htaken, hpair, rfl⟩
  · rw [htaken, Option.bind_none, markText_none, String.append_empty]
    exact finishExpected_name rfl _ _
  · rw [htaken, Option.bind_some]
    exact finishExpected_name (markIf_name (comparePair_name hpair) _) _ _

/-- The leaves of a row that was paired are those of the pair. -/
theorem route_fields (h : p.route s = .ok r) {c : Candidate} (htaken : p.taken = some c) :
    ∃ tree, comparePair s s!"Row #{p.number}" p.row c.row = .ok tree ∧
      r.row.fields = tree.fields := by
  rcases route_ok.mp h with ⟨hnone, _⟩ | ⟨d, tree, hsome, hpair, rfl⟩
  · rw [htaken] at hnone
    cases hnone
  · obtain rfl : d = c := Option.some.inj (hsome.symm.trans htaken)
    refine ⟨tree, hpair, ?_⟩
    rw [finishExpected_fields, markIf_fields]

/-- **A row succeeds** when it is paired, the pair succeeds, and neither row repeats another. -/
theorem route_success (h : p.route s = .ok r) : r.row.success = true ↔
    ∃ c, p.taken = some c ∧ pairSucceeds s p.row c.row = true ∧ c.duplicateOf = none ∧
      p.repeats = none := by
  rcases route_ok.mp h with ⟨htaken, rfl⟩ | ⟨c, tree, htaken, hpair, rfl⟩
  · rw [finishExpected_success, notFoundRow_success, htaken]
    exact ⟨nofun, nofun⟩
  · rw [finishExpected_success, markIf_success, comparePair_success hpair, htaken]
    simp [and_assoc]

end Passage

/-! ## 3. Left-over candidates -/

variable (s)

/-- Whether a left-over candidate is reported: where surplus rows are ignored, only when it repeats
    another row. -/
def isReported (c : Candidate) : Bool := s.tableExtraPolicy != .ignore || c.duplicateOf.isSome

/-- The row of the report for a left-over candidate. -/
def surplusRow (c : Candidate) : Tree :=
  markIf (extraRow s s!"Extra row #{c.number}" c.row) c.duplicateOf

theorem routeLeftovers_eq (left : List Candidate) : routeLeftovers s left =
    (left.filter (isReported s)).map fun c => ⟨.extra, surplusRow s c⟩ := by
  unfold routeLeftovers
  rw [← List.filterMap_eq_map, List.filterMap_filter]
  refine List.filterMap_congr fun c _ => ?_
  show _ = if isReported s c then some (RoutedRow.mk .extra (surplusRow s c)) else none
  have hreported : (s.tableExtraPolicy == .ignore && c.duplicateOf.isNone) = !isReported s c := by
    rw [isReported, Bool.not_or, bne, Bool.not_not, Option.not_isSome]
  rw [hreported]
  cases isReported s c <;> rfl

/-- Left-over candidates that are reported are the rows of the last section. -/
theorem rowsOf_leftovers (left : List Candidate) :
    rowsOf .extra (routeLeftovers s left) = (left.filter (isReported s)).map (surplusRow s) := by
  have hrows := rowsOf_map_self .extra ((left.filter (isReported s)).map (surplusRow s))
  rw [List.map_map] at hrows
  rw [routeLeftovers_eq]
  exact hrows

theorem rowsOf_leftovers_of_ne (left : List Candidate) {p : Section} (h : p ≠ .extra) :
    rowsOf p (routeLeftovers s left) = [] := by
  rw [routeLeftovers_eq]
  refine rowsOf_eq_nil fun r hr => ?_
  obtain ⟨c, _, rfl⟩ := List.mem_map.mp hr
  exact h.symm

theorem surplusRow_success (c : Candidate) : (surplusRow s c).success = true ↔
    s.tableExtraPolicy ≠ .fail ∧ c.duplicateOf = none := by
  rw [surplusRow, markIf_success, extraRow_success, Bool.and_eq_true, bne_iff_ne,
    Option.isNone_iff_eq_none]

theorem surplusRow_name (c : Candidate) : (surplusRow s c).name =
    some (s!"Extra row #{c.number}" ++ markText c.duplicateOf) := markIf_name rfl _

/-- **No left-over row fails** when surplus rows are no failures and none of these repeats another:
    a candidate that is not reported would not fail either. -/
theorem routeLeftovers_success (left : List Candidate) :
    ((routeLeftovers s left).all fun r => r.row.success) = true ↔
      ∀ c ∈ left, s.tableExtraPolicy ≠ .fail ∧ c.duplicateOf = none := by
  rw [routeLeftovers_eq, List.all_map, List.all_eq_true]
  constructor
  · intro h c hc
    rw [← surplusRow_success]
    cases hreported : isReported s c with
    | true => exact h c (List.mem_filter.mpr ⟨hc, hreported⟩)
    | false =>
      rw [isReported, Bool.or_eq_false_iff, bne_eq_false_iff_eq, Option.isSome_eq_false_iff,
        Option.isNone_iff_eq_none] at hreported
      rw [surplusRow_success, hreported.1]
      exact ⟨nofun, hreported.2⟩
  · intro h c hc
    exact (surplusRow_success s c).mpr (h c (List.mem_filter.mp hc).1)

end Reconcile.Table
