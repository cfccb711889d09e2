import Reconcile.Proofs.Table.ReportRows

/-!
# Which errors a report shows

A cell that cannot be evaluated makes an error leaf in the row of its pair. Such a row fails, so the
section of failed rows is the only one that can show errors; but whether a report has errors is read
off the rows that it holds, and a row beyond the cap takes its errors with it.

* `SomeCellFails`: a compared cell could not be evaluated;
* `RowStems.failed_of_error`: errors are in failed rows only;
* `Reports.someCellFails_iff`: routed rows have errors when a compared cell has one;
* `ErrorsShown`: what the caps leave of the errors of a run;
* **`errors_shown`**: a report has errors exactly when a failed row that it holds has some;
* `cap_hides_errors`: so a cap may hide all of them.
-/

namespace Reconcile.Table

open Reconcile.Diff Reconcile.Expectation

section Errors

variable (s : Settings) (expected actual : List Row)

/-- Some compared cell of the rows of both sides could not be evaluated. -/
def SomeCellFails : Prop :=
  ∃ q ∈ comparedPairs s expected actual, ∃ column ∈ comparedColumns s q.1.header q.2.header,
    ∃ leaf, compareColumn s q.1 q.2 column = .ok leaf ∧ leaf.outcome = .error

/-- What is seen of errors in the report `t` of a run, where `u` is the report without caps. Without
    caps all of them are seen. A report has errors exactly when one of the first failed rows has
    some, as many as the cap of this section admits; so it has none that are not there, agrees with
    the report without caps exactly when an error is among these rows if there is one at all, and
    only the cap of failed rows can make a difference. -/
structure ErrorsShown (u t : Tree) : Prop where
  unlimited : u.hasErrors = true ↔ SomeCellFails s expected actual
  held : t.hasErrors = true ↔
    ∃ row ∈ stored s.caps.failed (sectionRows u .failed), row.hasErrors = true
  sound : t.hasErrors = true → SomeCellFails s expected actual
  agrees : t.hasErrors = u.hasErrors ↔ (SomeCellFails s expected actual →
    ∃ row ∈ stored s.caps.failed (sectionRows u .failed), row.hasErrors = true)
  uncapped : s.caps.failed = -1 → t.hasErrors = u.hasErrors

end Errors

variable {s : Settings} {expected actual : List Row}

/-! ## 1. Rows with errors -/

/-- A row without nodes below it has an error when one of its leaves is one. -/
theorem hasErrors_of_no_children {row : Tree} (h : row.children = []) :
    row.hasErrors = true ↔ ∃ leaf ∈ row.fields, leaf.outcome = .error := by
  rw [Tree.hasErrors_eq, h, List.any_nil, Bool.or_false, List.any_eq_true]
  refine exists_congr fun leaf => and_congr_right fun _ => ?_
  rw [Leaf.isError, beq_iff_eq]

/-- A row with an error fails. -/
theorem success_of_hasErrors {row : Tree} (hchildren : row.children = [])
    (h : row.hasErrors = true) : row.success = false := by
  obtain ⟨leaf, hleaf, herror⟩ := (hasErrors_of_no_children hchildren).mp h
  have hfails : leaf.passes = false := by rw [Leaf.passes, herror]; rfl
  have hfields : row.fields.all Leaf.passes = false :=
    List.all_eq_false.mpr ⟨leaf, hleaf, by rw [hfails]; exact Bool.false_ne_true⟩
  rw [Tree.success_eq, hfields, Bool.and_false, Bool.false_and]

/-- Rows without a counterpart only report. -/
theorem notFoundRow_info {name : String} {row : Row} {leaf : Leaf}
    (h : leaf ∈ (notFoundRow s name row).fields) : leaf.outcome = .info := by
  obtain ⟨c, _, rfl⟩ := List.mem_map.mp h
  rfl

theorem extraRow_info {name : String} {row : Row} {leaf : Leaf}
    (h : leaf ∈ (extraRow s name row).fields) : leaf.outcome = .info := by
  obtain ⟨c, _, rfl⟩ := List.mem_map.mp h
  rfl

/-- **Errors are in failed rows only**: a row that passed has none, and the leaves of a row without a
    counterpart are never compared. -/
theorem RowStems.failed_of_error {r : RoutedRow} (h : RowStems s expected actual r)
    (herror : r.row.hasErrors = true) : r.place = .failed := by
  obtain ⟨hchildren, hpassed, hstems⟩ := h
  obtain ⟨leaf, hleaf, houtcome⟩ := (hasErrors_of_no_children hchildren).mp herror
  cases hplace : r.place with
  | failed => rfl
  | passed =>
    have hfails := success_of_hasErrors hchildren herror
    rw [hpassed hplace] at hfails
    cases hfails
  | notFound =>
    rw [hplace] at hstems
    obtain ⟨e, _, name, hfields⟩ := hstems
    rw [hfields] at hleaf
    rw [notFoundRow_info hleaf] at houtcome
    cases houtcome
  | extra =>
    rw [hplace] at hstems
    obtain ⟨a, _, name, hfields⟩ := hstems
    rw [hfields] at hleaf
    rw [extraRow_info hleaf] at houtcome
    cases houtcome

/-- **The routed rows have an error when a compared cell has one.** -/
theorem Reports.someCellFails_iff {routed : List RoutedRow} (h : Reports s expected actual routed) :
    (∃ r ∈ routed, r.row.hasErrors = true) ↔ SomeCellFails s expected actual := by
  constructor
  · rintro ⟨r, hr, herror⟩
    have hstems := h.rows r hr
    have hleaves := hstems.leaves
    rw [hstems.failed_of_error herror] at hleaves
    obtain ⟨q, hq, hpair⟩ := hleaves
    obtain ⟨leaf, hleaf, houtcome⟩ := (hasErrors_of_no_children hstems.children).mp herror
    obtain ⟨column, hcolumn, hcompare⟩ := (mem_mapM_ok_iff hpair).mp hleaf
    exact ⟨q, hq, column, hcolumn, leaf, hcompare, houtcome⟩
  · rintro ⟨q, hq, column, hcolumn, leaf, hcompare, houtcome⟩
    obtain ⟨r, hr, _, hpair⟩ := h.pairs q hq
    have hleaf := (mem_mapM_ok_iff hpair).mpr ⟨column, hcolumn, hcompare⟩
    exact ⟨r, hr, (hasErrors_of_no_children (h.rows r hr).children).mpr ⟨leaf, hleaf, houtcome⟩⟩

/-! ## 2. Runs -/

/-- A tree has errors when a failed row that it holds has some. -/
theorem Reports.hasErrors_iff {found : Findings} (h : Reports s expected actual found.routed)
    (c : Caps) : (found.tree c).hasErrors = true ↔
      ∃ row ∈ stored c.failed (rowsOf .failed found.routed), row.hasErrors = true := by
  rw [found.hasErrors]
  constructor
  · rintro ⟨p, row, hrow, herror⟩
    have hrouted := mem_rowsOf.mp ((stored_isPrefix _ _).subset hrow)
    obtain rfl : p = .failed := (h.rows _ hrouted).failed_of_error herror
    exact ⟨row, hrow, herror⟩
  · rintro ⟨row, hrow, herror⟩
    exact ⟨.failed, row, hrow, herror⟩

/-- Without caps a tree has errors when a compared cell could not be evaluated. -/
theorem Reports.hasErrors_unlimited {found : Findings}
    (h : Reports s expected actual found.routed) :
    (found.tree {}).hasErrors = true ↔ SomeCellFails s expected actual := by
  rw [← h.someCellFails_iff, h.hasErrors_iff]
  constructor
  · rintro ⟨row, hrow, herror⟩
    exact ⟨_, mem_rowsOf.mp hrow, herror⟩
  · rintro ⟨⟨p, row⟩, hr, herror⟩
    obtain rfl : p = .failed := (h.rows _ hr).failed_of_error herror
    exact ⟨row, mem_rowsOf.mpr hr, herror⟩

/-- **Caps decide which errors are seen.** Whatever the settings, their caps and the two sources are,
    when a run returns, so does the run without caps; that one has errors exactly when a compared cell
    could not be evaluated, and the capped one exactly when one of the failed rows that it holds has
    an error. -/
theorem errors_shown {expected actual : Supply} {t : Tree}
    (h : (compare s expected actual).result = .ok t) :
    ∃ u, (compare { s with caps := {} } expected actual).result = .ok u ∧
      ErrorsShown s expected.source.rows actual.source.rows u t := by
  obtain ⟨found, hreports, rfl, hruns⟩ := compare_reports h
  have hfailed : sectionRows (found.tree {}) .failed = rowsOf .failed found.routed :=
    found.sectionRows_unlimited .failed
  have hunlimited := hreports.hasErrors_unlimited
  have hheld := hreports.hasErrors_iff s.caps
  have hsound : (found.tree s.caps).hasErrors = true → (found.tree {}).hasErrors = true := by
    rw [hheld, hreports.hasErrors_iff]
    rintro ⟨row, hrow, herror⟩
    exact ⟨row, (stored_isPrefix _ _).subset hrow, herror⟩
  refine ⟨_, hruns {}, hunlimited, ?_, fun herror => hunlimited.mp (hsound herror), ?_, ?_⟩
  · rw [hfailed]
    exact hheld
  · rw [hfailed, ← hunlimited, ← hheld, Bool.eq_iff_iff]
    exact ⟨fun hsame => hsame.mpr, fun hseen => ⟨hsound, hseen⟩⟩
  · intro hcap
    rw [Bool.eq_iff_iff, hheld, hreports.hasErrors_iff, hcap]
    rfl

/-- A cap of one failed row: the first one differs in a count, and the error of the second one is not
    seen. -/
theorem errors_shown_stock :
    let s : Settings := { caps := { failed := 1 } }
    let expected := stockOf [("ink", "1"), ("pen", "@\x7bisGreaterThan(ten)\x7d")]
    let actual := stockOf [("ink", "4"), ("pen", "3")]
    ∃ t, (compare s expected actual).result = .ok t ∧ t.hasErrors = false ∧
      ∃ u, (compare { s with caps := {} } expected actual).result = .ok u ∧
        ErrorsShown s expected.source.rows actual.source.rows u t := by
  intro s expected actual
  obtain ⟨t, ht, hnone⟩ := exists_of_any (r := (compare s expected actual).result)
    (p := fun t => !t.hasErrors) (by decide +kernel)
  exact ⟨t, ht, by simpa using hnone, errors_shown ht⟩

/-- **A cap may hide all errors.** The one compared row of two readable sources has a cell that cannot
    be evaluated, and the report without caps says so; where no failed row is held, the report fails
    but has no errors. -/
theorem cap_hides_errors :
    let s : Settings := { caps := { failed := 0 } }
    let expected := stockOf [("pen", "@\x7bisGreaterThan(ten)\x7d")]
    let actual := stockOf [("pen", "3")]
    expected.IsReadable ∧ actual.IsReadable ∧
      SomeCellFails s expected.source.rows actual.source.rows ∧
      ∃ t u, (compare s expected actual).result = .ok t ∧
        (compare { s with caps := {} } expected actual).result = .ok u ∧
        t.success = false ∧ t.hasErrors = false ∧ u.hasErrors = true := by
  intro s expected actual
  obtain ⟨t, ht, hnone⟩ := exists_of_any (r := (compare s expected actual).result)
    (p := fun t => !t.success && !t.hasErrors) (by decide +kernel)
  obtain ⟨hfails, hnone⟩ : t.success = false ∧ t.hasErrors = false := by simpa using hnone
  obtain ⟨u, hu, herrors⟩ := exists_of_any
    (r := (compare { s with caps := {} } expected actual).result)
    (p := Tree.hasErrors) (by decide +kernel)
  obtain ⟨found, rfl, hreports⟩ := compare_stems hu
  have hcell := (Reports.of_caps s hreports).hasErrors_unlimited.mp herrors
  exact ⟨stockOf_isReadable _, stockOf_isReadable _, hcell, t, _, ht, hu, hfails, hnone, herrors⟩

end Reconcile.Table
