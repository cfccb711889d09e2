import Reconcile.Proofs.Table.Sections
import Reconcile.Proofs.Table.Sources

/-!
# Caps and the verdict

The caps of a report decide which rows it holds and nothing else. A run is the same up to the point
where the report is made, whatever the caps are (`compare_findings`), and a report answers for all
rows that were routed to it.

* `Findings`: what a run comes to, before any cap is looked at;
* `SameVerdict`: two runs fail alike, or succeed alike with the same comment;
* `CappedReport`: what a report says of the rows that were routed to its sections;
* `Findings.sameVerdict`, `Findings.capped`: both for the reports of what one run comes to;
* **`caps_keep_verdict`**: two runs that differ in their caps have the same verdict, and every one
  of them reports on the same routed rows.
-/

namespace Reconcile.Table

open Reconcile.Diff Reconcile.Expectation

/-! ## 1. What a run comes to -/

/-- The report, with a failed node where the numbers of rows differ. -/
def withRowCount (t : Tree) : Option String → Tree
  | none => t
  | some comment => t.addChild (.failure comment (some "Row count"))

/-- What a run comes to before a report is made of it: no rows on either side, or routed rows and
    a comment on the numbers of rows where these differ. -/
inductive Findings where
  | nothing
  | rows (routed : List RoutedRow) (rowCount : Option String)

/-- The tree of a run with the given caps. -/
def Findings.tree (c : Caps) : Findings → Tree
  | .nothing => emptyReport
  | .rows routed rowCount => withRowCount (report c routed) rowCount

section Runs

variable (s : Settings) (c : Caps)

/-- Routing pairs of rows does not look at the caps. -/
theorem routeSteps_caps (steps : List Step) : ∀ n : Nat,
    routeSteps { s with caps := c } n steps = routeSteps s n steps := by
  induction steps with
  | nil => exact fun _ => rfl
  | cons step rest ih =>
    intro n
    unfold routeSteps
    rw [ih]
    rfl

theorem indexFrom_caps (rows : List Row) : ∀ (n : Nat) (t : DuplicateTracker)
    (x : KeyIndex Candidate), indexFrom { s with caps := c } n rows t x = indexFrom s n rows t x := by
  induction rows with
  | nil => exact fun _ _ _ => rfl
  | cons row rest ih =>
    intro n t x
    unfold indexFrom
    exact ih _ _ _

/-- Routing expected rows does not look at the caps. -/
theorem routeRows_caps (rows : List Row) : ∀ (n : Nat) (t : DuplicateTracker)
    (x : KeyIndex Candidate), routeRows { s with caps := c } n rows t x = routeRows s n rows t x := by
  induction rows with
  | nil => exact fun _ _ _ => rfl
  | cons row rest ih =>
    intro n t x
    unfold routeRows
    simp only [ih]
    rfl

theorem comparePositional_findings (e a : Source) : ∃ found : Except Fault Findings, ∀ c : Caps,
    (comparePositional { s with caps := c } e a).result = found.map (Findings.tree c) := by
  unfold comparePositional
  simp only [routeSteps_caps]
  split
  · exact ⟨.error _, fun _ => rfl⟩
  · cases (routeSteps s 1 (stepsOf e.stream a.stream).1).2 with
    | some b => exact ⟨.error _, fun _ => rfl⟩
    | none =>
      cases (stepsOf e.stream a.stream).2 with
      | some f => exact ⟨.error _, fun _ => rfl⟩
      | none =>
        simp only [positionalReport]
        by_cases hnone : e.stream.rows.length = 0 ∧ a.stream.rows.length = 0
        · exact ⟨.ok .nothing, fun _ => by rw [if_pos hnone]; rfl⟩
        · by_cases hcount : e.stream.rows.length = a.stream.rows.length
          · exact ⟨.ok (.rows _ none), fun _ => by rw [if_neg hnone, if_pos hcount]; rfl⟩
          · exact ⟨.ok (.rows _ (some _)), fun _ => by rw [if_neg hnone, if_neg hcount]; rfl⟩

theorem compareIndexed_findings (e : Stream) (x : KeyIndex Candidate) :
    ∃ found : Except Fault Findings, ∀ c : Caps,
      (compareIndexed { s with caps := c } e x).result = found.map (Findings.tree c) := by
  unfold compareIndexed
  simp only [routeRows_caps]
  rcases routeRows s 1 e.rows (.empty s.keyColumns s.numericColumns) x with ⟨rows, b | y⟩
  · exact ⟨.error (.breakdown b), fun _ => rfl⟩
  · cases e.fault with
    | some f => exact ⟨.error (.source f), fun _ => rfl⟩
    | none =>
      by_cases hnone : e.rows.length = 0 ∧ y.leftovers.length = 0
      · exact ⟨.ok .nothing, fun _ => congrArg Except.ok (if_pos hnone)⟩
      · exact ⟨.ok (.rows (rows ++ routeLeftovers s y.leftovers) none),
          fun _ => congrArg Except.ok (if_neg hnone)⟩

theorem compareKeyed_findings (e a : Source) : ∃ found : Except Fault Findings, ∀ c : Caps,
    (compareKeyed { s with caps := c } e a).result = found.map (Findings.tree c) := by
  unfold compareKeyed indexRows
  simp only [indexFrom_caps]
  cases a.stream.fault with
  | some f => exact ⟨.error (.source f), fun _ => rfl⟩
  | none => exact compareIndexed_findings s e.stream _

theorem compareSources_findings (e a : Source) : ∃ found : Except Fault Findings, ∀ c : Caps,
    (compareSources { s with caps := c } e a).result = found.map (Findings.tree c) := by
  have hkeyed : ∀ c, Settings.isKeyed { s with caps := c } = s.isKeyed := fun _ => rfl
  have hcheck : ∀ c h g, checkKeyColumns { s with caps := c } h g = checkKeyColumns s h g :=
    fun _ _ _ => rfl
  unfold compareSources
  simp only [hkeyed, hcheck]
  split
  · split
    · exact ⟨.error _, fun _ => rfl⟩
    · exact compareKeyed_findings s e a
  · exact comparePositional_findings s e a

/-- **A run is the same up to its report, whatever the caps are.** -/
theorem compare_findings (expected actual : Supply) : ∃ found : Except Fault Findings, ∀ c : Caps,
    (compare { s with caps := c } expected actual).result = found.map (Findings.tree c) := by
  unfold compare runSources
  cases expected.acquire "expected" with
  | error f => exact ⟨.error _, fun _ => rfl⟩
  | ok e =>
    cases actual.acquire "actual" with
    | error f => exact ⟨.error _, fun _ => rfl⟩
    | ok a => exact compareSources_findings s e a

end Runs

/-! ## 2. What a report says -/

/-- Two runs fail with the same fault, or give trees with the same success and comment. -/
def SameVerdict : Except Fault Tree → Except Fault Tree → Prop
  | .error f, .error g => f = g
  | .ok t, .ok u => t.success = u.success ∧ t.comment = u.comment
  | _, _ => False

/-- A section answers for all the rows that were routed to it, and holds the first of them. -/
structure CappedSection (cap : Int) (rows : List Tree) (node : Tree) : Prop where
  success : node.success = true ↔ ∀ row ∈ rows, row.success = true
  children : node.children = stored cap rows
  comment : node.comment =
    if rows.length = node.children.length then none
    else some s!"{rows.length} rows, {rows.length - node.children.length} not stored in report"

/-- A report answers for all routed rows, and for the numbers of rows of the two sides. -/
structure CappedReport (c : Caps) (routed : Section → List Tree) (t : Tree) : Prop where
  sections : ∀ p : Section, ∃ node, t.child? p.name = some node ∧
    CappedSection (p.cap c) (routed p) node
  verdict : ∃ passed failed : Nat,
    t.comment = some s!"Processed {passed + failed} rows: {passed} passed / {failed} failed" ∧
    passed = (Section.all.flatMap routed).countP (fun row => row.success) ∧
    failed = (Section.all.flatMap routed).countP (fun row => !row.success) ∧
    (t.success = true ↔ failed = 0 ∧ t.child? "Row count" = none)

theorem sectionTree_capped (name : String) (cap : Int) (rows : List Tree) :
    CappedSection cap rows (sectionTree name cap rows) where
  success := by rw [sectionTree_success, List.all_eq_true]
  children := sectionTree_children name cap rows
  comment := by rw [sectionTree_comment, sectionTree_children]

theorem withRowCount_comment (t : Tree) (rowCount : Option String) :
    (withRowCount t rowCount).comment = t.comment := by cases rowCount <;> rfl

/-- Different numbers of rows fail a report. -/
theorem withRowCount_success (t : Tree) (rowCount : Option String) :
    (withRowCount t rowCount).success = (t.success && rowCount.isNone) := by
  cases rowCount with
  | none => exact (Bool.and_true _).symm
  | some comment =>
    rw [withRowCount, Tree.success_eq, Tree.addChild, List.all_append]
    simp [Tree.failure, Tree.success]

theorem child?_section (c : Caps) (routed : List RoutedRow) (rowCount : Option String)
    (p : Section) : (withRowCount (report c routed) rowCount).child? p.name =
      some (sectionTree p.name (p.cap c) (rowsOf p routed)) := by
  cases rowCount <;> cases p <;> rfl

/-- A report without caps holds all routed rows, each in its section. -/
theorem sectionRows_report (routed : List RoutedRow) (rowCount : Option String) (p : Section) :
    sectionRows (withRowCount (report {} routed) rowCount) p = rowsOf p routed := by
  rw [sectionRows, child?_section, Option.map_some, Option.getD_some, sectionTree_children]
  cases p <;> exact stored_unlimited _

theorem child?_rowCount (c : Caps) (routed : List RoutedRow) (rowCount : Option String) :
    (withRowCount (report c routed) rowCount).child? "Row count" = none ↔ rowCount = none := by
  cases rowCount with
  | none => exact ⟨fun _ => rfl, fun _ => rfl⟩
  | some comment =>
    have h : (withRowCount (report c routed) (some comment)).child? "Row count" =
      some (.failure comment (some "Row count")) := rfl
    rw [h]
    exact ⟨nofun, nofun⟩

theorem report_capped (c : Caps) (routed : List RoutedRow) (rowCount : Option String) :
    CappedReport c (fun p => rowsOf p routed) (withRowCount (report c routed) rowCount) where
  sections p := ⟨_, child?_section c routed rowCount p, sectionTree_capped _ _ _⟩
  verdict := by
    have hfailed := length_sub_passedCount routed
    have hle : passedCount routed ≤ routed.length := List.countP_le_length
    refine ⟨passedCount routed, routed.length - passedCount routed, ?_, ?_, ?_, ?_⟩
    · rw [withRowCount_comment, Nat.add_sub_cancel' hle]
      rfl
    · rw [countP_flatMap_rowsOf]
      rfl
    · rw [countP_flatMap_rowsOf, hfailed]
    · rw [withRowCount_success, child?_rowCount, report_success, hfailed, Bool.and_eq_true,
        List.countP_eq_zero, List.all_eq_true, Option.isNone_iff_eq_none]
      simp

/-- The verdict on what a run came to does not depend on the caps. -/
theorem Findings.sameVerdict (found : Findings) (c d : Caps) :
    SameVerdict (.ok (found.tree c)) (.ok (found.tree d)) := by
  cases found with
  | nothing => exact ⟨rfl, rfl⟩
  | rows routed rowCount =>
    refine ⟨?_, ?_⟩
    · rw [tree, tree, withRowCount_success, withRowCount_success, report_success, report_success]
    · rw [tree, tree, withRowCount_comment, withRowCount_comment]
      rfl

/-- What a run came to is reported by the same routed rows for all caps. -/
theorem Findings.capped (found : Findings) : ∃ routed : Section → List Tree, ∀ c : Caps,
    (found.tree c).children ≠ [] → CappedReport c routed (found.tree c) := by
  cases found with
  | nothing => exact ⟨fun _ => [], fun c hne => absurd rfl hne⟩
  | rows routed rowCount =>
    exact ⟨fun p => rowsOf p routed, fun c _ => report_capped c routed rowCount⟩

/-- **Caps never change the verdict.** Two runs over the same sources that differ in their caps
    only fail alike, or have the same success and comment. There are rows routed to each section,
    the same for all caps, that every report with sections answers for: a section succeeds when all
    of them do, holds the first ones and tells how many it does not hold, and the report succeeds
    when none of them failed and the sides have equally many rows. -/
theorem caps_keep_verdict (s : Settings) (expected actual : Supply) :
    (∀ c d : Caps, SameVerdict (compare { s with caps := c } expected actual).result
      (compare { s with caps := d } expected actual).result) ∧
    ∃ routed : Section → List Tree, ∀ (c : Caps) (t : Tree),
      (compare { s with caps := c } expected actual).result = .ok t → t.children ≠ [] →
        CappedReport c routed t := by
  obtain ⟨found, hfound⟩ := compare_findings s expected actual
  simp only [hfound]
  cases found with
  | error f => exact ⟨fun c d => rfl, fun _ => [], fun c t h _ => nomatch h⟩
  | ok found =>
    obtain ⟨routed, hrouted⟩ := found.capped
    refine ⟨found.sameVerdict, routed, fun c t h hne => ?_⟩
    obtain rfl : found.tree c = t := Except.ok.inj h
    exact hrouted c hne

/-- A table of items and how many there are of each. -/
def stockOf (rows : List (String × String)) : Supply :=
  let header : Header := ⟨["Item", "Count"], by decide⟩
  .held { header, rows := rows.map fun r => ⟨header, [some r.1, some r.2], Nat.le_refl 2⟩ }

theorem stockOf_isReadable (rows : List (String × String)) : (stockOf rows).IsReadable :=
  Source.IsReadable.held ⟨rfl, rfl, rfl⟩

/-- One row matches, two differ and one is not found; the first run may hold one failed row and the
    second one none. -/
theorem caps_keep_verdict_stock :
    let expected := stockOf [("pen", "3"), ("ink", "1"), ("pad", "2"), ("cap", "9")]
    let actual := stockOf [("pen", "3"), ("ink", "4"), ("pad", "5")]
    let c : Caps := { failed := 1 }
    let d : Caps := { failed := -7, notFound := 0 }
    ∃ t u, (compare { caps := c } expected actual).result = .ok t ∧
      (compare { caps := d } expected actual).result = .ok u ∧
      t.children ≠ [] ∧ u.children ≠ [] ∧
      SameVerdict (.ok t) (.ok u) ∧
      ∃ routed, CappedReport c routed t ∧ CappedReport d routed u := by
  intro expected actual c d
  obtain ⟨t, ht, hct⟩ := exists_of_any (r := (compare { caps := c } expected actual).result)
    (p := fun t => !t.children.isEmpty) (by decide +kernel)
  obtain ⟨u, hu, hcu⟩ := exists_of_any (r := (compare { caps := d } expected actual).result)
    (p := fun t => !t.children.isEmpty) (by decide +kernel)
  have hct : t.children ≠ [] := by simpa using hct
  have hcu : u.children ≠ [] := by simpa using hcu
  obtain ⟨hsame, routed, hreport⟩ := caps_keep_verdict {} expected actual
  refine ⟨t, u, ht, hu, hct, hcu, ?_, routed, hreport c t ht hct, hreport d u hu hcu⟩
  rw [← ht, ← hu]
  exact hsame c d

end Reconcile.Table
