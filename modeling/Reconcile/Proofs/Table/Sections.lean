import Mathlib.Algebra.GroupWithZero.Nat
import Mathlib.Data.List.Basic
import Mathlib.Data.List.Forall2
import Reconcile.Proofs.Table.FirstMatch
import Reconcile.Proofs.Traversal
import Reconcile.Table.Report

/-!
# Sections and their rows

A section holds the first of its rows, as many as its cap admits, and answers for all of them.

* `stored`: what a section holds, said without the node;
* `sectionTree_success`, `sectionTree_children`, `sectionTree_comment`: a section succeeds when all
  its rows do, held or not, and tells how many it does not hold;
* **`report_success`**: a report succeeds when all routed rows do;
* `length_eq_sum`, `countP_eq_sum`: every routed row counts in one section;
* `report_sections`, `report_totals`: a report without caps holds its results and its surplus rows;
* `AlikeReport`, **`report_alike`**: reports of rows that are alike differ in these rows only;
  `AlikeReport.hasErrors`, `AlikeReport.sectionRows`: what can be read off them.
-/

namespace Reconcile.Table

open Reconcile.Diff

/-! ## 1. One section -/

/-- The rows that a section holds: all of them for the cap -1, otherwise the first ones. -/
def stored (cap : Int) (rows : List Tree) : List Tree :=
  if cap = -1 then rows else rows.take (max cap 0).toNat

theorem withinCap_eq (cap : Int) (rows : List Tree) : withinCap cap rows = stored cap rows := by
  have hmax : (max cap 0).toNat = cap.toNat := by omega
  rw [withinCap, stored, hmax]
  rfl

theorem stored_isPrefix (cap : Int) (rows : List Tree) : stored cap rows <+: rows := by
  unfold stored
  split
  · exact List.prefix_rfl
  · exact List.take_prefix _ _

theorem stored_append_drop (cap : Int) (rows : List Tree) :
    stored cap rows ++ rows.drop (stored cap rows).length = rows :=
  List.prefix_iff_eq_append.mp (stored_isPrefix cap rows)

@[simp] theorem stored_unlimited (rows : List Tree) : stored (-1) rows = rows := rfl

theorem sectionTree_children (name : String) (cap : Int) (rows : List Tree) :
    (sectionTree name cap rows).children = stored cap rows := withinCap_eq cap rows

theorem sectionTree_name (name : String) (cap : Int) (rows : List Tree) :
    (sectionTree name cap rows).name = some name := rfl

/-- **A section succeeds when all its rows do**, those that it does not hold included. -/
theorem sectionTree_success (name : String) (cap : Int) (rows : List Tree) :
    (sectionTree name cap rows).success = rows.all Tree.success := by
  rw [Tree.success_eq, sectionTree_children]
  show (!((rows.drop (withinCap cap rows).length).any fun r => !r.success) && true &&
    (stored cap rows).all Tree.success) = _
  conv_rhs => rw [← stored_append_drop cap rows, List.all_append]
  rw [withinCap_eq, List.not_any_eq_all_not, Bool.and_true, Bool.and_comm]
  simp only [Bool.not_not]

/-- A section tells how many of how many rows it does not hold, when there are some. -/
theorem sectionTree_comment (name : String) (cap : Int) (rows : List Tree) :
    (sectionTree name cap rows).comment =
      if rows.length = (stored cap rows).length then none
      else some s!"{rows.length} rows, {rows.length - (stored cap rows).length} not stored in report" := by
  have hle := (stored_isPrefix cap rows).length_le
  show (if (rows.drop (withinCap cap rows).length).isEmpty then none
    else some s!"{rows.length} rows, {(rows.drop (withinCap cap rows).length).length} not stored in report") = _
  rw [withinCap_eq, List.length_drop]
  by_cases h : rows.length = (stored cap rows).length
  · rw [if_pos h, if_pos (by rw [List.isEmpty_iff, List.drop_eq_nil_iff]; omega)]
  · rw [if_neg h, if_neg (by rw [List.isEmpty_iff, List.drop_eq_nil_iff]; omega)]

/-! ## 2. All sections -/

theorem Section.mem_all (p : Section) : p ∈ Section.all := by cases p <;> decide

theorem mem_rowsOf {p : Section} {routed : List RoutedRow} {row : Tree} :
    row ∈ rowsOf p routed ↔ ⟨p, row⟩ ∈ routed := by
  unfold rowsOf
  rw [List.mem_map]
  constructor
  · rintro ⟨⟨q, _⟩, hr, rfl⟩
    obtain ⟨hr, hq⟩ := List.mem_filter.mp hr
    rwa [← show q = p from eq_of_beq hq]
  · exact fun h => ⟨_, List.mem_filter.mpr ⟨h, beq_self_eq_true p⟩, rfl⟩

theorem rowsOf_append (p : Section) (routed more : List RoutedRow) :
    rowsOf p (routed ++ more) = rowsOf p routed ++ rowsOf p more := by
  rw [rowsOf, List.filter_append, List.map_append]
  rfl

/-- A sum over the sections counts every routed row once. -/
theorem countP_eq_sum (f : Tree → Bool) (routed : List RoutedRow) :
    routed.countP (fun r => f r.row) = (Section.all.map fun p => (rowsOf p routed).countP f).sum := by
  induction routed with
  | nil => rfl
  | cons r rest ih =>
    have hcons : ∀ p, (rowsOf p (r :: rest)).countP f =
        (rowsOf p rest).countP f + if r.place = p ∧ f r.row = true then 1 else 0 := by
      intro p
      by_cases hp : r.place = p
      · simp [rowsOf, hp, List.countP_cons]
      · simp [rowsOf, hp]
    rw [List.countP_cons, ih]
    simp only [Section.all, List.map_cons, List.map_nil, List.sum_cons, List.sum_nil, hcons]
    rcases hplace : r.place with _ | _ | _ | _ <;> simp <;> omega

theorem length_eq_sum (routed : List RoutedRow) :
    routed.length = (Section.all.map fun p => (rowsOf p routed).length).sum := by
  have h := countP_eq_sum (fun _ => true) routed
  simpa using h

theorem report_children (caps : Caps) (routed : List RoutedRow) :
    (report caps routed).children =
      Section.all.map fun p => sectionTree p.name (p.cap caps) (rowsOf p routed) := rfl

/-- **A report succeeds when all routed rows do**, whatever its sections hold. -/
theorem report_success (caps : Caps) (routed : List RoutedRow) :
    (report caps routed).success = routed.all fun r => r.row.success := by
  rw [Tree.success_eq, report_children, List.all_map]
  show (true && true && _) = _
  rw [Bool.true_and, Bool.true_and, Bool.eq_iff_iff, List.all_eq_true, List.all_eq_true]
  constructor
  · intro h r hr
    have hp := h r.place r.place.mem_all
    rw [Function.comp_apply, sectionTree_success] at hp
    exact List.all_eq_true.mp hp r.row (mem_rowsOf.mpr hr)
  · intro h p _
    rw [Function.comp_apply, sectionTree_success]
    exact List.all_eq_true.mpr fun row hrow => h _ (mem_rowsOf.mp hrow)

/-- The verdict of a report looks at nothing but the outcomes of its rows. -/
theorem report_verdict (caps : Caps) {routed routed' : List RoutedRow}
    (h : routed.map (fun r => r.row.success) = routed'.map fun r => r.row.success) :
    (report caps routed).success = (report caps routed').success ∧
      (report caps routed).comment = (report caps routed').comment := by
  have hall := congrArg (List.all · id) h
  have hcount := congrArg (List.countP id) h
  have hlength := congrArg List.length h
  rw [List.all_map, List.all_map] at hall
  rw [List.countP_map, List.countP_map] at hcount
  rw [List.length_map, List.length_map] at hlength
  constructor
  · rw [report_success, report_success]
    exact hall
  · have hpassed : passedCount routed = passedCount routed' := hcount
    unfold report
    rw [hpassed, hlength]

/-- The rows of all sections are the routed rows, as far as counting goes. -/
theorem countP_flatMap_rowsOf (f : Tree → Bool) (routed : List RoutedRow) :
    (Section.all.flatMap fun p => rowsOf p routed).countP f =
      routed.countP fun r => f r.row := by
  rw [countP_eq_sum, List.countP_flatMap]
  rfl

/-- The rows that failed are those that did not succeed. -/
theorem length_sub_passedCount (routed : List RoutedRow) :
    routed.length - passedCount routed = routed.countP fun r => !r.row.success := by
  have h : routed.length = routed.countP (fun r => r.row.success) +
      routed.countP fun r => !r.row.success := by
    rw [List.length_eq_countP_add_countP fun r : RoutedRow => r.row.success]
    simp
  rw [h, passedCount, Nat.add_sub_cancel_left]

/-- The rows that a report holds in a section. -/
def sectionRows (t : Tree) (p : Section) : List Tree := ((t.child? p.name).map Tree.children).getD []

/-! ## 3. Results and surplus rows -/

theorem rowsOf_eq_nil {p : Section} {routed : List RoutedRow} (h : ∀ r ∈ routed, r.place ≠ p) :
    rowsOf p routed = [] := by
  rw [rowsOf, List.map_eq_nil_iff, List.filter_eq_nil_iff]
  exact fun r hr hp => h r hr (eq_of_beq hp)

/-- Rows that are all filed in one section are the rows of it. -/
theorem rowsOf_map_self (p : Section) (rows : List Tree) :
    rowsOf p (rows.map fun row => ⟨p, row⟩) = rows := by
  rw [rowsOf, List.filter_eq_self.mpr, List.map_map]
  · exact List.map_id rows
  · intro r hr
    obtain ⟨row, _, rfl⟩ := List.mem_map.mp hr
    exact beq_self_eq_true p

theorem rowsOf_map_of_ne {p q : Section} (h : q ≠ p) (rows : List Tree) :
    rowsOf p (rows.map fun row => ⟨q, row⟩) = [] := by
  refine rowsOf_eq_nil fun r hr => ?_
  obtain ⟨row, _, rfl⟩ := List.mem_map.mp hr
  exact h

theorem ofPair_eq_passed (tree : Tree) : Section.ofPair tree = .passed ↔ tree.success = true := by
  unfold Section.ofPair
  cases tree.success <;> decide

/-- A pair of rows is either passed or failed. -/
theorem ofPair_ne {p : Section} (hpassed : p ≠ .passed) (hfailed : p ≠ .failed) (tree : Tree) :
    Section.ofPair tree ≠ p := by
  unfold Section.ofPair
  split
  · exact hpassed.symm
  · exact hfailed.symm

theorem rowsOf_ofPair_of_ne {p : Section} (hpassed : p ≠ .passed) (hfailed : p ≠ .failed)
    (rows : List Tree) : rowsOf p (rows.map fun row => ⟨.ofPair row, row⟩) = [] := by
  refine rowsOf_eq_nil fun r hr => ?_
  obtain ⟨row, _, rfl⟩ := List.mem_map.mp hr
  exact ofPair_ne hpassed hfailed row

/-- The sections of a report without caps, when the results and the surplus rows are put together. -/
theorem report_sections {results : List RoutedRow} (h : ∀ r ∈ results, r.place ≠ .extra)
    (extras : List Tree) :
    (report {} (results ++ extras.map fun row => ⟨.extra, row⟩)).children.map
      (fun c => (c.name, c.children)) =
    [(some "Passed rows", rowsOf .passed results), (some "Failed rows", rowsOf .failed results),
      (some "Not found rows", rowsOf .notFound results), (some "Extra rows", extras)] := by
  have hheld : ∀ (p : Section) (rows : List Tree),
      (sectionTree p.name (p.cap {}) rows).children = rows := by
    intro p rows
    rw [sectionTree_children]
    cases p <;> exact stored_unlimited rows
  have hresults : ∀ p : Section, p ≠ .extra →
      rowsOf p (results ++ extras.map fun row => ⟨.extra, row⟩) = rowsOf p results := by
    intro p hp
    rw [rowsOf_append, rowsOf_map_of_ne hp.symm, List.append_nil]
  have hextras : rowsOf .extra (results ++ extras.map fun row => ⟨.extra, row⟩) = extras := by
    rw [rowsOf_append, rowsOf_eq_nil h, rowsOf_map_self, List.nil_append]
  rw [report_children, List.map_map]
  simp only [Section.all, List.map_cons, List.map_nil, Function.comp_apply, hheld,
    sectionTree_name, hextras]
  rw [hresults .passed nofun, hresults .failed nofun, hresults .notFound nofun]
  rfl

/-- A report without caps holds all rows, and its comment counts them. -/
theorem report_totals (routed : List RoutedRow) : ∃ rows passed : Nat,
    rows = ((report {} routed).children.flatMap Tree.children).length ∧
    passed = ((report {} routed).children.flatMap Tree.children).countP Tree.success ∧
    (report {} routed).comment =
      some s!"Processed {rows} rows: {passed} passed / {rows - passed} failed" := by
  have hrows : (report {} routed).children.flatMap Tree.children =
      Section.all.flatMap fun p => rowsOf p routed := rfl
  refine ⟨routed.length, passedCount routed, ?_, ?_, rfl⟩
  · rw [hrows, length_eq_sum, List.length_flatMap]
  · rw [hrows, countP_flatMap_rowsOf]
    rfl

/-! ## 4. Reports of alike rows -/

section Alike

variable {R : Tree → Tree → Prop}

/-- Two sections that are the same but for their rows, which are in a relation. -/
structure AlikeSection (R : Tree → Tree → Prop) (t u : Tree) : Prop where
  node : t = { u with children := t.children }
  rows : List.Forall₂ R t.children u.children

/-- Two reports that are the same but for the rows of their sections. -/
structure AlikeReport (R : Tree → Tree → Prop) (t u : Tree) : Prop where
  success : t.success = u.success
  comment : t.comment = u.comment
  node : t = { u with children := t.children }
  sections : List.Forall₂ (AlikeSection R) t.children u.children

/-- Routed rows that are filed in the same section and in a relation. -/
structure AlikeRouted (R : Tree → Tree → Prop) (r q : RoutedRow) : Prop where
  place : r.place = q.place
  row : R r.row q.row

theorem stored_forall₂ (cap : Int) {rows rows' : List Tree} (h : List.Forall₂ R rows rows') :
    List.Forall₂ R (stored cap rows) (stored cap rows') := by
  unfold stored
  split
  · exact h
  · exact List.forall₂_take _ h

theorem rowsOf_forall₂ {routed routed' : List RoutedRow}
    (h : List.Forall₂ (AlikeRouted R) routed routed') (p : Section) :
    List.Forall₂ R (rowsOf p routed) (rowsOf p routed') := by
  unfold rowsOf
  rw [List.forall₂_map_left_iff, List.forall₂_map_right_iff]
  refine (List.rel_filter (fun r q hrq => ?_) h).imp fun _ _ hrq => hrq.row
  show (r.place == p) = true ↔ (q.place == p) = true
  rw [hrq.place]

/-- Alike reports hold alike rows in every section. -/
theorem AlikeReport.sectionRows {t u : Tree} (h : AlikeReport R t u) (p : Section) :
    List.Forall₂ R (sectionRows t p) (sectionRows u p) := by
  have hnamed : ∀ n m, AlikeSection R n m → (n.name == some p.name) = (m.name == some p.name) :=
    fun n m hnm => by rw [hnm.node]
  have hfound := find?_forall₂ hnamed h.sections
  unfold Table.sectionRows Tree.child?
  generalize t.children.find? (·.name == some p.name) = found at hfound ⊢
  generalize u.children.find? (·.name == some p.name) = found' at hfound ⊢
  cases hfound with
  | none => exact .nil
  | some hsection => exact hsection.rows

/-- Alike reports both have errors or both have none, when this is so of their rows. -/
theorem AlikeReport.hasErrors (hR : ∀ n m, R n m → n.hasErrors = m.hasErrors) {t u : Tree}
    (h : AlikeReport R t u) : t.hasErrors = u.hasErrors := by
  have hany : ∀ {ts us : List Tree}, ts.map Tree.hasErrors = us.map Tree.hasErrors →
      ts.any Tree.hasErrors = us.any Tree.hasErrors := fun hmap => by
    have hany := congrArg (List.any · id) hmap
    rwa [List.any_map, List.any_map] at hany
  have hsection : ∀ n m, AlikeSection R n m → n.hasErrors = m.hasErrors := fun n m hnm => by
    have hfields : n.fields = m.fields := by rw [hnm.node]
    rw [Tree.hasErrors_eq, Tree.hasErrors_eq, hfields, hany (map_eq_of_forall₂ hR hnm.rows)]
  have hfields : t.fields = u.fields := by rw [h.node]
  rw [Tree.hasErrors_eq, Tree.hasErrors_eq, hfields, hany (map_eq_of_forall₂ hsection h.sections)]

/-- Alike reports stay alike when the same node without children is put behind their sections. -/
theorem AlikeReport.addChild {t u : Tree} (h : AlikeReport R t u) {c : Tree}
    (hc : c.children = []) : AlikeReport R (t.addChild c) (u.addChild c) where
  success := by
    have hchildren : ∀ n : Tree, (n.addChild c).success = (n.success && c.success) := fun n => by
      rw [Tree.success_eq, Tree.success_eq n]
      show (_ && (n.children ++ [c]).all Tree.success) = _
      rw [List.all_append, List.all_cons, List.all_nil, Bool.and_true, ← Bool.and_assoc]
      rfl
    rw [hchildren, hchildren, h.success]
  comment := h.comment
  node := by rw [Tree.addChild, h.node]; rfl
  sections := by
    have hsame : AlikeSection R c c := ⟨by cases c; rfl, by rw [hc]; exact .nil⟩
    exact List.rel_append h.sections (.cons hsame .nil)

variable (hR : ∀ t u, R t u → t.success = u.success)
include hR

/-- Sections of alike rows are alike: they fail, and count their rows, in the same way. -/
theorem sectionTree_alike (name : String) (cap : Int) {rows rows' : List Tree}
    (h : List.Forall₂ R rows rows') :
    AlikeSection R (sectionTree name cap rows) (sectionTree name cap rows') := by
  have hstored := stored_forall₂ cap h
  constructor
  · have hcomment : (sectionTree name cap rows).comment = (sectionTree name cap rows').comment := by
      rw [sectionTree_comment, sectionTree_comment, h.length_eq, hstored.length_eq]
    have hfailed : (sectionTree name cap rows).failed = (sectionTree name cap rows').failed := by
      have hdropped := congrArg (List.any · id) (map_eq_of_forall₂ (f := fun t => !t.success)
        (g := fun t => !t.success) (fun t u htu => congrArg not (hR t u htu))
        (List.forall₂_drop (stored cap rows).length h))
      rw [List.any_map, List.any_map] at hdropped
      show List.any _ _ = List.any _ _
      rw [withinCap_eq, withinCap_eq, ← hstored.length_eq]
      exact hdropped
    show Tree.mk _ _ _ _ _ _ = Tree.mk _ _ _ _ _ _
    rw [Tree.mk.injEq]
    exact ⟨rfl, hcomment, rfl, rfl, hfailed, rfl⟩
  · rw [sectionTree_children, sectionTree_children]
    exact hstored

/-- **Reports of alike rows are alike.** -/
theorem report_alike (caps : Caps) {routed routed' : List RoutedRow}
    (h : List.Forall₂ (AlikeRouted R) routed routed') :
    AlikeReport R (report caps routed) (report caps routed') := by
  obtain ⟨hsuccess, hcomment⟩ := report_verdict caps
    (map_eq_of_forall₂ (fun r q hrq => hR r.row q.row hrq.row) h)
  refine ⟨hsuccess, hcomment, ?_, ?_⟩
  · show Tree.mk _ _ _ _ _ _ = Tree.mk _ _ _ _ _ _
    rw [Tree.mk.injEq]
    exact ⟨rfl, hcomment, rfl, rfl, rfl, rfl⟩
  · rw [report_children, report_children, List.forall₂_map_left_iff, List.forall₂_map_right_iff,
      List.forall₂_same]
    exact fun p _ => sectionTree_alike hR p.name (p.cap caps) (rowsOf_forall₂ h p)

end Alike

end Reconcile.Table
