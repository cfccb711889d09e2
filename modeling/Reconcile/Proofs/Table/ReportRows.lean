import Reconcile.Proofs.Table.InStep
import Reconcile.Proofs.Table.PositionalAccount
import Reconcile.Proofs.Table.Returns

/-!
# Where the rows of a report stem from

Whatever its caps are, a report holds nothing but rows that stem from the rows of its two sources:
the leaves of a passed or failed row are those of a pair of rows that was compared, and a row that
is not found, or a surplus one, has the leaves of a row of one side.

* `LeavesStem`: where the leaves of a row of a section stem from;
* `RowStems`, `Reports`: the same of a routed row, and of all of them;
* `Passage.route_stems`, `surplus_stems`: one row of a keyed run;
* `keyed_reports`, `positional_reports`: all rows of either kind of run;
* `Findings.sectionRows`, `Findings.hasErrors`: what a tree with given caps holds of them;
* **`compare_reports`**: every run that returns reports such rows, the same for all caps.
-/

namespace Reconcile.Table

open Reconcile.Diff Reconcile.Expectation

/-! ## 1. Rows and leaves -/

section Stems

variable (s : Settings) (expected actual : List Row)

/-- The leaves of a row of a section: of a compared pair, or of a row without a counterpart. -/
def LeavesStem (leaves : List Leaf) : Section → Prop
  | .passed | .failed => ∃ q ∈ comparedPairs s expected actual, pairLeaves s q = .ok leaves
  | .notFound => ∃ e ∈ expected, ∃ name, leaves = (notFoundRow s name e).fields
  | .extra => ∃ a ∈ actual, ∃ name, leaves = (extraRow s name a).fields

/-- A routed row has leaves and nothing below them, and passes where it is filed so. -/
structure RowStems (r : RoutedRow) : Prop where
  children : r.row.children = []
  passed : r.place = .passed → r.row.success = true
  leaves : LeavesStem s expected actual r.row.fields r.place

/-- The routed rows of a report: each of them stems from the sources, and none of the compared pairs
    is left out. -/
structure Reports (routed : List RoutedRow) : Prop where
  rows : ∀ r ∈ routed, RowStems s expected actual r
  pairs : ∀ q ∈ comparedPairs s expected actual, ∃ r ∈ routed,
    (r.place = .passed ∨ r.place = .failed) ∧ pairLeaves s q = .ok r.row.fields

end Stems

variable {s : Settings} {expected actual : List Row}

/-- Only which rows there are counts, not their order. -/
theorem Reports.congr {routed routed' : List RoutedRow} (h : Reports s expected actual routed)
    (hsame : ∀ r, r ∈ routed ↔ r ∈ routed') : Reports s expected actual routed' where
  rows r hr := h.rows r ((hsame r).mpr hr)
  pairs q hq := by
    obtain ⟨r, hr, hleaves⟩ := h.pairs q hq
    exact ⟨r, (hsame r).mp hr, hleaves⟩

theorem markIf_children (row : Tree) (first : Option String) :
    (markIf row first).children = row.children := by cases first <;> rfl

/-- The leaves of the node of a pair are those of the pair. -/
theorem pairLeaves_of_comparePair {name : String} {e a : Row} {tree : Tree}
    (h : comparePair s name e a = .ok tree) :
    pairLeaves s (e, a) = .ok tree.fields ∧ tree.children = [] := by
  obtain ⟨fields, hfields, rfl⟩ := comparePair_ok h
  exact ⟨hfields, rfl⟩

/-- A row that is neither surplus nor without a counterpart passed or failed. -/
theorem RoutedRow.Filed.passed_or_failed {r : RoutedRow} (h : r.Filed) (hfound : r.place ≠ .notFound) :
    r.place = .passed ∨ r.place = .failed := by
  have hextra := h.expected
  cases hplace : r.place with
  | passed => exact .inl rfl
  | failed => exact .inr rfl
  | notFound => exact absurd hplace hfound
  | extra => exact absurd hplace hextra

/-! ## 2. A keyed run -/

namespace Passage

variable {p : Passage} {r : RoutedRow}

theorem route_children (h : p.route s = .ok r) : r.row.children = [] := by
  rcases route_ok.mp h with ⟨_, rfl⟩ | ⟨c, tree, _, hpair, rfl⟩
  · exact markIf_children _ _
  · refine (markIf_children _ _).trans ((markIf_children _ _).trans ?_)
    exact (pairLeaves_of_comparePair hpair).2

/-- A passage that takes a candidate is filed as a pair, with the leaves of the pair. -/
theorem route_pair (h : p.route s = .ok r) {c : Candidate} (htaken : p.taken = some c) :
    (r.place = .passed ∨ r.place = .failed) ∧ pairLeaves s (p.row, c.row) = .ok r.row.fields := by
  obtain ⟨tree, hpair, hfields⟩ := route_fields h htaken
  refine ⟨(route_filed h).passed_or_failed fun hplace => ?_, ?_⟩
  · rw [route_notFound h, htaken] at hplace
    cases hplace
  · rw [hfields]
    exact (pairLeaves_of_comparePair hpair).1

/-- A passage that takes no candidate has the leaves of its own row. -/
theorem route_alone (h : p.route s = .ok r) (htaken : p.taken = none) :
    r.place = .notFound ∧ r.row.fields = (notFoundRow s s!"Row #{p.number}" p.row).fields := by
  refine ⟨(route_notFound h).mpr htaken, ?_⟩
  rcases route_ok.mp h with ⟨_, rfl⟩ | ⟨c, _, hsome, _⟩
  · exact finishExpected_fields _ _ _
  · rw [htaken] at hsome
    cases hsome

/-- **The row of a passage stems from the sources.** -/
theorem route_stems (hkeyed : s.isKeyed = true) (hp : p ∈ passages s expected actual)
    (h : p.route s = .ok r) : RowStems s expected actual r := by
  refine ⟨route_children h, (route_filed h).passed.mp, ?_⟩
  cases htaken : p.taken with
  | none =>
    obtain ⟨hplace, hfields⟩ := route_alone h htaken
    have hrow := List.mem_map_of_mem (f := Passage.row) hp
    rw [passages_row] at hrow
    rw [hplace]
    exact ⟨p.row, hrow, _, hfields⟩
  | some c =>
    obtain ⟨hplace, hleaves⟩ := route_pair h htaken
    have hq : (p.row, c.row) ∈ comparedPairs s expected actual := by
      rw [comparedPairs, if_pos hkeyed]
      exact List.mem_filterMap.mpr ⟨p, hp, by rw [htaken]; rfl⟩
    rcases hplace with hplace | hplace
    · rw [hplace]
      exact ⟨_, hq, hleaves⟩
    · rw [hplace]
      exact ⟨_, hq, hleaves⟩

end Passage

/-- The row of a candidate that is left over stems from the actual side. -/
theorem surplus_stems {c : Candidate} (h : c ∈ leftOver s expected actual) :
    RowStems s expected actual ⟨.extra, surplusRow s c⟩ := by
  have hcandidate := (mem_candidates_iff s expected actual).mpr (.inr h)
  have hrow := List.mem_map_of_mem (f := Candidate.row) hcandidate
  rw [candidates_row] at hrow
  exact ⟨markIf_children _ _, nofun, c.row, hrow, _, markIf_fields _ _⟩

/-- The rows of a keyed run stem from its sources. -/
theorem keyed_reports (hkeyed : s.isKeyed = true) {routed : List RoutedRow}
    (h : List.Forall₂ (fun p r => p.route s = .ok r) (passages s expected actual) routed) :
    Reports s expected actual (routed ++ routeLeftovers s (leftOver s expected actual)) := by
  have hroutes := mapM_eq_ok_iff.mpr h
  refine ⟨fun r hr => ?_, fun q hq => ?_⟩
  · rcases List.mem_append.mp hr with hr | hr
    · obtain ⟨p, hp, hroute⟩ := (mem_mapM_ok_iff hroutes).mp hr
      exact p.route_stems hkeyed hp hroute
    · rw [routeLeftovers_eq] at hr
      obtain ⟨c, hc, rfl⟩ := List.mem_map.mp hr
      exact surplus_stems (List.mem_filter.mp hc).1
  · rw [comparedPairs, if_pos hkeyed] at hq
    obtain ⟨p, hp, hq⟩ := List.mem_filterMap.mp hq
    obtain ⟨c, htaken, rfl⟩ := Option.map_eq_some_iff.mp hq
    obtain ⟨r, hroute⟩ := mapM_returns_iff.mp ⟨_, hroutes⟩ p hp
    have hr := (mem_mapM_ok_iff hroutes).mpr ⟨p, hp, hroute⟩
    exact ⟨r, List.mem_append_left _ hr, p.route_pair hroute htaken⟩

/-! ## 3. A positional run -/

theorem comparedPairs_of_positional (hkeyed : s.isKeyed = false) :
    comparedPairs s expected actual = expected.zip actual := by
  rw [comparedPairs, hkeyed, if_neg Bool.false_ne_true]

/-- The nodes of pairs of rows have the leaves of these pairs. -/
theorem pairNodes_leaves {pairs : List (Row × Row)} {nodes : List Tree} {n : Nat}
    (h : pairNodes s n pairs = .ok nodes) :
    (∀ row ∈ nodes, row.children = [] ∧ ∃ q ∈ pairs, pairLeaves s q = .ok row.fields) ∧
      ∀ q ∈ pairs, ∃ row ∈ nodes, pairLeaves s q = .ok row.fields := by
  have hplaces : ∀ q : Row × Row, q ∈ pairs ↔ ∃ i, (q, i) ∈ pairs.zipIdx n := by
    intro q
    conv_lhs => rw [← List.zipIdx_map_fst n pairs, List.mem_map]
    exact ⟨fun ⟨p, hp, h⟩ => ⟨p.2, h ▸ hp⟩, fun ⟨i, hi⟩ => ⟨_, hi, rfl⟩⟩
  constructor
  · intro row hrow
    obtain ⟨⟨q, i⟩, hq, hpair⟩ := (mem_mapM_ok_iff h).mp hrow
    obtain ⟨hleaves, hchildren⟩ := pairLeaves_of_comparePair hpair
    exact ⟨hchildren, q, (hplaces q).mpr ⟨i, hq⟩, hleaves⟩
  · intro q hq
    obtain ⟨i, hi⟩ := (hplaces q).mp hq
    obtain ⟨row, hpair⟩ := mapM_returns_iff.mp ⟨_, h⟩ _ hi
    exact ⟨row, (mem_mapM_ok_iff h).mpr ⟨_, hi, hpair⟩, (pairLeaves_of_comparePair hpair).1⟩

/-- The rows beyond the end of the other side have the leaves of these rows. -/
theorem mem_missingNodes {n : Nat} {rows : List Row} {row : Tree}
    (h : row ∈ missingNodes s n rows) : ∃ e ∈ rows, ∃ name, row = notFoundRow s name e := by
  obtain ⟨q, hq, rfl⟩ := List.mem_map.mp h
  exact ⟨q.1, List.fst_mem_of_mem_zipIdx hq, _, rfl⟩

theorem mem_surplusNodes {n : Nat} {rows : List Row} {row : Tree}
    (h : row ∈ surplusNodes s n rows) : ∃ a ∈ rows, ∃ name, row = extraRow s name a := by
  unfold surplusNodes at h
  split at h
  · cases h
  · obtain ⟨q, hq, rfl⟩ := List.mem_map.mp h
    exact ⟨q.1, List.fst_mem_of_mem_zipIdx hq, _, rfl⟩

/-- The rows of a positional run stem from its sources. -/
theorem positional_reports (hkeyed : s.isKeyed = false) {nodes : List Tree}
    (h : pairNodes s 1 (expected.zip actual) = .ok nodes) :
    Reports s expected actual (positionalRows s 1 nodes expected actual) := by
  obtain ⟨hnodes, hpairs⟩ := pairNodes_leaves h
  rw [← comparedPairs_of_positional hkeyed] at hnodes hpairs
  have hofPair : ∀ row, Section.ofPair row = .passed ∨ Section.ofPair row = .failed := by
    intro row
    unfold Section.ofPair
    cases row.success
    · exact .inr rfl
    · exact .inl rfl
  refine ⟨fun r hr => ?_, fun q hq => ?_⟩
  · unfold positionalRows at hr
    simp only [List.mem_append, List.mem_map] at hr
    rcases hr with ⟨row, hrow, rfl⟩ | ⟨row, hrow, rfl⟩ | ⟨row, hrow, rfl⟩
    · obtain ⟨hchildren, hstems⟩ := hnodes row hrow
      refine ⟨hchildren, (ofPair_eq_passed row).mp, ?_⟩
      rcases hofPair row with hplace | hplace
      · rw [hplace]
        exact hstems
      · rw [hplace]
        exact hstems
    · obtain ⟨e, he, name, rfl⟩ := mem_missingNodes hrow
      exact ⟨rfl, nofun, e, List.mem_of_mem_drop he, name, rfl⟩
    · obtain ⟨a, ha, name, rfl⟩ := mem_surplusNodes hrow
      exact ⟨rfl, nofun, a, List.mem_of_mem_drop ha, name, rfl⟩
  · obtain ⟨row, hrow, hleaves⟩ := hpairs q hq
    exact ⟨_, List.mem_append_left _ (List.mem_map_of_mem hrow), hofPair row, hleaves⟩

/-! ## 4. Trees with caps -/

/-- The routed rows of what a run comes to. -/
def Findings.routed : Findings → List RoutedRow
  | .nothing => []
  | .rows routed _ => routed

theorem sectionTree_hasErrors (name : String) (cap : Int) (rows : List Tree) :
    (sectionTree name cap rows).hasErrors = (stored cap rows).any Tree.hasErrors := by
  rw [Tree.hasErrors_eq, sectionTree_children]
  rfl

/-- A report has the errors of the rows that its sections hold. -/
theorem report_hasErrors (c : Caps) (routed : List RoutedRow) : (report c routed).hasErrors =
    Section.all.any fun p => (stored (p.cap c) (rowsOf p routed)).any Tree.hasErrors := by
  rw [Tree.hasErrors_eq, report_children, List.any_map]
  simp only [Function.comp_def, sectionTree_hasErrors]
  rfl

/-- The node for the numbers of rows has no errors. -/
theorem withRowCount_hasErrors (t : Tree) (rowCount : Option String) :
    (withRowCount t rowCount).hasErrors = t.hasErrors := by
  cases rowCount with
  | none => rfl
  | some comment =>
    rw [Tree.hasErrors_eq, Tree.hasErrors_eq t, withRowCount_children, List.any_append]
    simp [withRowCount, Tree.addChild, Tree.failure, Tree.hasErrors, Tree.someHasErrors]

namespace Findings

/-- A section of a tree holds the first of the rows that were routed to it. -/
theorem sectionRows (found : Findings) (c : Caps) (p : Section) :
    sectionRows (found.tree c) p = stored (p.cap c) (rowsOf p found.routed) := by
  cases found with
  | nothing =>
    have hempty : stored (p.cap c) [] = [] := List.prefix_nil.mp (stored_isPrefix _ _)
    exact hempty.symm
  | rows routed rowCount =>
    unfold Table.sectionRows tree
    rw [child?_section, Option.map_some, Option.getD_some, sectionTree_children]
    rfl

theorem sectionRows_unlimited (found : Findings) (p : Section) :
    Table.sectionRows (found.tree {}) p = rowsOf p found.routed := by
  rw [sectionRows]
  cases p <;> exact stored_unlimited _

/-- **A tree has errors when a row that it holds has some.** -/
theorem hasErrors (found : Findings) (c : Caps) : (found.tree c).hasErrors = true ↔
    ∃ p : Section, ∃ row ∈ stored (p.cap c) (rowsOf p found.routed), row.hasErrors = true := by
  cases found with
  | nothing =>
    refine iff_of_false nofun ?_
    rintro ⟨p, row, hrow, _⟩
    exact absurd ((stored_isPrefix _ _).subset hrow) List.not_mem_nil
  | rows routed rowCount =>
    rw [tree, withRowCount_hasErrors, report_hasErrors, List.any_eq_true]
    simp only [List.any_eq_true, Section.mem_all, true_and]
    rfl

end Findings

/-! ## 5. Runs -/

section Caps

variable (s) (c : Caps)

theorem candidatesFrom_caps : ∀ (rows : List Row) (n : Nat) (seen : KeyList String),
    candidatesFrom { s with caps := c } n seen rows = candidatesFrom s n seen rows
  | [], _, _ => rfl
  | row :: rest, n, seen => by
    rw [candidatesFrom_cons, candidatesFrom_cons, candidatesFrom_caps rest]
    rfl

theorem passagesFrom_caps : ∀ (rows : List Row) (n : Nat) (seen : KeyList String)
    (left : List Candidate),
    passagesFrom { s with caps := c } n seen left rows = passagesFrom s n seen left rows
  | [], _, _, _ => rfl
  | row :: rest, n, seen, left => by
    rw [passagesFrom_cons, passagesFrom_cons, passagesFrom_caps rest]
    rfl

/-- Which pairs are compared does not depend on the caps. -/
theorem comparedPairs_caps (expected actual : List Row) :
    comparedPairs { s with caps := c } expected actual = comparedPairs s expected actual := by
  have hpassages : passages { s with caps := c } expected actual = passages s expected actual := by
    unfold passages candidates
    rw [candidatesFrom_caps, passagesFrom_caps]
  unfold comparedPairs
  rw [hpassages]
  rfl

variable {s} {c}

theorem LeavesStem.of_caps {expected actual : List Row} {leaves : List Leaf} {p : Section}
    (h : LeavesStem { s with caps := c } expected actual leaves p) :
    LeavesStem s expected actual leaves p := by
  cases p with
  | passed | failed =>
    obtain ⟨q, hq, hleaves⟩ := h
    rw [comparedPairs_caps] at hq
    exact ⟨q, hq, hleaves⟩
  | notFound | extra => exact h

variable (s) in
/-- What the rows of a report stem from does not depend on the caps. -/
theorem Reports.of_caps {expected actual : List Row} {routed : List RoutedRow}
    (h : Reports { s with caps := c } expected actual routed) : Reports s expected actual routed where
  rows r hr := ⟨(h.rows r hr).children, (h.rows r hr).passed, (h.rows r hr).leaves.of_caps⟩
  pairs q hq := by
    rw [← comparedPairs_caps s c] at hq
    exact h.pairs q hq

end Caps

/-- A run reports on rows that stem from its sources, in the sections of its report. -/
theorem compare_stems {expected actual : Supply} {t : Tree}
    (h : (compare s expected actual).result = .ok t) : ∃ found : Findings,
      t = found.tree s.caps ∧ Reports s expected.source.rows actual.source.rows found.routed := by
  cases hkeyed : s.isKeyed with
  | true =>
    obtain ⟨routed, hrouted, rfl⟩ := compare_keyed_ok hkeyed h
    have hreports := keyed_reports hkeyed hrouted
    refine ⟨_, keyedReport_findings _ _ _ _, ?_⟩
    split
    · rename_i hnone
      rwa [nothing_routed hrouted hnone] at hreports
    · exact hreports
  | false =>
    obtain ⟨nodes, hnodes, rfl⟩ := compare_positional_ok hkeyed h
    have hreports := positional_reports hkeyed hnodes
    refine ⟨_, positionalReport_findings _ _ _ _, ?_⟩
    split
    · rename_i hnone
      obtain ⟨he, ha⟩ := hnone
      rw [List.length_eq_zero_iff] at he ha
      rw [he, ha] at hnodes hreports ⊢
      obtain rfl : [] = nodes := Except.ok.inj hnodes
      rwa [positionalRows_nil_left, surplusNodes_nil] at hreports
    · exact hreports

/-- **Every run that returns** comes to rows that stem from its sources, and it would come to the
    same ones with any other caps. -/
theorem compare_reports {expected actual : Supply} {t : Tree}
    (h : (compare s expected actual).result = .ok t) : ∃ found : Findings,
      Reports s expected.source.rows actual.source.rows found.routed ∧
      t = found.tree s.caps ∧
      ∀ c : Caps, (compare { s with caps := c } expected actual).result = .ok (found.tree c) := by
  obtain ⟨result, hresult⟩ := compare_findings s expected actual
  cases result with
  | error f =>
    rw [show s = { s with caps := s.caps } from rfl, hresult] at h
    cases h
  | ok found =>
    have ht : t = found.tree s.caps := Except.ok.inj (h.symm.trans (hresult s.caps))
    obtain ⟨found', htree, hreports⟩ := compare_stems (hresult {})
    -- without caps both hold the same rows, section by section
    have hrows : ∀ r, r ∈ found.routed ↔ r ∈ found'.routed := by
      rintro ⟨p, row⟩
      rw [← mem_rowsOf, ← mem_rowsOf, ← found.sectionRows_unlimited, ← found'.sectionRows_unlimited]
      show row ∈ sectionRows (found.tree {}) p ↔ _
      rw [show found.tree {} = found'.tree {} from htree]
    exact ⟨found, (hreports.of_caps s).congr fun r => (hrows r).symm, ht, hresult⟩

end Reconcile.Table
