import Reconcile.Proofs.Table.InStep

/-!
# Mapped columns are renamed columns

A mapping of columns says which actual column an expected one stands for. Instead of being told so, a
run may be given an actual table whose columns already have their expected names: the mapping is
consulted for the key of a row, for the check of the key columns, for the columns that are compared
and for those that are ignored, and in each of these places the renamed table answers the same.

* `Renamable`: when columns of the actual side can be given their expected names;
* `expectedName`, `Supply.renamed`: the names, and the table that bears them;
* `Renamable.renamed_columns`, `Renamable.get_renamed`: its header and the values of its rows;
* `comparePair_renamed`, `rowsInStep_renamed`: single rows are treated alike;
* `SameResults`, `ReportsInStep.sameResults`: reports that differ in surplus rows only;
* **`column_mapping_renames`**: what a run comes to.
-/

namespace Reconcile.Table

open Reconcile.Diff Reconcile.Expectation

/-! ## 1. Names of actual columns on the expected side -/

section Names

variable (s : Settings) (expected : List String)

/-- The columns of an actual table can be renamed for the columns of an expected one: no two of
    these stand for the same actual column, a column that none of them stands for is not called as
    one of them, and a column that is renamed is not ignored under its actual name. -/
structure Renamable (actual : List String) : Prop where
  distinct : ∀ c ∈ expected, ∀ d ∈ expected, s.actualColumn c = s.actualColumn d → c = d
  free : ∀ a ∈ actual, a ∉ expected.map s.actualColumn → a ∉ expected
  ignored : ∀ c ∈ expected, s.actualColumn c ≠ c → s.actualColumn c ∉ s.ignoreColumns

/-- The expected name of an actual column: that of the column that stands for it, or its own. -/
def expectedName (column : String) : String :=
  (expected.find? fun c => s.actualColumn c == column).getD column

end Names

variable {s : Settings} {expected actual : List String}

theorem expectedName_of_not_mem {a : String} (h : a ∉ expected.map s.actualColumn) :
    expectedName s expected a = a := by
  have hnone : (expected.find? fun c => s.actualColumn c == a) = none :=
    List.find?_eq_none.mpr fun c hc ha => h (List.mem_map.mpr ⟨c, hc, eq_of_beq ha⟩)
  rw [expectedName, hnone, Option.getD_none]

theorem Renamable.expectedName_actualColumn (h : Renamable s expected actual) {c : String}
    (hc : c ∈ expected) : expectedName s expected (s.actualColumn c) = c := by
  unfold expectedName
  cases hfound : expected.find? fun d => s.actualColumn d == s.actualColumn c with
  | none => exact absurd (beq_self_eq_true _) (List.find?_eq_none.mp hfound c hc)
  | some d =>
    have hsame := List.find?_some hfound
    exact h.distinct d (List.mem_of_find?_eq_some hfound) c hc (eq_of_beq hsame)

/-- The column that is called as an expected one is the one that it stands for. -/
theorem Renamable.expectedName_eq_iff (h : Renamable s expected actual) {a c : String}
    (ha : a ∈ actual) (hc : c ∈ expected) :
    expectedName s expected a = c ↔ a = s.actualColumn c := by
  constructor
  · intro hname
    by_cases hmapped : a ∈ expected.map s.actualColumn
    · obtain ⟨d, hd, rfl⟩ := List.mem_map.mp hmapped
      rw [h.expectedName_actualColumn hd] at hname
      rw [hname]
    · rw [expectedName_of_not_mem hmapped] at hname
      exact absurd (hname ▸ hc) (h.free a ha hmapped)
  · rintro rfl
    exact h.expectedName_actualColumn hc

/-- A column that no expected one stands for shares its name with no other column. -/
theorem Renamable.expectedName_eq_other_iff (h : Renamable s expected actual) {a x : String}
    (ha : a ∈ actual) (hother : a ∉ expected.map s.actualColumn) :
    expectedName s expected x = a ↔ x = a := by
  constructor
  · intro hname
    by_cases hmapped : x ∈ expected.map s.actualColumn
    · obtain ⟨c, hc, rfl⟩ := List.mem_map.mp hmapped
      rw [h.expectedName_actualColumn hc] at hname
      exact absurd (hname ▸ hc) (h.free a ha hother)
    · rwa [expectedName_of_not_mem hmapped] at hname
  · rintro rfl
    exact expectedName_of_not_mem hother

/-- Renaming takes no two columns together. -/
theorem Renamable.nodup (h : Renamable s expected actual) (hactual : actual.Nodup) :
    (actual.map (expectedName s expected)).Nodup := by
  refine List.Nodup.map_on (fun a ha b hb hname => ?_) hactual
  by_cases hmapped : b ∈ expected.map s.actualColumn
  · obtain ⟨c, hc, rfl⟩ := List.mem_map.mp hmapped
    rw [h.expectedName_actualColumn hc] at hname
    exact (h.expectedName_eq_iff ha hc).mp hname
  · rw [expectedName_of_not_mem hmapped] at hname
    exact (h.expectedName_eq_other_iff hb hmapped).mp hname

/-! ## 2. Renamed tables -/

/-- A header under other names, if these are distinct. -/
def Header.renamed (f : String → String) (h : Header) : Header :=
  if hnodup : (h.columns.map f).Nodup then ⟨h.columns.map f, hnodup⟩ else h

theorem Header.renamed_length (f : String → String) (h : Header) :
    (h.renamed f).columns.length = h.columns.length := by
  unfold Header.renamed
  split
  · exact List.length_map f
  · rfl

/-- A row with the same values under other names. -/
def Row.renamed (f : String → String) (r : Row) : Row :=
  ⟨r.header.renamed f, r.values, (r.header.renamed_length f).symm ▸ r.fits⟩

/-- A source whose columns are called otherwise. -/
def Source.renamed (f : String → String) (src : Source) : Source :=
  { src with header := src.header.renamed f, rows := src.rows.map (Row.renamed f) }

/-- A table whose columns are called otherwise, handed over in the same way. -/
def Supply.renamed (f : String → String) : Supply → Supply
  | .held src => .held (src.renamed f)
  | .factory src fault => .factory (src.renamed f) fault

theorem Supply.acquire_renamed (f : String → String) (p : Supply) (side : String) :
    (p.renamed f).acquire side = (p.acquire side).map (Source.renamed f) := by
  cases p with
  | held src => rfl
  | factory src fault => cases fault <;> rfl

variable {header : Header}

/-- **The renamed header** has the expected name of every column, in the same place. -/
theorem Renamable.renamed_columns (h : Renamable s expected header.columns) :
    (header.renamed (expectedName s expected)).columns =
      header.columns.map (expectedName s expected) := by
  rw [Header.renamed, dif_pos (h.nodup header.nodup)]

theorem findIdx?_congr_of_mem {α : Type} {p q : α → Bool} :
    ∀ {as : List α}, (∀ a ∈ as, p a = q a) → as.findIdx? p = as.findIdx? q
  | [], _ => rfl
  | a :: as, h => by
    obtain ⟨hhead, hrest⟩ := List.forall_mem_cons.mp h
    rw [List.findIdx?_cons, List.findIdx?_cons, hhead, findIdx?_congr_of_mem hrest]

/-- A column of the renamed row has the value of the column that has become it. -/
theorem Renamable.get_renamed {row : Row} (h : Renamable s expected row.header.columns)
    {a d : String} (hname : ∀ x ∈ row.header.columns, expectedName s expected x = d ↔ x = a) :
    (row.renamed (expectedName s expected)).get d = row.get a := by
  have hplace : (row.header.columns.map (expectedName s expected)).idxOf? d =
      row.header.columns.idxOf? a := by
    unfold List.idxOf?
    rw [List.findIdx?_map]
    refine findIdx?_congr_of_mem fun x hx => ?_
    rw [Function.comp_apply, Bool.eq_iff_iff, beq_iff_eq, beq_iff_eq, hname x hx]
  unfold Row.get Header.position?
  show ((((row.header.renamed (expectedName s expected)).columns).idxOf? d).bind _).join = _
  rw [h.renamed_columns, hplace]
  rfl

/-- A renamed row has its values under the names of the expected columns. -/
theorem Renamable.get_expected {row : Row} (h : Renamable s expected row.header.columns)
    {c : String} (hc : c ∈ expected) :
    (row.renamed (expectedName s expected)).get c = row.get (s.actualColumn c) :=
  h.get_renamed fun _ hx => h.expectedName_eq_iff hx hc

/-- It keeps the values of columns that no expected one stands for. -/
theorem Renamable.get_other {row : Row} (h : Renamable s expected row.header.columns)
    {a : String} (ha : a ∈ row.header.columns) (hother : a ∉ expected.map s.actualColumn) :
    (row.renamed (expectedName s expected)).get a = row.get a :=
  h.get_renamed fun _ _ => h.expectedName_eq_other_iff ha hother

/-! ## 3. Rows -/

/-- A key is read from the renamed row without the mapping. -/
theorem actualKey_renamed {row : Row} (h : Renamable s expected row.header.columns)
    (hkeys : ∀ c ∈ s.keyColumns, c ∈ expected) : actualKey s row =
      actualKey { s with columnMapping := [] } (row.renamed (expectedName s expected)) :=
  congrArg RowKey.mk (List.map_congr_left fun c hc =>
    congrArg (Prod.mk c) (h.get_expected (hkeys c hc)).symm)

/-- The column of a comparison without the mapping. -/
def ComparedColumn.unmapped : ComparedColumn → ComparedColumn
  | .paired c _ => .paired c c
  | .surplus a => .surplus a

/-- An expected column is left out beside the renamed table when it was beside the mapped one. -/
theorem Renamable.ignored_congr (h : Renamable s expected actual) {c : String} (hc : c ∈ expected) :
    (!s.ignoreColumns.contains c && !s.ignoreColumns.contains c) =
      (!s.ignoreColumns.contains c && !s.ignoreColumns.contains (s.actualColumn c)) := by
  by_cases hname : s.actualColumn c = c
  · rw [hname]
  · have hactual : s.ignoreColumns.contains (s.actualColumn c) = false := by
      rw [← Bool.not_eq_true, List.contains_iff_mem]
      exact h.ignored c hc hname
    rw [hactual, Bool.and_self, Bool.not_false, Bool.and_true]

/-- A column is surplus in the renamed table when it was in the mapped one. -/
theorem Renamable.surplus_congr (h : Renamable s expected actual) {a : String} (ha : a ∈ actual) :
    (!expected.contains (expectedName s expected a) &&
        !s.ignoreColumns.contains (expectedName s expected a)) =
      (!(expected.map s.actualColumn).contains a && !s.ignoreColumns.contains a) := by
  by_cases hmapped : a ∈ expected.map s.actualColumn
  · obtain ⟨c, hc, rfl⟩ := List.mem_map.mp hmapped
    rw [h.expectedName_actualColumn hc, List.contains_iff_mem.mpr hc,
      List.contains_iff_mem.mpr hmapped]
    rfl
  · have hfree := h.free a ha hmapped
    rw [expectedName_of_not_mem hmapped, Bool.eq_iff_iff]
    simp [hfree, List.mem_map.not.mp hmapped]

/-- The surplus columns of the renamed table are those of the mapped one, under their own names. -/
theorem Renamable.surplus_columns (h : Renamable s expected actual) :
    ((actual.map (expectedName s expected)).filter fun a =>
        !expected.contains a && !s.ignoreColumns.contains a) =
      actual.filter fun a =>
        !(expected.map s.actualColumn).contains a && !s.ignoreColumns.contains a := by
  have hsame : (actual.filter ((fun a => !expected.contains a && !s.ignoreColumns.contains a) ∘
      expectedName s expected)) = actual.filter fun a =>
        !(expected.map s.actualColumn).contains a && !s.ignoreColumns.contains a :=
    List.filter_congr fun a ha => h.surplus_congr ha
  rw [List.filter_map, hsame]
  refine (List.map_congr_left fun a ha => ?_).trans (List.map_id _)
  have hother := (List.mem_filter.mp ha).2
  rw [Bool.and_eq_true, Bool.not_eq_true', ← Bool.not_eq_true, List.contains_iff_mem] at hother
  exact expectedName_of_not_mem hother.1

/-- **The compared columns are the same ones** under their expected names. -/
theorem comparedColumns_renamed {e a : Header} (h : Renamable s e.columns a.columns) :
    comparedColumns { s with columnMapping := [] } e (a.renamed (expectedName s e.columns)) =
      (comparedColumns s e a).map ComparedColumn.unmapped := by
  have hmapped : e.columns.map (Settings.actualColumn { s with columnMapping := [] }) = e.columns :=
    List.map_id' _
  unfold comparedColumns
  rw [hmapped, h.renamed_columns]
  dsimp only
  rw [h.surplus_columns, List.map_append, List.map_map, List.map_map]
  refine congrArg₂ (· ++ ·) ?_ rfl
  exact congrArg _ (List.filter_congr fun c hc => h.ignored_congr hc)

/-- A surplus column is one that no expected column stands for. -/
theorem surplus_mem_comparedColumns {e a : Header} {c : String}
    (h : .surplus c ∈ comparedColumns s e a) : c ∈ a.columns ∧ c ∉ e.columns.map s.actualColumn := by
  unfold comparedColumns at h
  rcases List.mem_append.mp h with h | h
  · obtain ⟨_, _, h⟩ := List.mem_map.mp h
    cases h
  · obtain ⟨_, hc, h⟩ := List.mem_map.mp h
    obtain rfl := ComparedColumn.surplus.inj h
    obtain ⟨hmem, hother⟩ := List.mem_filter.mp hc
    rw [Bool.and_eq_true, Bool.not_eq_true', ← Bool.not_eq_true, List.contains_iff_mem] at hother
    exact ⟨hmem, hother.1⟩

/-- A compared column has the same leaf. -/
theorem compareColumn_renamed {e a : Row} (h : Renamable s e.header.columns a.header.columns)
    {column : ComparedColumn} (hcolumn : column ∈ comparedColumns s e.header a.header) :
    compareColumn { s with columnMapping := [] } e (a.renamed (expectedName s e.header.columns))
      column.unmapped = compareColumn s e a column := by
  cases column with
  | paired c d =>
    obtain ⟨hc, _, _, rfl⟩ := paired_mem_comparedColumns.mp hcolumn
    rw [ComparedColumn.unmapped, compareColumn, compareColumn, h.get_expected hc]
    rfl
  | surplus c =>
    obtain ⟨hc, hother⟩ := surplus_mem_comparedColumns hcolumn
    rw [ComparedColumn.unmapped, compareColumn, compareColumn, h.get_other hc hother]

/-- **An expected row compares to the renamed row as it does to the mapped one**: each of its columns
    finds the same value there, and the same columns are left to be reported. -/
theorem comparePair_renamed {name : String} {e a : Row}
    (h : Renamable s e.header.columns a.header.columns) :
    comparePair { s with columnMapping := [] } name e
      (a.renamed (expectedName s e.header.columns)) = comparePair s name e a := by
  have hleaves : (comparedColumns { s with columnMapping := [] } e.header
        (a.header.renamed (expectedName s e.header.columns))).mapM
          (compareColumn { s with columnMapping := [] } e
            (a.renamed (expectedName s e.header.columns))) =
      (comparedColumns s e.header a.header).mapM (compareColumn s e a) := by
    rw [comparedColumns_renamed h]
    exact mapM_congr_of_forall₂ (List.forall₂_map_left_iff.mpr
      (List.forall₂_same.mpr fun _ hcolumn => compareColumn_renamed h hcolumn))
  unfold comparePair
  exact congrArg (· >>= _) hleaves

/-! ## 4. Runs -/

/-- Surplus rows that are reported alike, whatever their columns are called. -/
structure AlikeSurplus (t u : Tree) : Prop where
  name : t.name = u.name
  comment : t.comment = u.comment
  success : t.success = u.success

theorem alikeSurplus_kept : KeptNodes AlikeSurplus where
  success h := h.success
  marked {t u} h first := by
    refine ⟨?_, ?_, ?_⟩
    · cases first with
      | none => exact h.name
      | some first =>
        show some _ = some _
        rw [h.name]
    · cases first <;> exact h.comment
    · rw [markIf_success, markIf_success, h.success]
  keyed {t u} h key := by
    refine ⟨h.name, ?_, ?_⟩
    · unfold commentKey
      rw [h.comment]
    · rw [commentKey_success, commentKey_success, h.success]

theorem eq_kept : KeptNodes Eq where
  success h := congrArg _ h
  marked h first := congrArg (markIf · first) h
  keyed h key := congrArg (commentKey · key) h

/-- **A renamed row is treated without the mapping as the row is with it.** -/
theorem rowsInStep_renamed (h : Renamable s expected header.columns)
    (hkeys : ∀ c ∈ s.keyColumns, c ∈ expected) :
    RowsInStep s [] expected
      (fun a b => a.header = header ∧ b = a.renamed (expectedName s expected)) Eq AlikeSurplus where
  key := by
    rintro a _ ⟨rfl, rfl⟩
    exact actualKey_renamed h hkeys
  pair := by
    rintro name e a _ rfl ⟨rfl, rfl⟩
    rw [comparePair_renamed h]
    exact .refl _
  surplus := by
    rintro name a _ ⟨rfl, rfl⟩
    refine ⟨rfl, rfl, ?_⟩
    rw [extraRow_success, extraRow_success]
    rfl
  same _ := rfl
  results := eq_kept
  extras := alikeSurplus_kept

/-- A table and the renamed one can be read equally far. -/
theorem sourcesInStep_renamed (f : String → String) {src : Source}
    (hrows : ∀ row ∈ src.rows, row.header = src.header) :
    SourcesInStep (fun a b => a.header = src.header ∧ b = a.renamed f) src (src.renamed f) where
  rows := List.forall₂_map_right_iff.mpr
    (List.forall₂_same.mpr fun row hrow => ⟨hrows row hrow, rfl⟩)
  closed := rfl
  headerFault := rfl
  rowFault := rfl

/-- Reports with the same verdict that hold the same results, in the same sections, and surplus rows
    that are reported alike. -/
structure SameResults (t u : Tree) : Prop where
  success : t.success = u.success
  comment : t.comment = u.comment
  results : ∀ p : Section, p ≠ .extra → t.child? p.name = u.child? p.name
  rowCount : t.child? "Row count" = u.child? "Row count"
  extras : List.Forall₂ AlikeSurplus (sectionRows t .extra) (sectionRows u .extra)

theorem RoutedInStep.success {N X : Tree → Tree → Prop} (hN : KeptNodes N) (hX : KeptNodes X)
    {r q : RoutedRow} (h : RoutedInStep N X r q) : r.row.success = q.row.success := by
  cases h with
  | result _ h => exact hN.success h
  | surplus h => exact hX.success h

theorem rowsOf_cons (p : Section) (r : RoutedRow) (routed : List RoutedRow) :
    rowsOf p (r :: routed) = if r.place = p then r.row :: rowsOf p routed else rowsOf p routed := by
  unfold rowsOf
  rw [List.filter_cons]
  by_cases hp : r.place = p
  · rw [if_pos hp, if_pos (beq_iff_eq.mpr hp), List.map_cons]
  · rw [if_neg hp, if_neg (beq_iff_eq.not.mpr hp)]

section Reports

variable {X : Tree → Tree → Prop} {routed routed' : List RoutedRow}

/-- The results of rows in step are the same rows in each section. -/
theorem rowsOf_inStep (h : List.Forall₂ (RoutedInStep Eq X) routed routed') {p : Section}
    (hp : p ≠ .extra) : rowsOf p routed = rowsOf p routed' := by
  induction h with
  | nil => rfl
  | cons hrow _ ih =>
    rw [rowsOf_cons, rowsOf_cons, ih]
    cases hrow with
    | result _ htu => rw [htu]
    | surplus _ => rw [if_neg hp.symm, if_neg hp.symm]

/-- Their surplus rows are in the relation one by one. -/
theorem rowsOf_extra_inStep (h : List.Forall₂ (RoutedInStep Eq X) routed routed') :
    List.Forall₂ X (rowsOf .extra routed) (rowsOf .extra routed') := by
  induction h with
  | nil => exact .nil
  | cons hrow _ ih =>
    rw [rowsOf_cons, rowsOf_cons]
    cases hrow with
    | result hplace _ => rwa [if_neg hplace, if_neg hplace]
    | surplus htu => exact .cons htu ih

end Reports

/-- **Runs in step report the same results**, when these are the same one by one. -/
theorem ReportsInStep.sameResults {c : Caps} {t u : Tree}
    (h : ReportsInStep Eq AlikeSurplus c t u) : SameResults t u := by
  obtain ⟨_, _, hfound, rfl, rfl⟩ := h
  cases hfound with
  | nothing => exact ⟨rfl, rfl, fun _ _ => rfl, rfl, .nil⟩
  | @rows routed routed' hrouted rowCount =>
    obtain ⟨hsuccess, hcomment⟩ := report_verdict c (map_eq_of_forall₂
      (fun _ _ hrow => RoutedInStep.success eq_kept alikeSurplus_kept hrow) hrouted)
    unfold Findings.tree
    refine ⟨?_, ?_, fun p hp => ?_, ?_, ?_⟩
    · rw [withRowCount_success, withRowCount_success, hsuccess]
    · rw [withRowCount_comment, withRowCount_comment, hcomment]
    · rw [child?_section, child?_section, rowsOf_inStep hrouted hp]
    · cases rowCount <;> rfl
    · rw [sectionRows, sectionRows, child?_section, child?_section]
      simp only [Option.map_some, Option.getD_some, sectionTree_children]
      exact stored_forall₂ _ (rowsOf_extra_inStep hrouted)

/-- The key columns are found in the renamed table without the mapping. -/
theorem hasKeyColumns_renamed {e a : Header} (h : Renamable s e.columns a.columns)
    (hkeys : HasKeyColumns s e a) :
    HasKeyColumns { s with columnMapping := [] } e (a.renamed (expectedName s e.columns)) := by
  intro c hc
  obtain ⟨hexpected, hactual⟩ := hkeys c hc
  refine ⟨hexpected, List.contains_iff_mem.mpr ?_⟩
  rw [h.renamed_columns, List.mem_map]
  exact ⟨s.actualColumn c, List.contains_iff_mem.mp hactual,
    h.expectedName_actualColumn (List.contains_iff_mem.mp hexpected)⟩

/-- **A mapping of columns renames them.** Let distinct columns of the expected side stand for
    distinct actual columns, let no other actual column be called as an expected one, and let no
    renamed column be ignored under its actual name; let both sides have the key columns. Then a run
    with the mapping, and one without it over the table whose columns have their expected names,
    end in the same error, or have the same success and comment, the same rows in the sections
    Passed, Failed and Not found, and equally many surplus rows of the same names and success,
    whatever the other settings are. -/
theorem column_mapping_renames {s : Settings} {expected actual : Supply}
    (hexpected : ∀ row ∈ expected.source.rows, row.header = expected.source.header)
    (hactual : ∀ row ∈ actual.source.rows, row.header = actual.source.header)
    (hrenamable : Renamable s expected.source.header.columns actual.source.header.columns)
    (hkeys : HasKeyColumns s expected.source.header actual.source.header) :
    BothGive SameResults (compare s expected actual).result
      (compare { s with columnMapping := [] } expected
        (actual.renamed (expectedName s expected.source.header.columns))).result := by
  have hcolumns : ∀ row ∈ expected.source.rows,
      row.header.columns = expected.source.header.columns := fun row hrow => by
    rw [hexpected row hrow]
  have hmem : ∀ c ∈ s.keyColumns, c ∈ expected.source.header.columns := fun c hc =>
    List.contains_iff_mem.mp (hkeys c hc).1
  unfold compare runSources
  rw [Supply.acquire_renamed]
  cases he : expected.acquire "expected" with
  | error f => exact .error _
  | ok e =>
    obtain rfl := Supply.acquire_ok he
    cases ha : actual.acquire "actual" with
    | error f => exact .error _
    | ok a =>
      obtain rfl := Supply.acquire_ok ha
      refine (compareSources_inStep (rowsInStep_renamed hrenamable hmem) hcolumns
        (sourcesInStep_renamed _ hactual) ?_).imp fun _ _ => ReportsInStep.sameResults
      rw [checkKeyColumns_ok_iff.mpr hkeys]
      exact (checkKeyColumns_ok_iff.mpr (hasKeyColumns_renamed hrenamable hkeys)).symm

/-- The columns of the actual side are called otherwise, one of them as another expected column, and
    there is one more of them; a row is not found, another one surplus. -/
theorem column_mapping_renames_stock :
    let s : Settings :=
      { keyColumns := ["Item"], columnMapping := [("Item", "Count"), ("Count", "Number")]
        ignoreColumns := ["Note"], checkDuplicates := true }
    let expected := stockOf [("pen", "3"), ("ink", "1"), ("pad", "2")]
    let header : Header := ⟨["Number", "Note", "Shelf", "Count"], by decide⟩
    let row (item count : String) : Row :=
      ⟨header, [some count, none, some "4", some item], Nat.le_refl 4⟩
    let actual : Supply := .held { header, rows := [row "pad" "5", row "pen" "3", row "cap" "9"] }
    ∃ t u, (compare s expected actual).result = .ok t ∧
      (compare { s with columnMapping := [] } expected (actual.renamed
        (expectedName s expected.source.header.columns))).result = .ok u ∧
      t.children ≠ [] ∧ SameResults t u := by
  intro s expected header row actual
  obtain ⟨t, ht, hsome⟩ := exists_of_any (r := (compare s expected actual).result)
    (p := fun t => !t.children.isEmpty) (by decide +kernel)
  have hrenamable : Renamable s expected.source.header.columns actual.source.header.columns :=
    ⟨by decide, by decide, by decide⟩
  have hkeys : HasKeyColumns s expected.source.header actual.source.header := by
    intro c hc
    obtain rfl := List.mem_singleton.mp hc
    decide
  have hboth : BothGive SameResults (compare s expected actual).result
      (compare { s with columnMapping := [] } expected (actual.renamed
        (expectedName s expected.source.header.columns))).result :=
    column_mapping_renames (by decide) (by decide) hrenamable hkeys
  obtain ⟨u, hu, hsame⟩ := hboth.of_ok ht
  exact ⟨t, u, ht, hu, by simpa using hsome, hsame⟩

end Reconcile.Table
