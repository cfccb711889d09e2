import Reconcile.Proofs.Table.CellEquality
import Reconcile.Proofs.Table.KeyedAccount

/-!
# Paired rows match in their keys

A keyed run pairs rows by an index and then compares the rows of each pair cell by cell. The index
looks at key columns as they stand, in buckets and up to tolerances; the comparison looks at them
once more, trimmed and perhaps regardless of case. The two agree: what the index paired, the
comparison finds to match in every key column that it looks at.

* `rowsMatch_iff`: rows have equal keys when their cells are equal in every key column;
* `KeysMatched`, **`comparePair_keysMatched`**: the node of two rows with equal keys;
* `taken_rowsMatch`: what a passage takes has its key;
* `routedRows`, `routedRows_isPrefix`: the rows that a run routes, also one that is broken off;
* **`paired_rows_match_in_keys`**: in every keyed run, each row that was paired has a matching leaf
  for each key column.
-/

namespace Reconcile.Table

open Reconcile.Diff Reconcile.Expectation

variable {s : Settings}

/-! ## 1. Rows with equal keys -/

/-- Keys of rows are equal when their values are, column by column. -/
theorem sameKey_map_iff (numeric : List (String × Decimal)) (f g : String → Option String) :
    ∀ columns : List String,
      sameKey numeric ⟨columns.map fun c => (c, f c)⟩ ⟨columns.map fun c => (c, g c)⟩ = true ↔
        ∀ c ∈ columns, sameCell (numeric.lookup c) (f c) (g c) = true
  | [] => iff_of_true rfl fun _ h => absurd h List.not_mem_nil
  | c :: rest => by
    have ih := sameKey_map_iff numeric f g rest
    unfold sameKey at ih ⊢
    rw [List.map_cons, List.map_cons, List.isEqv_cons_cons, Bool.and_eq_true, ih,
      List.forall_mem_cons, beq_self_eq_true, Bool.true_and]

/-- **Rows have equal keys** when their cells are equal in every key column, under the name that the
    column has on either side. -/
theorem rowsMatch_iff {expected actual : Row} : rowsMatch s expected actual = true ↔
    ∀ c ∈ s.keyColumns,
      sameCell (s.precision? c) (expected.get c) (actual.get (s.actualColumn c)) = true :=
  sameKey_map_iff s.numericColumns expected.get (fun c => actual.get (s.actualColumn c)) s.keyColumns

/-! ## 2. Nodes of rows with equal keys -/

variable (s) in
/-- The node of a pair of rows has a matching leaf for each key column that is scored and whose
    expected value is absent or a literal. -/
def KeysMatched (expected actual : Row) (node : Tree) : Prop :=
  ∀ c ∈ s.keyColumns, IsScored s c → isExpression (expected.get c) = false →
    matchedLeaf c (expected.get c) (actual.get (s.actualColumn c)) ∈ node.fields

/-- **The node of two rows with equal keys** tells that they match in their key columns. -/
theorem comparePair_keysMatched (hprecision : ∀ c p, s.precision? c = some p → 0 ≤ p.toRat)
    {name : String} {expected actual : Row} {node : Tree}
    (hcolumns : ∀ c ∈ s.keyColumns, c ∈ expected.header.columns)
    (hmatch : rowsMatch s expected actual = true)
    (h : comparePair s name expected actual = .ok node) : KeysMatched s expected actual node := by
  intro c hc hscored hliteral
  have hcell : sameCell (s.precision? c) (expected.get c) (actual.get (s.actualColumn c)) = true :=
    rowsMatch_iff.mp hmatch c hc
  refine (mem_fields_of_comparePair h).mpr
    ⟨_, paired_mem_comparedColumns.mpr ⟨hcolumns c hc, hscored.expected, hscored.actual, rfl⟩, ?_⟩
  rw [compareColumn_of_scored hscored]
  exact compareCell_of_sameCell (hprecision c) hliteral hcell

/-! ## 3. Pairs of a run -/

/-- What a passage takes has its key. -/
theorem taken_rowsMatch : ∀ {rows : List Row} {n : Nat} {seen : KeyList String}
    {left : List Candidate} {p : Passage} {c : Candidate},
    p ∈ passagesFrom s n seen left rows → p.taken = some c → rowsMatch s p.row c.row = true
  | [], _, _, _, _, _, hp, _ => by cases hp
  | row :: rest, n, seen, left, p, c, hp, htaken => by
    rw [passagesFrom_cons] at hp
    rcases List.mem_cons.mp hp with rfl | hrest
    · exact List.find?_some (p := fun d : Candidate => rowsMatch s row d.row) htaken
    · exact taken_rowsMatch hrest htaken

variable (s) in
/-- The rows that a keyed run routes for expected rows against an index of actual ones, up to the
    first pair that breaks it off. -/
def routedRows (expected actual : List Row) : List RoutedRow :=
  (routeRows s 1 expected (.empty s.keyColumns s.numericColumns) (indexRows s actual)).1

/-- Rows that are routed are those of passages, one after the other, as far as none breaks off. -/
theorem routeRows_isPrefix : ∀ (rows : List Row) (n : Nat) {t : DuplicateTracker}
    {seen : KeyList String} {x : KeyIndex Candidate} {left : List Candidate},
    Tracks s t.seen seen → Tracks s x (keyedCandidates s left) →
    ∃ ps, ps <+: passagesFrom s n seen left rows ∧
      List.Forall₂ (fun p r => p.route s = .ok r) ps (routeRows s n rows t x).1
  | [], _, _, _, _, _, _, _ => ⟨[], List.nil_prefix, .nil⟩
  | row :: rest, n, t, seen, x, left, ht, hx => by
    obtain ⟨hfirst, hseen⟩ := registerIf_eq ht (expectedKey_isRowKey s row) s!"Row #{n}"
    rw [passagesFrom_cons, ← hfirst]
    cases hroute : routeExpected s s!"Row #{n}" row (expectedKey s row) x with
    | error b =>
      rw [routeRows_cons_error hroute]
      exact ⟨[], List.nil_prefix, .nil⟩
    | ok step =>
      obtain ⟨r, z⟩ := step
      obtain ⟨hstep, hz⟩ := routeExpected_ok hx
        (registerIf s.checkDuplicates t (expectedKey s row) s!"Row #{n}").1 hroute
      obtain ⟨ps, hprefix, hrows⟩ := routeRows_isPrefix rest (n + 1) hseen hz
      rw [routeRows_cons_ok hroute]
      exact ⟨_ :: ps, List.prefix_cons_inj _ |>.mpr hprefix, .cons hstep hrows⟩

variable {expected actual : List Row}

theorem routedRows_isPrefix : ∃ ps, ps <+: passages s expected actual ∧
    List.Forall₂ (fun p r => p.route s = .ok r) ps (routedRows s expected actual) :=
  routeRows_isPrefix expected 1 (tracks_empty s) (indexRows_tracks actual)

/-- A routed row is that of the passage at its place. -/
theorem routedRows_at {i : Nat} {r : RoutedRow} (hr : (routedRows s expected actual)[i]? = some r) :
    ∃ p, (passages s expected actual)[i]? = some p ∧ p.route s = .ok r := by
  obtain ⟨ps, hprefix, hrows⟩ : ∃ ps, ps <+: passages s expected actual ∧
      List.Forall₂ (fun p r => p.route s = .ok r) ps (routedRows s expected actual) :=
    routedRows_isPrefix
  obtain ⟨later, hlater⟩ := hprefix
  obtain ⟨hi, rfl⟩ := List.getElem?_eq_some_iff.mp hr
  have hp : i < ps.length := by rwa [hrows.length_eq]
  have hpassage : (passages s expected actual)[i]? = some ps[i] := by
    rw [← hlater, List.getElem?_append_left hp, List.getElem?_eq_getElem hp]
  exact ⟨ps[i], hpassage, hrows.get hp hi⟩

/-- Where no pair breaks the run off, all rows are routed. -/
theorem routedRows_eq {routed : List RoutedRow}
    (h : List.Forall₂ (fun p r => p.route s = .ok r) (passages s expected actual) routed) :
    routedRows s expected actual = routed := by
  have hroute := routeRows_passages expected 1 (t := .empty s.keyColumns s.numericColumns)
    (tracks_empty s) (indexRows_tracks (s := s) actual)
  have hrouted : (passagesFrom s 1 [] (candidates s actual) expected).mapM (Passage.route s) =
      .ok routed := mapM_eq_ok_iff.mpr h
  rw [hrouted] at hroute
  obtain ⟨y, hrows, _⟩ := hroute
  rw [routedRows, hrows]

/-! ## 4. Runs -/

variable (s expected actual) in
/-- The rows that were routed for the expected rows account for them, as far as the run came, and
    those that were paired match in their keys. Which actual row each of them takes is told by its
    place. -/
structure PairsMatchInKeys (taken : List (Option Nat)) (routed : List RoutedRow) : Prop where
  takes : TakesFirst s expected actual taken
  rows : ∀ (i : Nat) (e : Row) (r : RoutedRow), expected[i]? = some e → routed[i]? = some r →
    AccountsFor s i e (taken[i]?.join.bind fun j => actual[j]?) r
  keys : ∀ (i j : Nat) (e a : Row) (r : RoutedRow), expected[i]? = some e →
    taken[i]? = some (some j) → actual[j]? = some a → routed[i]? = some r →
    KeysMatched s e a r.row

/-- The rows that a run routes match in their keys where they are paired. -/
theorem pairsMatchInKeys_routedRows
    (hprecision : ∀ c p, s.precision? c = some p → 0 ≤ p.toRat)
    (hcolumns : ∀ row ∈ expected, ∀ c ∈ s.keyColumns, c ∈ row.header.columns) :
    PairsMatchInKeys s expected actual (placesTaken s expected actual)
      (routedRows s expected actual) where
  takes := takesFirst_placesTaken
  rows i e r he hr := by
    obtain ⟨p, hp, hroute⟩ := routedRows_at hr
    exact passage_accounts he hp hroute
  keys i j e a r he hj ha hr := by
    obtain ⟨p, hp, hroute⟩ := routedRows_at hr
    obtain rfl : p.row = e := Option.some.inj ((passage_at s hp).2.symm.trans he)
    -- the place that is taken is that of the candidate, whose row stands there
    rw [placesTaken_eq, List.getElem?_map, hp, Option.map_some] at hj
    obtain ⟨c, htaken, rfl⟩ := Option.map_eq_some_iff.mp (Option.some.inj hj)
    have hmem : c ∈ candidates s actual :=
      (mem_candidates_iff s expected actual).mpr (.inl ⟨p, List.mem_of_getElem? hp, htaken⟩)
    obtain rfl : c.row = a := Option.some.inj ((candidate_of_mem hmem).2.1.symm.trans ha)
    obtain ⟨node, hnode, hfields⟩ := p.route_fields hroute htaken
    have hkeys : KeysMatched s p.row c.row node :=
      comparePair_keysMatched hprecision (hcolumns p.row (List.mem_of_getElem? he))
        (taken_rowsMatch (List.mem_of_getElem? hp) htaken) hnode
    intro column hc hscored hliteral
    rw [hfields]
    exact hkeys column hc hscored hliteral

/-- **Pairing and comparing agree.** In every keyed run, also one that a fault or an expression ends,
    each expected row that was paired has a matching leaf for each key column that is scored and
    whose expected value is absent or a literal: for plain and numeric columns of any precision that
    is not negative, under any names on the actual side, with and without regard to case. The rows
    that were routed are those of the report when there is one. -/
theorem paired_rows_match_in_keys {expected actual : Supply} (hkeyed : s.isKeyed = true)
    (hprecision : ∀ c p, s.precision? c = some p → 0 ≤ p.toRat)
    (hheader : ∀ row ∈ expected.source.rows, row.header = expected.source.header)
    (hcolumns : ∀ c ∈ s.keyColumns, expected.source.header.has c = true) :
    let es := expected.source.stream.rows
    let as := actual.source.stream.rows
    (∃ taken, PairsMatchInKeys s es as taken (routedRows s es as)) ∧
      ∀ t, (compare s expected actual).result = .ok t →
        t = keyedReport s es.length (leftOver s es as).length
          (routedRows s es as ++ routeLeftovers s (leftOver s es as)) := by
  intro es as
  constructor
  · refine ⟨placesTaken s es as, pairsMatchInKeys_routedRows hprecision fun row hrow c hc => ?_⟩
    rw [hheader row (Source.mem_of_mem_stream hrow)]
    exact List.contains_iff_mem.mp (hcolumns c hc)
  · intro t ht
    obtain ⟨he, ha⟩ := compareKeyed_ok (compareSources_ok hkeyed (compare_ok ht))
    obtain ⟨routed, hroute, rfl⟩ := compare_keyed_ok hkeyed ht
    have hes : es = expected.source.rows := Source.stream_rows he
    have has : as = actual.source.rows := Source.stream_rows ha
    rw [hes, has, routedRows_eq hroute]

/-- Key columns whose names are swapped on the actual side: a text that is paired as it stands, and
    numbers that are paired up to a tolerance, or as texts where a blank stands before them. -/
theorem paired_rows_match_in_keys_stock :
    let tolerance : Decimal := ⟨false, 5, -1⟩
    let s : Settings :=
      { keyColumns := ["Item", "Count"], numericColumns := [("Count", tolerance)]
        columnMapping := [("Item", "Count"), ("Count", "Item")], caseSensitive := false }
    let expected := stockOf [("pen", "3"), ("ink", " 5"), ("pad", "2")]
    let actual := stockOf [(" 5", "ink"), ("3.4", "pen"), ("2.6", "pad")]
    let es := expected.source.stream.rows
    let as := actual.source.stream.rows
    (routedRows s es as).map RoutedRow.place = [.passed, .passed, .notFound] ∧
      ∃ taken, PairsMatchInKeys s es as taken (routedRows s es as) := by
  intro tolerance s expected actual es as
  have hprecision : ∀ c p, s.precision? c = some p → 0 ≤ p.toRat := fun c p hp => by
    have hmem : (c, p) ∈ s.numericColumns := Entries.mem_of_lookup hp
    obtain ⟨_, rfl⟩ := Prod.mk.inj (List.mem_singleton.mp hmem)
    exact not_lt.mp fun hneg =>
      Bool.false_ne_true ((Decimal.toRat_neg_iff (d := tolerance) rfl).mp hneg)
  have hplaces : (routedRows s es as).map RoutedRow.place = [.passed, .passed, .notFound] := by
    decide +kernel
  have hpairs : (∃ taken, PairsMatchInKeys s es as taken (routedRows s es as)) ∧ _ :=
    paired_rows_match_in_keys (by decide) hprecision (by decide) (by decide)
  exact ⟨hplaces, hpairs.1⟩

end Reconcile.Table
