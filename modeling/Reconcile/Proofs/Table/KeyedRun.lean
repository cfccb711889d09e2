import Mathlib.Data.List.Forall2
import Reconcile.Proofs.Table.Repeats
import Reconcile.Proofs.Table.Sources

/-!
# A keyed run on plain lists

A keyed comparison indexes the actual rows, streams the expected ones against the index and reports
what is left in it. This module says the same without an index:

* `candidates`: the actual rows with the rows that they repeat;
* `Passage`, `passages`: each expected row with the candidate that it takes and the row that it
  repeats, by first match on a plain list (`passagesFrom_taken`);
* `indexRows_tracks`, `routeRows_passages`: the index holds the candidates, and routing the expected
  rows against it routes the passages;
* `compareIndexed_result`: what the expected rows give, also when a fault ends them;
* **`compareKeyed_result`**: a keyed run reports on the passages and on the candidates that are left
  over, unless a passage breaks it off; `compare_keyed_ok`: so does every run that returns;
  `compare_keyed_returns_iff`: when it returns.
-/

namespace Reconcile.Table

open Reconcile.Diff Reconcile.Expectation

variable {α : Type} (s : Settings)

/-! ## 1. Keys of rows -/

/-- The key of an expected row. -/
def expectedKey (row : Row) : RowKey := RowKey.ofRow row s.keyColumns

/-- The key of an actual row, read under the names that the columns have there. -/
def actualKey (row : Row) : RowKey := RowKey.ofRow row s.keyColumns s.columnMapping

/-- Whether the keys of an expected and an actual row are equal. -/
def rowsMatch (expected actual : Row) : Bool :=
  sameKey s.numericColumns (expectedKey s expected) (actualKey s actual)

/-- A key that lists the key columns and gives each of them one value. -/
def IsRowKey (k : RowKey) : Prop := k.columns = s.keyColumns ∧ k.IsConsistent

theorem expectedKey_isRowKey (row : Row) : IsRowKey s (expectedKey s row) :=
  ⟨RowKey.ofRow_columns _ _ _, RowKey.ofRow_isConsistent _ _ _⟩

theorem actualKey_isRowKey (row : Row) : IsRowKey s (actualKey s row) :=
  ⟨RowKey.ofRow_columns _ _ _, RowKey.ofRow_isConsistent _ _ _⟩

/-! ## 2. An index of keys of rows -/

/-- The index follows the settings and holds the list, whose keys are keys of rows. -/
structure Tracks (x : KeyIndex α) (l : KeyList α) : Prop where
  mirrors : Mirrors x l
  rule : x.rule = KeyRule.ofColumns s.keyColumns s.numericColumns
  keys : ∀ e ∈ l, IsRowKey s e.1

theorem tracks_empty : Tracks s (.empty s.keyColumns s.numericColumns : KeyIndex α) [] where
  mirrors := mirrors_empty _ _
  rule := rfl
  keys _ h := absurd h List.not_mem_nil

variable {s}

namespace Tracks

variable {x : KeyIndex α} {l : KeyList α}

theorem add (h : Tracks s x l) (candidate : α) {key : RowKey} (hk : IsRowKey s key) :
    Tracks s (x.add candidate key) (l ++ [(key, candidate)]) where
  mirrors := h.mirrors.add candidate key
  rule := h.rule
  keys e he := by
    rcases List.mem_append.mp he with he | he
    · exact h.keys e he
    · rw [List.mem_singleton.mp he]
      exact hk

/-- On keys of rows the index decides equality of keys. -/
theorem firstOf_eq (h : Tracks s x l) {key : RowKey} (hk : IsRowKey s key) :
    firstOf x.rule.same l key = firstOf (sameKey s.numericColumns) l key ∧
      withoutFirst x.rule.same l key = withoutFirst (sameKey s.numericColumns) l key := by
  refine firstOf_congr fun e he => ?_
  have hkey := h.keys e he
  rw [h.rule]
  exact same_eq_sameKey_of_isConsistent hk.1 hkey.1 hk.2 hkey.2 s.numericColumns

theorem find?_eq (h : Tracks s x l) {key : RowKey} (hk : IsRowKey s key) :
    x.find? key = firstOf (sameKey s.numericColumns) l key := by
  rw [h.mirrors.find?_eq, (h.firstOf_eq hk).1]

theorem take?_eq (h : Tracks s x l) {key : RowKey} (hk : IsRowKey s key) :
    (x.take? key = none ∧ firstOf (sameKey s.numericColumns) l key = none) ∨
    ∃ c y, x.take? key = some (c, y) ∧ firstOf (sameKey s.numericColumns) l key = some c ∧
      Tracks s y (withoutFirst (sameKey s.numericColumns) l key) := by
  obtain ⟨hfirst, hwithout⟩ := h.firstOf_eq hk
  rw [← hfirst, ← hwithout]
  rcases h.mirrors.take?_eq key with hnone | ⟨c, y, htake, hrule, hc, hy⟩
  · exact .inl hnone
  · exact .inr ⟨c, y, htake, hc, hy, hrule.trans h.rule,
      fun e he => h.keys e (List.mem_of_mem_eraseP he)⟩

end Tracks

/-! ## 3. Candidates -/

variable (s)

/-- The candidates for actual rows from a number on. -/
def candidatesFrom : Nat → KeyList String → List Row → List Candidate
  | _, _, [] => []
  | n, seen, row :: rest =>
    let (first, seen) := registerIn s seen (actualKey s row) s!"Actual row #{n}"
    ⟨n, row, first⟩ :: candidatesFrom (n + 1) seen rest

theorem candidatesFrom_cons (n : Nat) (seen : KeyList String) (row : Row) (rest : List Row) :
    candidatesFrom s n seen (row :: rest) =
      ⟨n, row, (registerIn s seen (actualKey s row) s!"Actual row #{n}").1⟩ ::
        candidatesFrom s (n + 1) (registerIn s seen (actualKey s row) s!"Actual row #{n}").2 rest :=
  rfl

/-- What a map gives at a place. -/
theorem getElem?_of_map_eq {β γ : Type} {f : β → γ} {l : List β} {l' : List γ} (h : l.map f = l')
    {i : Nat} {a : β} (ha : l[i]? = some a) : l'[i]? = some (f a) := by
  rw [← h, List.getElem?_map, ha, Option.map_some]

/-- Numbers count from the first one on. -/
theorem number_at {β : Type} {f : β → Nat} {l : List β} {n : Nat} (h : l.map f = List.range' 1 n)
    {i : Nat} {a : β} (ha : l[i]? = some a) : f a = i + 1 := by
  obtain ⟨hi, hnumber⟩ := List.getElem?_eq_some_iff.mp (getElem?_of_map_eq h ha)
  rw [List.getElem_range'] at hnumber
  omega

/-- The candidates for all actual rows. -/
def candidates (actual : List Row) : List Candidate := candidatesFrom s 1 [] actual

/-- Candidates are the rows, numbered, each with the one that it repeats. -/
theorem candidatesFrom_map : ∀ (rows : List Row) (n : Nat) (seen : KeyList String),
    (candidatesFrom s n seen rows).map Candidate.number = List.range' n rows.length ∧
    (candidatesFrom s n seen rows).map Candidate.row = rows ∧
    (candidatesFrom s n seen rows).map Candidate.duplicateOf =
      repeatsFrom s (fun n => s!"Actual row #{n}") n seen (rows.map (actualKey s))
  | [], _, _ => ⟨rfl, rfl, rfl⟩
  | row :: rest, n, seen => by
    obtain ⟨hnumber, hrow, hdup⟩ := candidatesFrom_map rest (n + 1)
      (registerIn s seen (actualKey s row) s!"Actual row #{n}").2
    rw [candidatesFrom_cons, List.map_cons, List.map_cons, List.map_cons, hnumber, hrow, hdup]
    exact ⟨rfl, rfl, rfl⟩

/-- A candidate stands at the place of its row. -/
theorem candidate_at {actual : List Row} {j : Nat} {c : Candidate}
    (h : (candidates s actual)[j]? = some c) : c.number = j + 1 ∧ actual[j]? = some c.row ∧
      (repeatsFrom s (fun n => s!"Actual row #{n}") 1 [] (actual.map (actualKey s)))[j]? =
        some c.duplicateOf := by
  obtain ⟨hnumber, hrow, hdup⟩ := candidatesFrom_map s actual 1 []
  exact ⟨number_at hnumber h, getElem?_of_map_eq hrow h, getElem?_of_map_eq hdup h⟩

/-- Candidates with their keys. -/
def keyedCandidates (cs : List Candidate) : KeyList Candidate :=
  cs.map fun c => (actualKey s c.row, c)

variable {s}

theorem registerIf_eq {t : DuplicateTracker} {seen : KeyList String} (h : Tracks s t.seen seen)
    {key : RowKey} (hk : IsRowKey s key) (name : String) :
    (registerIf s.checkDuplicates t key name).1 = (registerIn s seen key name).1 ∧
      Tracks s (registerIf s.checkDuplicates t key name).2.seen (registerIn s seen key name).2 := by
  unfold registerIf registerIn DuplicateTracker.register
  cases s.checkDuplicates with
  | false => exact ⟨rfl, h⟩
  | true =>
    rw [if_pos rfl, if_pos rfl, h.find?_eq hk]
    cases firstOf (sameKey s.numericColumns) seen key with
    | some first => exact ⟨rfl, h⟩
    | none => exact ⟨rfl, h.add name hk⟩

/-- Indexing rows adds their candidates. -/
theorem indexFrom_tracks : ∀ (rows : List Row) (n : Nat) {t : DuplicateTracker}
    {seen : KeyList String} {x : KeyIndex Candidate} {l : KeyList Candidate},
    Tracks s t.seen seen → Tracks s x l →
    Tracks s (indexFrom s n rows t x) (l ++ keyedCandidates s (candidatesFrom s n seen rows))
  | [], _, _, _, _, _, _, hx => by
    rw [candidatesFrom, keyedCandidates, List.map_nil, List.append_nil]
    exact hx
  | row :: rest, n, t, seen, x, l, ht, hx => by
    have hkey := actualKey_isRowKey s row
    obtain ⟨hfirst, hseen⟩ := registerIf_eq ht hkey s!"Actual row #{n}"
    have hrest := indexFrom_tracks rest (n + 1) hseen
      (hx.add ⟨n, row, (registerIn s seen (actualKey s row) s!"Actual row #{n}").1⟩ hkey)
    rw [← hfirst, List.append_assoc] at hrest
    rw [candidatesFrom_cons, ← hfirst]
    exact hrest

/-- The index of the actual rows holds their candidates. -/
theorem indexRows_tracks (actual : List Row) :
    Tracks s (indexRows s actual) (keyedCandidates s (candidates s actual)) :=
  indexFrom_tracks actual 1 (tracks_empty s) (tracks_empty s)

/-! ## 4. Expected rows -/

variable (s)

/-- An expected row on its way to the report: its number, the candidate that it takes, and the name
    of the row that it repeats. -/
structure Passage where
  number : Nat
  row : Row
  taken : Option Candidate
  repeats : Option String

/-- The passages of expected rows from a number on. -/
def passagesFrom : Nat → KeyList String → List Candidate → List Row → List Passage
  | _, _, _, [] => []
  | n, seen, left, row :: rest =>
    let (first, seen) := registerIn s seen (expectedKey s row) s!"Row #{n}"
    ⟨n, row, left.find? fun c => rowsMatch s row c.row, first⟩ ::
      passagesFrom (n + 1) seen (left.eraseP fun c => rowsMatch s row c.row) rest

theorem passagesFrom_cons (n : Nat) (seen : KeyList String) (left : List Candidate) (row : Row)
    (rest : List Row) : passagesFrom s n seen left (row :: rest) =
      ⟨n, row, left.find? fun c => rowsMatch s row c.row,
          (registerIn s seen (expectedKey s row) s!"Row #{n}").1⟩ ::
        passagesFrom s (n + 1) (registerIn s seen (expectedKey s row) s!"Row #{n}").2
          (left.eraseP fun c => rowsMatch s row c.row) rest := rfl

/-- The passages of all expected rows. -/
def passages (expected actual : List Row) : List Passage :=
  passagesFrom s 1 [] (candidates s actual) expected

/-- Passages are the rows, numbered, each with the one that it repeats. -/
theorem passagesFrom_map : ∀ (rows : List Row) (n : Nat) (seen : KeyList String)
    (left : List Candidate),
    (passagesFrom s n seen left rows).map Passage.number = List.range' n rows.length ∧
    (passagesFrom s n seen left rows).map Passage.row = rows ∧
    (passagesFrom s n seen left rows).map Passage.repeats =
      repeatsFrom s (fun n => s!"Row #{n}") n seen (rows.map (expectedKey s))
  | [], _, _, _ => ⟨rfl, rfl, rfl⟩
  | row :: rest, n, seen, left => by
    obtain ⟨hnumber, hrow, hrepeats⟩ := passagesFrom_map rest (n + 1)
      (registerIn s seen (expectedKey s row) s!"Row #{n}").2
      (left.eraseP fun c => rowsMatch s row c.row)
    rw [passagesFrom_cons, List.map_cons, List.map_cons, List.map_cons, hnumber, hrow, hrepeats]
    exact ⟨rfl, rfl, rfl⟩

/-- **What the passages take is the first match**, in turn. -/
theorem passagesFrom_taken : ∀ (rows : List Row) (n : Nat) (seen : KeyList String)
    (left : List Candidate), (passagesFrom s n seen left rows).map Passage.taken =
      (firstMatches (fun e c => rowsMatch s e c.row) rows left).1
  | [], _, _, _ => rfl
  | row :: rest, n, seen, left => by
    rw [passagesFrom_cons, List.map_cons, passagesFrom_taken rest, firstMatches_cons]

/-- A passage stands at the place of its row. -/
theorem passage_at {expected actual : List Row} {i : Nat} {p : Passage}
    (h : (passages s expected actual)[i]? = some p) :
    p.number = i + 1 ∧ expected[i]? = some p.row := by
  obtain ⟨hnumber, hrow, _⟩ := passagesFrom_map s expected 1 [] (candidates s actual)
  exact ⟨number_at hnumber h, getElem?_of_map_eq hrow h⟩

/-- The candidates that no expected row takes. -/
def leftOver (expected actual : List Row) : List Candidate :=
  (firstMatches (fun e c => rowsMatch s e c.row) expected (candidates s actual)).2

/-- The row of the report for a passage. -/
def Passage.route (p : Passage) : Except Breakdown RoutedRow :=
  let name := s!"Row #{p.number}"
  let key := expectedKey s p.row
  match p.taken with
  | none => .ok (finishExpected ⟨.notFound, notFoundRow s name p.row⟩ key p.repeats)
  | some c => do
    let tree ← comparePair s name p.row c.row
    let place : Section := if c.duplicateOf.isSome then .failed else .ofPair tree
    return finishExpected ⟨place, markIf tree c.duplicateOf⟩ key p.repeats

variable {s}

/-- What the route of a passage comes to: a row that is not found, or a pair that was compared. -/
theorem Passage.route_ok {p : Passage} {r : RoutedRow} :
    p.route s = .ok r ↔
      (p.taken = none ∧ r = finishExpected ⟨.notFound, notFoundRow s s!"Row #{p.number}" p.row⟩
        (expectedKey s p.row) p.repeats) ∨
      ∃ c tree, p.taken = some c ∧ comparePair s s!"Row #{p.number}" p.row c.row = .ok tree ∧
        r = finishExpected ⟨if c.duplicateOf.isSome then .failed else .ofPair tree,
          markIf tree c.duplicateOf⟩ (expectedKey s p.row) p.repeats := by
  unfold Passage.route
  cases htaken : p.taken with
  | none =>
    refine ⟨fun h => .inl ⟨rfl, (Except.ok.inj h).symm⟩, fun h => ?_⟩
    rcases h with ⟨_, rfl⟩ | ⟨c, _, hc, _⟩
    · rfl
    · cases hc
  | some c =>
    cases hpair : comparePair s s!"Row #{p.number}" p.row c.row with
    | error b =>
      refine ⟨fun h => ?_, fun h => ?_⟩
      · simp only [hpair] at h
        cases h
      · rcases h with ⟨h, _⟩ | ⟨d, tree, hd, htree, _⟩
        · cases h
        · cases hd
          rw [hpair] at htree
          cases htree
    | ok tree =>
      simp only [hpair]
      refine ⟨fun h => .inr ⟨c, tree, rfl, hpair, (Except.ok.inj h).symm⟩, fun h => ?_⟩
      rcases h with ⟨h, _⟩ | ⟨d, tree', hd, htree, rfl⟩
      · cases h
      · cases hd
        rw [hpair] at htree
        cases htree
        rfl

theorem firstOf_keyedCandidates (row : Row) (left : List Candidate) :
    firstOf (sameKey s.numericColumns) (keyedCandidates s left) (expectedKey s row) =
      left.find? fun c => rowsMatch s row c.row := by
  rw [firstOf, keyedCandidates, List.find?_map, Option.map_map]
  exact Option.map_id_apply

theorem withoutFirst_keyedCandidates (row : Row) (left : List Candidate) :
    withoutFirst (sameKey s.numericColumns) (keyedCandidates s left) (expectedKey s row) =
      keyedCandidates s (left.eraseP fun c => rowsMatch s row c.row) := by
  rw [withoutFirst, keyedCandidates, List.eraseP_map]
  rfl

/-- **One expected row**: what the index gives it is its passage. -/
theorem routeExpected_ok {n : Nat} {row : Row} {x y : KeyIndex Candidate} {left : List Candidate}
    {r : RoutedRow} (hx : Tracks s x (keyedCandidates s left)) (first : Option String)
    (h : routeExpected s s!"Row #{n}" row (expectedKey s row) x = .ok (r, y)) :
    (Passage.mk n row (left.find? fun c => rowsMatch s row c.row) first).route s =
        .ok (finishExpected r (expectedKey s row) first) ∧
      Tracks s y (keyedCandidates s (left.eraseP fun c => rowsMatch s row c.row)) := by
  unfold routeExpected at h
  rw [Passage.route_ok, ← firstOf_keyedCandidates, ← withoutFirst_keyedCandidates]
  rcases hx.take?_eq (expectedKey_isRowKey s row) with ⟨htake, hfirst⟩ | ⟨c, z, htake, hfirst, hz⟩
  · rw [htake] at h
    cases h
    rw [withoutFirst_eq_self hfirst]
    exact ⟨.inl ⟨hfirst, rfl⟩, hx⟩
  · rw [htake] at h
    cases hpair : comparePair s s!"Row #{n}" row c.row with
    | error b =>
      simp only [hpair] at h
      cases h
    | ok tree =>
      simp only [hpair] at h
      cases h
      exact ⟨.inr ⟨c, tree, hfirst, hpair, rfl⟩, hz⟩

/-- What breaks an expected row off breaks off its passage. -/
theorem routeExpected_error {n : Nat} {row : Row} {x : KeyIndex Candidate} {left : List Candidate}
    {b : Breakdown} (hx : Tracks s x (keyedCandidates s left)) (first : Option String)
    (h : routeExpected s s!"Row #{n}" row (expectedKey s row) x = .error b) :
    (Passage.mk n row (left.find? fun c => rowsMatch s row c.row) first).route s = .error b := by
  unfold routeExpected at h
  rw [← firstOf_keyedCandidates]
  rcases hx.take?_eq (expectedKey_isRowKey s row) with ⟨htake, hfirst⟩ | ⟨c, z, htake, hfirst, hz⟩
  · rw [htake] at h
    cases h
  · rw [htake] at h
    unfold Passage.route
    rw [hfirst]
    cases hpair : comparePair s s!"Row #{n}" row c.row with
    | error b' =>
      simp only [hpair] at h ⊢
      cases h
      rfl
    | ok tree =>
      simp only [hpair] at h
      cases h

theorem routeRows_cons_error {n : Nat} {row : Row} {rest : List Row} {t : DuplicateTracker}
    {x : KeyIndex Candidate} {b : Breakdown}
    (h : routeExpected s s!"Row #{n}" row (expectedKey s row) x = .error b) :
    routeRows s n (row :: rest) t x = ([], .error b) := by
  unfold expectedKey at h
  unfold routeRows
  simp only [h]

theorem routeRows_cons_ok {n : Nat} {row : Row} {rest : List Row} {t : DuplicateTracker}
    {x y : KeyIndex Candidate} {r : RoutedRow}
    (h : routeExpected s s!"Row #{n}" row (expectedKey s row) x = .ok (r, y)) :
    routeRows s n (row :: rest) t x =
      let (first, t) := registerIf s.checkDuplicates t (expectedKey s row) s!"Row #{n}"
      let (rows, ended) := routeRows s (n + 1) rest t y
      (finishExpected r (expectedKey s row) first :: rows, ended) := by
  unfold expectedKey at h
  conv_lhs => unfold routeRows
  simp only [h]
  rfl

/-- **All expected rows**: routing them against the index routes their passages one after the other,
    up to the first that breaks off; if none does, the index keeps the candidates that are left
    over. -/
theorem routeRows_passages : ∀ (rows : List Row) (n : Nat) {t : DuplicateTracker}
    {seen : KeyList String} {x : KeyIndex Candidate} {left : List Candidate},
    Tracks s t.seen seen → Tracks s x (keyedCandidates s left) →
    match (passagesFrom s n seen left rows).mapM (Passage.route s) with
    | .ok routed => ∃ y, routeRows s n rows t x = (routed, .ok y) ∧
        Tracks s y (keyedCandidates s (firstMatches (fun e c => rowsMatch s e c.row) rows left).2)
    | .error b => (routeRows s n rows t x).2 = .error b
  | [], _, _, _, x, _, _, hx => ⟨x, rfl, hx⟩
  | row :: rest, n, t, seen, x, left, ht, hx => by
    obtain ⟨hfirst, hseen⟩ := registerIf_eq ht (expectedKey_isRowKey s row) s!"Row #{n}"
    rw [passagesFrom_cons, List.mapM_cons, ← hfirst]
    cases hroute : routeExpected s s!"Row #{n}" row (expectedKey s row) x with
    | error b =>
      rw [routeExpected_error hx _ hroute, routeRows_cons_error hroute]
      rfl
    | ok step =>
      obtain ⟨r, z⟩ := step
      obtain ⟨hstep, hz⟩ := routeExpected_ok hx
        (registerIf s.checkDuplicates t (expectedKey s row) s!"Row #{n}").1 hroute
      have ih := routeRows_passages rest (n + 1) hseen hz
      rw [hstep, routeRows_cons_ok hroute]
      cases hrest : (passagesFrom s (n + 1) (registerIn s seen (expectedKey s row) s!"Row #{n}").2
          (left.eraseP fun c => rowsMatch s row c.row) rest).mapM (Passage.route s) with
      | error b =>
        rw [hrest] at ih
        exact ih
      | ok routed =>
        rw [hrest] at ih
        obtain ⟨y, hrows, hy⟩ := ih
        refine ⟨y, ?_, hy⟩
        dsimp only
        rw [hrows]

/-! ## 5. A run -/

/-- **Expected rows that are streamed against the index** give a report on their passages and on the
    candidates that are left over, unless a passage breaks it off or the stream ends in a fault. -/
theorem compareIndexed_result (expected : Stream) (actual : List Row) :
    (compareIndexed s expected (indexRows s actual)).result =
      match (passages s expected.rows actual).mapM (Passage.route s), expected.fault with
      | .error b, _ => .error (.breakdown b)
      | .ok _, some f => .error (.source f)
      | .ok routed, none => .ok (keyedReport s expected.rows.length
          (leftOver s expected.rows actual).length
          (routed ++ routeLeftovers s (leftOver s expected.rows actual))) := by
  have hroute := routeRows_passages expected.rows 1 (t := .empty s.keyColumns s.numericColumns)
    (tracks_empty s) (indexRows_tracks actual)
  unfold compareIndexed
  rw [passages]
  cases hrouted : (passagesFrom s 1 [] (candidates s actual) expected.rows).mapM
      (Passage.route s) with
  | error b =>
    rw [hrouted] at hroute
    cases hrows : routeRows s 1 expected.rows (.empty s.keyColumns s.numericColumns)
        (indexRows s actual) with
    | mk rows ended =>
      rw [hrows] at hroute
      obtain rfl : ended = .error b := hroute
      rfl
  | ok routed =>
    rw [hrouted] at hroute
    obtain ⟨y, hrows, hy⟩ := hroute
    have hleft : y.leftovers = leftOver s expected.rows actual := by
      rw [hy.mirrors.leftovers_eq, keyedCandidates, List.map_map]
      exact List.map_id _
    cases expected.fault with
    | some f => simp only [hrows]
    | none => simp only [hrows, hleft]

/-- A keyed run ends at a fault of the actual side, before it looks at the expected one. -/
theorem compareKeyed_eq {expected actual : Source} : (compareKeyed s expected actual).result =
    match actual.stream.fault with
    | some f => .error (.source f)
    | none => (compareIndexed s expected.stream (indexRows s actual.stream.rows)).result := by
  unfold compareKeyed
  cases actual.stream.fault <;> rfl

/-- **A keyed run over sources that are read to their end** reports on the passages of the expected
    rows and on the candidates that are left over, unless a passage breaks it off. -/
theorem compareKeyed_result {expected actual : Source} (he : expected.stream.fault = none)
    (ha : actual.stream.fault = none) : (compareKeyed s expected actual).result =
      match (passages s expected.rows actual.rows).mapM (Passage.route s) with
      | .ok routed => .ok (keyedReport s expected.rows.length
          (leftOver s expected.rows actual.rows).length
          (routed ++ routeLeftovers s (leftOver s expected.rows actual.rows)))
      | .error b => .error (.breakdown b) := by
  rw [compareKeyed_eq, ha]
  dsimp only
  rw [compareIndexed_result, he, Source.stream_rows ha, Source.stream_rows he]
  cases (passages s expected.rows actual.rows).mapM (Passage.route s) <;> rfl

/-- A run that returns read both sources to their end. -/
theorem compareKeyed_ok {expected actual : Source} {t : Tree}
    (h : (compareKeyed s expected actual).result = .ok t) :
    expected.stream.fault = none ∧ actual.stream.fault = none := by
  rw [compareKeyed_eq] at h
  cases hactual : actual.stream.fault with
  | some f => rw [hactual] at h; cases h
  | none =>
    rw [hactual] at h
    dsimp only at h
    rw [compareIndexed_result] at h
    split at h
    · cases h
    · cases h
    · rename_i hexpected
      exact ⟨hexpected, rfl⟩

theorem compareSources_ok {expected actual : Source} {t : Tree} (hkeyed : s.isKeyed = true)
    (h : (compareSources s expected actual).result = .ok t) :
    (compareKeyed s expected actual).result = .ok t := by
  unfold compareSources at h
  rw [if_pos hkeyed] at h
  dsimp only at h
  split at h
  · cases h
  · exact h

/-- **A keyed run that returns** reports on the passages of the expected rows and on the candidates
    that are left over. -/
theorem compare_keyed_ok {expected actual : Supply} {t : Tree} (hkeyed : s.isKeyed = true)
    (h : (compare s expected actual).result = .ok t) :
    ∃ routed, List.Forall₂ (fun p r => p.route s = .ok r)
        (passages s expected.source.rows actual.source.rows) routed ∧
      t = keyedReport s expected.source.rows.length
        (leftOver s expected.source.rows actual.source.rows).length
        (routed ++ routeLeftovers s (leftOver s expected.source.rows actual.source.rows)) := by
  replace h := compareSources_ok hkeyed (compare_ok h)
  obtain ⟨he, ha⟩ := compareKeyed_ok h
  rw [compareKeyed_result he ha] at h
  cases hrouted : (passages s expected.source.rows actual.source.rows).mapM (Passage.route s) with
  | error b => rw [hrouted] at h; cases h
  | ok routed =>
    rw [hrouted] at h
    exact ⟨routed, mapM_eq_ok_iff.mp hrouted, (Except.ok.inj h).symm⟩

/-- A passage can be routed when its row can be compared to the candidate that it takes. -/
theorem Passage.route_returns_iff {p : Passage} :
    (∃ r, p.route s = .ok r) ↔
      ∀ c, p.taken = some c → ∃ tree, comparePair s s!"Row #{p.number}" p.row c.row = .ok tree := by
  constructor
  · rintro ⟨r, hr⟩ c hc
    rcases Passage.route_ok.mp hr with ⟨hnone, _⟩ | ⟨c', tree, hc', htree, _⟩
    · rw [hnone] at hc
      cases hc
    · obtain rfl := Option.some.inj (hc.symm.trans hc')
      exact ⟨tree, htree⟩
  · intro h
    cases htaken : p.taken with
    | none => exact ⟨_, Passage.route_ok.mpr (.inl ⟨htaken, rfl⟩)⟩
    | some c =>
      obtain ⟨tree, htree⟩ := h c htaken
      exact ⟨_, Passage.route_ok.mpr (.inr ⟨c, tree, htaken, htree, rfl⟩)⟩

/-- A passage breaks off where its row cannot be compared to the candidate that it takes. -/
theorem Passage.route_error_iff {p : Passage} {b : Breakdown} : p.route s = .error b ↔
    ∃ c, p.taken = some c ∧ comparePair s s!"Row #{p.number}" p.row c.row = .error b := by
  unfold Passage.route
  cases htaken : p.taken with
  | none => exact ⟨nofun, fun ⟨_, h, _⟩ => nomatch h⟩
  | some c =>
    cases hpair : comparePair s s!"Row #{p.number}" p.row c.row with
    | error b' =>
      simp only [hpair]
      constructor
      · intro h
        exact ⟨c, rfl, hpair.trans (congrArg _ (Except.error.inj h))⟩
      · rintro ⟨d, hd, h⟩
        obtain rfl := Option.some.inj hd
        exact congrArg _ (Except.error.inj (hpair.symm.trans h))
    | ok tree =>
      simp only [hpair]
      refine ⟨nofun, fun ⟨d, hd, h⟩ => ?_⟩
      obtain rfl := Option.some.inj hd
      rw [hpair] at h
      cases h

/-- A keyed run over readable sources that have the key columns, as far as its passages. -/
theorem compare_keyed_result {expected actual : Supply} (hkeyed : s.isKeyed = true)
    (he : expected.IsReadable) (ha : actual.IsReadable)
    (hcolumns : HasKeyColumns s expected.source.header actual.source.header) :
    (compare s expected actual).result =
      match (passages s expected.source.rows actual.source.rows).mapM (Passage.route s) with
      | .ok routed => .ok (keyedReport s expected.source.rows.length
          (leftOver s expected.source.rows actual.source.rows).length
          (routed ++ routeLeftovers s (leftOver s expected.source.rows actual.source.rows)))
      | .error b => .error (.breakdown b) := by
  rw [compare_of_readable he ha, compareSources_of_keyed hkeyed he.source ha.source hcolumns,
    compareKeyed_result he.source.fault ha.source.fault]

/-- A keyed run over readable sources that have the key columns returns when every expected row can
    be compared to the actual row that it takes. -/
theorem compare_keyed_returns_iff {expected actual : Supply} (hkeyed : s.isKeyed = true)
    (he : expected.IsReadable) (ha : actual.IsReadable)
    (hcolumns : HasKeyColumns s expected.source.header actual.source.header) :
    (∃ t, (compare s expected actual).result = .ok t) ↔
      ∀ p ∈ passages s expected.source.rows actual.source.rows, ∀ c, p.taken = some c →
        ∃ tree, comparePair s s!"Row #{p.number}" p.row c.row = .ok tree := by
  simp only [← Passage.route_returns_iff]
  rw [← mapM_returns_iff, compare_keyed_result hkeyed he ha hcolumns]
  cases (passages s expected.source.rows actual.source.rows).mapM (Passage.route s) with
  | error b => exact iff_of_false nofun nofun
  | ok routed => exact iff_of_true ⟨_, rfl⟩ ⟨_, rfl⟩

end Reconcile.Table
