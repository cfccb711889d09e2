import Reconcile.Proofs.Table.RowNodes
import Reconcile.Proofs.Table.Sources

/-!
# A positional run on plain lists

Without key columns a run reads both sides in step, as long as either has a row. This module says
the same without steps: rows of the same place are paired, and what is beyond the end of the other
side follows.

* `pairNodes`, `missingNodes`, `surplusNodes`: the nodes of pairs, and of rows of one side;
* `positionalRows`: all rows of a report, in the order in which they are routed;
* `routeSteps_zipRows`: what the steps over two lists of rows route;
* `comparePositional_eq`: what a run gives, also when a fault ends it;
* **`comparePositional_result`**: a run over sources that are read to their end reports these rows,
  unless a pair breaks it off; `compare_positional_ok`: so does every run that returns;
  `compare_positional_returns_iff`: when it returns.
-/

namespace Reconcile.Table

open Reconcile.Diff Reconcile.Expectation

variable (s : Settings)

/-! ## 1. Rows of the report -/

/-- The nodes of pairs of rows, numbered from the given number on. -/
def pairNodes (n : Nat) (pairs : List (Row × Row)) : Except Breakdown (List Tree) :=
  (pairs.zipIdx n).mapM fun q => comparePair s s!"Row #{q.2}" q.1.1 q.1.2

/-- The nodes of expected rows without a counterpart. -/
def missingNodes (n : Nat) (rows : List Row) : List Tree :=
  (rows.zipIdx n).map fun q => notFoundRow s s!"Row #{q.2}" q.1

/-- The nodes of actual rows without a counterpart, unless surplus rows are ignored. -/
def surplusNodes (n : Nat) (rows : List Row) : List Tree :=
  if s.tableExtraPolicy = .ignore then []
  else (rows.zipIdx n).map fun q => extraRow s s!"Extra row #{q.2}" q.1

/-- The rows of a report, given the nodes of the pairs: the pairs, and then the rows of the longer
    side that are beyond the end of the other one. -/
def positionalRows (n : Nat) (pairs : List Tree) (expected actual : List Row) : List RoutedRow :=
  pairs.map (fun row => ⟨.ofPair row, row⟩) ++
    ((missingNodes s (n + actual.length) (expected.drop actual.length)).map (⟨.notFound, ·⟩) ++
      (surplusNodes s (n + expected.length) (actual.drop expected.length)).map (⟨.extra, ·⟩))

/-! ## 2. Steps -/

variable {s}

theorem pairNodes_nil (n : Nat) : pairNodes s n [] = .ok [] := List.mapM_nil

theorem pairNodes_cons (n : Nat) (e a : Row) (pairs : List (Row × Row)) :
    pairNodes s n ((e, a) :: pairs) = (do
      let row ← comparePair s s!"Row #{n}" e a
      let rest ← pairNodes s (n + 1) pairs
      return row :: rest) := by
  unfold pairNodes
  rw [List.zipIdx_cons, List.mapM_cons]

@[simp] theorem surplusNodes_nil (n : Nat) : surplusNodes s n [] = [] := by
  unfold surplusNodes
  split <;> rfl

theorem surplusNodes_cons (n : Nat) (row : Row) (rest : List Row) :
    surplusNodes s n (row :: rest) =
      (if s.tableExtraPolicy = .ignore then [] else [extraRow s s!"Extra row #{n}" row]) ++
        surplusNodes s (n + 1) rest := by
  unfold surplusNodes
  split <;> rfl

/-- Steps that read the expected side only. -/
theorem routeSteps_expectedOnly : ∀ (rows : List Row) (n : Nat),
    routeSteps s n (rows.map .expectedOnly) = ((missingNodes s n rows).map (⟨.notFound, ·⟩), none)
  | [], _ => rfl
  | row :: rest, n => by
    rw [List.map_cons, routeSteps, routeSteps_expectedOnly rest]
    rfl

/-- Steps that read the actual side only. -/
theorem routeSteps_actualOnly : ∀ (rows : List Row) (n : Nat),
    routeSteps s n (rows.map .actualOnly) = ((surplusNodes s n rows).map (⟨.extra, ·⟩), none)
  | [], n => by
    rw [surplusNodes_nil]
    rfl
  | row :: rest, n => by
    rw [List.map_cons, routeSteps, routeSteps_actualOnly rest, surplusNodes_cons, List.map_append]
    by_cases hpolicy : s.tableExtraPolicy = .ignore
    · simp [hpolicy]
    · simp [hpolicy]

theorem positionalRows_nil_left (n : Nat) (as : List Row) :
    positionalRows s n [] [] as = (surplusNodes s n as).map (⟨.extra, ·⟩) := by
  rw [positionalRows, List.drop_nil]
  rfl

theorem positionalRows_nil_right (n : Nat) (es : List Row) :
    positionalRows s n [] es [] = (missingNodes s n es).map (⟨.notFound, ·⟩) := by
  rw [positionalRows, List.drop_nil, surplusNodes_nil, List.map_nil, List.map_nil, List.append_nil]
  rfl

theorem positionalRows_cons (n : Nat) (row : Tree) (rest : List Tree) (e a : Row)
    (es as : List Row) : positionalRows s n (row :: rest) (e :: es) (a :: as) =
      ⟨.ofPair row, row⟩ :: positionalRows s (n + 1) rest es as := by
  have hshift : ∀ k, n + (k + 1) = n + 1 + k := fun k => by omega
  unfold positionalRows
  rw [List.length_cons, List.length_cons, hshift as.length, hshift es.length]
  rfl

/-- **The steps over two lists of rows** route the pairs, and then what is left of either side,
    unless a pair breaks them off. -/
theorem routeSteps_zipRows : ∀ (es as : List Row) (n : Nat),
    match pairNodes s n (es.zip as) with
    | .ok nodes => routeSteps s n (zipRows es as) = (positionalRows s n nodes es as, none)
    | .error b => (routeSteps s n (zipRows es as)).2 = some b
  | [], as, n => by
    rw [List.zip_nil_left, pairNodes_nil, zipRows, routeSteps_actualOnly]
    exact congrArg (·, none) (positionalRows_nil_left n as).symm
  | e :: es, [], n => by
    rw [List.zip_nil_right, pairNodes_nil]
    exact (routeSteps_expectedOnly (e :: es) n).trans
      (congrArg (·, none) (positionalRows_nil_right n (e :: es)).symm)
  | e :: es, a :: as, n => by
    have ih := routeSteps_zipRows es as (n + 1)
    rw [List.zip_cons_cons, pairNodes_cons, zipRows, routeSteps]
    cases hpair : comparePair s s!"Row #{n}" e a with
    | error b => rfl
    | ok row =>
      cases hrest : pairNodes s (n + 1) (es.zip as) with
      | error b =>
        rw [hrest] at ih
        exact ih
      | ok rest =>
        rw [hrest] at ih
        show (_, _) = _
        rw [ih]
        exact congrArg (·, none) (positionalRows_cons n row rest e a es as).symm

/-! ## 3. A run -/

/-- Steps that no fault ends read both sides to their end. -/
theorem stepsOf_fault {expected actual : Stream} (h : (stepsOf expected actual).2 = none) :
    expected.fault = none ∧ actual.fault = none := by
  unfold stepsOf at h
  cases he : expected.fault with
  | none =>
    cases ha : actual.fault with
    | none => exact ⟨rfl, rfl⟩
    | some g => simp [he, ha] at h
  | some f =>
    cases ha : actual.fault with
    | none => simp [he, ha] at h
    | some g =>
      simp only [he, ha] at h
      split at h <;> cases h

/-- What is beyond the end of the other side is not paired. -/
theorem zip_take_right {α β : Type} : ∀ (as : List α) (bs : List β),
    as.zip (bs.take as.length) = as.zip bs
  | [], _ => rfl
  | _ :: _, [] => rfl
  | a :: as, b :: bs => congrArg ((a, b) :: ·) (zip_take_right as bs)

theorem zip_take_left {α β : Type} : ∀ (as : List α) (bs : List β),
    (as.take bs.length).zip bs = as.zip bs
  | [], [] => rfl
  | [], _ :: _ => rfl
  | _ :: _, [] => rfl
  | a :: as, b :: bs => congrArg ((a, b) :: ·) (zip_take_left as bs)

/-- Whatever fault ends the steps, they pair the rows of the same place of both sides. -/
theorem stepsOf_zip (expected actual : Stream) : ∃ es as, (stepsOf expected actual).1 = zipRows es as ∧
    es.zip as = expected.rows.zip actual.rows := by
  unfold stepsOf
  dsimp only
  split
  · exact ⟨_, _, rfl, rfl⟩
  · exact ⟨_, _, rfl, zip_take_right _ _⟩
  · exact ⟨_, _, rfl, zip_take_left _ _⟩
  · split
    · exact ⟨_, _, rfl, zip_take_right _ _⟩
    · exact ⟨_, _, rfl, zip_take_left _ _⟩

/-- **A positional run** fails at once when it is the actual source alone that is closed. Otherwise
    it reports the pairs and the rows beyond them, unless a pair breaks it off or a fault ends one of
    the sides. -/
theorem comparePositional_eq {expected actual : Source} :
    (comparePositional s expected actual).result =
      if actual.closed && !expected.closed then .error (.source .closed)
      else match pairNodes s 1 (expected.stream.rows.zip actual.stream.rows),
          (stepsOf expected.stream actual.stream).2 with
        | .error b, _ => .error (.breakdown b)
        | .ok _, some f => .error (.source f)
        | .ok nodes, none => .ok (positionalReport s expected.rows.length actual.rows.length
            (positionalRows s 1 nodes expected.rows actual.rows)) := by
  unfold comparePositional
  split
  · rfl
  obtain ⟨es, as, hsteps, hzip⟩ := stepsOf_zip expected.stream actual.stream
  have hroute := routeSteps_zipRows (s := s) es as 1
  rw [hzip, ← hsteps] at hroute
  dsimp only
  cases hnodes : pairNodes s 1 (expected.stream.rows.zip actual.stream.rows) with
  | error b =>
    rw [hnodes] at hroute
    rw [hroute]
  | ok nodes =>
    rw [hnodes] at hroute
    replace hroute : routeSteps s 1 (stepsOf expected.stream actual.stream).1 = _ := hroute
    cases hended : (stepsOf expected.stream actual.stream).2 with
    | some f => simp only [hroute]
    | none =>
      obtain ⟨he, ha⟩ := stepsOf_fault hended
      have hall : stepsOf expected.stream actual.stream = (zipRows expected.rows actual.rows, none) := by
        rw [stepsOf, he, ha, Source.stream_rows he, Source.stream_rows ha]
      have hrows := routeSteps_zipRows (s := s) expected.rows actual.rows 1
      rw [Source.stream_rows he, Source.stream_rows ha] at hnodes
      rw [hnodes] at hrows
      replace hrows : routeSteps s 1 (zipRows expected.rows actual.rows) = _ := hrows
      rw [hall, hrows, Source.stream_rows he, Source.stream_rows ha]

/-- A run that returns read both sources to their end. -/
theorem comparePositional_ok {expected actual : Source} {t : Tree}
    (h : (comparePositional s expected actual).result = .ok t) :
    expected.stream.fault = none ∧ actual.stream.fault = none := by
  refine stepsOf_fault ?_
  rw [comparePositional_eq] at h
  split at h
  · cases h
  · split at h
    · cases h
    · cases h
    · assumption

/-- **A run over sources that are read to their end** reports the pairs and the rows beyond them,
    unless a pair breaks it off. -/
theorem comparePositional_result {expected actual : Source}
    (he : expected.stream.fault = none) (ha : actual.stream.fault = none) :
    (comparePositional s expected actual).result =
      match pairNodes s 1 (expected.rows.zip actual.rows) with
      | .ok nodes => .ok (positionalReport s expected.rows.length actual.rows.length
          (positionalRows s 1 nodes expected.rows actual.rows))
      | .error b => .error (.breakdown b) := by
  have hopen : actual.closed = false := by
    unfold Source.stream at ha
    cases hclosed : actual.closed with
    | false => rfl
    | true => rw [hclosed] at ha; cases ha
  have hended : (stepsOf expected.stream actual.stream).2 = none := by rw [stepsOf, he, ha]
  rw [comparePositional_eq, hopen, Bool.false_and, if_neg Bool.false_ne_true, hended,
    Source.stream_rows he, Source.stream_rows ha]
  cases pairNodes s 1 (expected.rows.zip actual.rows) <;> rfl

/-- **A positional run that returns** reports the pairs of rows of the same place, and the rows
    beyond them. -/
theorem compare_positional_ok {expected actual : Supply} {t : Tree} (hkeyed : s.isKeyed = false)
    (h : (compare s expected actual).result = .ok t) :
    ∃ nodes, pairNodes s 1 (expected.source.rows.zip actual.source.rows) = .ok nodes ∧
      t = positionalReport s expected.source.rows.length actual.source.rows.length
        (positionalRows s 1 nodes expected.source.rows actual.source.rows) := by
  replace h := compare_ok h
  rw [compareSources_of_positional hkeyed] at h
  obtain ⟨he, ha⟩ := comparePositional_ok h
  rw [comparePositional_result he ha] at h
  cases hnodes : pairNodes s 1 (expected.source.rows.zip actual.source.rows) with
  | error b => rw [hnodes] at h; cases h
  | ok nodes =>
    rw [hnodes] at h
    exact ⟨nodes, rfl, (Except.ok.inj h).symm⟩

/-- A positional run over readable sources, as far as its pairs. -/
theorem compare_positional_result {expected actual : Supply} (hkeyed : s.isKeyed = false)
    (he : expected.IsReadable) (ha : actual.IsReadable) : (compare s expected actual).result =
      match pairNodes s 1 (expected.source.rows.zip actual.source.rows) with
      | .ok nodes => .ok (positionalReport s expected.source.rows.length actual.source.rows.length
          (positionalRows s 1 nodes expected.source.rows actual.source.rows))
      | .error b => .error (.breakdown b) := by
  rw [compare_of_readable he ha, compareSources_of_positional hkeyed,
    comparePositional_result he.source.fault ha.source.fault]

/-- A positional run over readable sources returns when the rows of the same place can be
    compared. -/
theorem compare_positional_returns_iff {expected actual : Supply} (hkeyed : s.isKeyed = false)
    (he : expected.IsReadable) (ha : actual.IsReadable) :
    (∃ t, (compare s expected actual).result = .ok t) ↔
      ∃ nodes, pairNodes s 1 (expected.source.rows.zip actual.source.rows) = .ok nodes := by
  rw [compare_positional_result hkeyed he ha]
  cases pairNodes s 1 (expected.source.rows.zip actual.source.rows) with
  | error b => exact iff_of_false nofun nofun
  | ok nodes => exact iff_of_true ⟨_, rfl⟩ ⟨_, rfl⟩

end Reconcile.Table
