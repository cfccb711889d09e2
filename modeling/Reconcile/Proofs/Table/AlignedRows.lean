import Reconcile.Proofs.Table.KeyedVerdict
import Reconcile.Proofs.Table.PositionalAccount

/-!
# Keyed and positional runs on aligned rows

Where the rows of two tables stand in the order of their keys, looking them up by key comes to the
same as reading them in step. Keys may repeat, and a key with a tolerance may be equal to several
others: when an expected row has its turn, the rows before its counterpart have been taken.

* `Aligned`: rows of the same place have equal keys;
* `Passage.StandsFor`, `passages_aligned`: each passage takes the row of its place;
* `WithKey`: a row of a keyed report beside the same row of a positional one;
* **`keyed_agrees_positional`**: the two reports differ in the comments with the keys only.
-/

namespace Reconcile.Table

open Reconcile.Diff Reconcile.Expectation

variable (s : Settings)

/-! ## 1. Aligned rows -/

/-- The sides have equally many rows, and rows of the same place have equal keys. -/
def Aligned : List Row → List Row → Prop := List.Forall₂ fun e a => rowsMatch s e a = true

/-- A passage takes the row that a numbered pair has for it, and nothing is marked. -/
structure Passage.StandsFor (p : Passage) (q : (Row × Row) × Nat) : Prop where
  number : p.number = q.2
  row : p.row = q.1.1
  taken : ∃ c, p.taken = some c ∧ c.row = q.1.2 ∧ c.duplicateOf = none
  repeats : p.repeats = none

variable {s} {expected actual : List Row}

/-- **Passages of aligned rows are the pairs of the same place.** The row at the head of the other
    side is the first that matches, so that the rest is aligned again. -/
theorem passagesFrom_aligned (hcheck : s.checkDuplicates = false) (h : Aligned s expected actual) :
    ∀ (n m : Nat) (seen seen' : KeyList String), List.Forall₂ Passage.StandsFor
      (passagesFrom s n seen (candidatesFrom s m seen' actual) expected)
      ((expected.zip actual).zipIdx n) := by
  induction h with
  | nil => exact fun _ _ _ _ => .nil
  | @cons e a es as hea _ ih =>
    intro n m seen seen'
    let c : Candidate := ⟨m, a, none⟩
    have hfind : ∀ left, (c :: left).find? (fun c => rowsMatch s e c.row) = some c := fun _ =>
      List.find?_cons_of_pos hea
    have herase : ∀ left, (c :: left).eraseP (fun c => rowsMatch s e c.row) = left := fun _ =>
      List.eraseP_cons_of_pos hea
    rw [candidatesFrom_cons, passagesFrom_cons, registerIn_unchecked hcheck,
      registerIn_unchecked hcheck, hfind, herase]
    exact .cons ⟨rfl, rfl, ⟨_, rfl, rfl, rfl⟩, rfl⟩ (ih (n + 1) (m + 1) seen seen')

/-- Nothing is left over of aligned rows. -/
theorem leftOver_aligned (h : Aligned s expected actual) : leftOver s expected actual = [] := by
  rw [← nothing_left_iff, pairing, firstMatches_of_forall₂ h]

/-! ## 2. Rows of the two reports -/

variable (s expected) in
/-- The row of a keyed report for an expected row, and that of a positional report: they are the
    same, but the keyed one has a comment with the key. -/
def WithKey (keyed plain : Tree) : Prop :=
  ∃ (i : Nat) (e : Row), expected[i]? = some e ∧ plain.name = some s!"Row #{i + 1}" ∧
    plain.comment = none ∧ keyed = { plain with comment := some ("Key: " ++ (expectedKey s e).text) }

theorem WithKey.success {keyed plain : Tree} (h : WithKey s expected keyed plain) :
    keyed.success = plain.success := by
  obtain ⟨i, e, _, _, _, rfl⟩ := h
  rw [Tree.success_eq, Tree.success_eq]

/-- A passage is routed as the pair that it stands for is compared. -/
theorem Passage.StandsFor.route {p : Passage} {q : (Row × Row) × Nat} (h : p.StandsFor q) {i : Nat}
    (hnumber : p.number = i + 1) (hrow : expected[i]? = some p.row) :
    BothGive (fun r tree => AlikeRouted (WithKey s expected) r ⟨.ofPair tree, tree⟩) (p.route s)
      (comparePair s s!"Row #{q.2}" q.1.1 q.1.2) := by
  obtain ⟨c, htaken, hc, hdup⟩ := h.taken
  unfold Passage.route
  rw [htaken, ← h.number, ← h.row, ← hc, h.repeats]
  dsimp only
  rw [hdup]
  cases hpair : comparePair s s!"Row #{p.number}" p.row c.row with
  | error b => exact .error b
  | ok tree =>
    obtain ⟨fields, _, rfl⟩ := comparePair_ok hpair
    refine .ok ⟨rfl, i, p.row, hrow, ?_, rfl, rfl⟩
    rw [hnumber]

/-- The rows of both reports are alike, one by one. -/
theorem routed_aligned (hcheck : s.checkDuplicates = false) (h : Aligned s expected actual) :
    BothGive (fun routed nodes => List.Forall₂ (AlikeRouted (WithKey s expected)) routed
        (nodes.map fun row => ⟨.ofPair row, row⟩))
      ((passages s expected actual).mapM (Passage.route s))
      (pairNodes s 1 (expected.zip actual)) := by
  have hplaces : ∀ p ∈ passages s expected actual,
      ∃ i, p.number = i + 1 ∧ expected[i]? = some p.row := by
    intro p hp
    obtain ⟨i, hi⟩ := List.mem_iff_getElem?.mp hp
    exact ⟨i, passage_at s hi⟩
  have hstands := passagesFrom_aligned hcheck h 1 1 [] []
  simp only [List.forall₂_map_right_iff]
  refine BothGive.mapM (((List.forall₂_and_left _ _).mpr ⟨hplaces, hstands⟩).imp ?_)
  rintro p q ⟨⟨i, hnumber, hrow⟩, hpq⟩
  exact hpq.route hnumber hrow

/-! ## 3. The two reports -/

/-- Reports of alike rows are alike, whether there are rows or not. -/
theorem reports_alike {s' : Settings} {R : Tree → Tree → Prop}
    (hR : ∀ t u, R t u → t.success = u.success) (hcaps : s.caps = s'.caps) (n : Nat)
    {routed routed' : List RoutedRow} (h : List.Forall₂ (AlikeRouted R) routed routed') :
    AlikeReport R (keyedReport s n 0 routed) (positionalReport s' n n routed') := by
  rw [keyedReport, positionalReport]
  by_cases hn : n = 0
  · rw [if_pos ⟨hn, rfl⟩, if_pos ⟨hn, hn⟩]
    exact ⟨rfl, rfl, rfl, .nil⟩
  · rw [if_neg fun h => hn h.1, if_neg fun h => hn h.1, if_pos rfl, hcaps]
    exact report_alike hR s'.caps h

/-- **Keyed and positional runs agree on aligned rows.** Whatever the caps, the policy for surplus
    rows and the tolerances of numeric columns are: when duplicates are not looked for, and the rows
    of two tables with the key columns are aligned by key, the keyed run and the run with no key
    columns fail alike, or give reports that differ only in the comments with the keys of rows. -/
theorem keyed_agrees_positional {s : Settings} {expected actual : Supply} (hkeyed : s.isKeyed = true)
    (hcheck : s.checkDuplicates = false) (he : expected.IsReadable) (ha : actual.IsReadable)
    (hcolumns : HasKeyColumns s expected.source.header actual.source.header)
    (haligned : Aligned s expected.source.rows actual.source.rows) :
    BothGive (AlikeReport (WithKey s expected.source.rows)) (compare s expected actual).result
      (compare { s with keyColumns := [] } expected actual).result := by
  have hlength := haligned.length_eq
  have hpairs : pairNodes { s with keyColumns := [] } 1 (expected.source.rows.zip actual.source.rows)
    = pairNodes s 1 (expected.source.rows.zip actual.source.rows) := rfl
  rw [compare_keyed_result hkeyed he ha hcolumns, compare_positional_result rfl he ha, hpairs,
    leftOver_aligned haligned]
  rcases (routed_aligned hcheck haligned).inv with
    ⟨b, hrouted, hnodes⟩ | ⟨routed, nodes, hrouted, hnodes, hrows⟩
  · rw [hrouted, hnodes]
    exact .error _
  · rw [hrouted, hnodes]
    refine .ok ?_
    rw [positionalRows_of_length_eq hlength, ← hlength]
    show AlikeReport _ (keyedReport s _ 0 (routed ++ [])) _
    rw [List.append_nil]
    exact reports_alike (fun _ _ => WithKey.success) rfl _ hrows

/-- Keys that come twice, and one that is equal to all of them up to the tolerance; the report may
    hold none of the rows that failed. -/
theorem keyed_agrees_positional_stock :
    let s : Settings :=
      { keyColumns := ["Item"], numericColumns := [("Item", ⟨false, 1, 0⟩)], caps := { failed := 0 } }
    let expected := stockOf [("7", "3"), ("8", "1"), ("7", "2")]
    let actual := stockOf [("8", "3"), ("7", "4"), ("7", "2")]
    ∃ t u, (compare s expected actual).result = .ok t ∧
      (compare { s with keyColumns := [] } expected actual).result = .ok u ∧
      t.children ≠ [] ∧ AlikeReport (WithKey s expected.source.rows) t u := by
  intro s expected actual
  obtain ⟨t, ht, hsome⟩ := exists_of_any (r := (compare s expected actual).result)
    (p := fun t => !t.children.isEmpty) (by decide +kernel)
  have hcolumns : HasKeyColumns s expected.source.header actual.source.header := fun c hc => by
    obtain rfl := List.mem_singleton.mp hc
    decide
  have haligned : Aligned s expected.source.rows actual.source.rows :=
    .cons (by decide +kernel) (.cons (by decide +kernel) (.cons (by decide +kernel) .nil))
  have hagree : BothGive (AlikeReport (WithKey s expected.source.rows))
      (compare s expected actual).result (compare { s with keyColumns := [] } expected actual).result :=
    keyed_agrees_positional (by decide) rfl (stockOf_isReadable _) (stockOf_isReadable _) hcolumns
      haligned
  obtain ⟨u, hu, halike⟩ := hagree.of_ok ht
  exact ⟨t, u, ht, hu, by simpa using hsome, halike⟩

end Reconcile.Table
