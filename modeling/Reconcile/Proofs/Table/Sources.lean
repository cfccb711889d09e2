import Reconcile.Proofs.Traversal
import Reconcile.Table.Comparison

/-!
# Sources of a run

A run gives a tree only when both its sources were opened and read to their end, so that a tree
speaks of all rows; and where both sources can be read, nothing but a comparison can end the run.

* `Source.stream_rows`, `Supply.acquire_ok`: what a source gave that was read to its end;
* `Source.IsReadable`, `Supply.IsReadable`: nothing stands in the way of reading it;
* `HasKeyColumns`, `checkKeyColumns_ok_iff`: both headers have the key columns;
* **`compare_ok`**, **`compare_of_readable`**: a run is what the comparison of its sources gives.
-/

namespace Reconcile.Table

/-! ## 1. Reading to the end -/

/-- An open source that was read to its end gave all its rows. -/
theorem Source.stream_rows {src : Source} (h : src.stream.fault = none) :
    src.stream.rows = src.rows := by
  unfold Source.stream at h ⊢
  split at h
  · cases h
  · cases hf : src.rowFault with
    | some f => rw [hf] at h; cases h
    | none => simp_all

/-- A source gives none but its own rows. -/
theorem Source.mem_of_mem_stream {src : Source} {row : Row} (h : row ∈ src.stream.rows) :
    row ∈ src.rows := by
  unfold Source.stream at h
  split at h
  · cases h
  · split at h
    · exact List.mem_of_mem_take h
    · exact h

theorem Supply.acquire_ok {p : Supply} {side : String} {src : Source}
    (h : p.acquire side = .ok src) : src = p.source := by
  unfold Supply.acquire at h
  split at h
  · exact (Except.ok.inj h).symm
  · exact (Except.ok.inj h).symm
  · cases h

/-! ## 2. Readable sources -/

/-- A source that is open, and whose header and rows can be read. -/
structure Source.IsReadable (src : Source) : Prop where
  isOpen : src.closed = false
  header : src.headerFault = none
  rows : src.rowFault = none

/-- A readable source that can also be opened. -/
structure Supply.IsReadable (p : Supply) : Prop where
  opens : ∀ side, p.acquire side = .ok p.source
  source : p.source.IsReadable

theorem Source.IsReadable.stream {src : Source} (h : src.IsReadable) :
    src.stream = ⟨src.rows, none⟩ := by
  unfold Source.stream
  rw [h.isOpen, h.rows]
  rfl

theorem Source.IsReadable.fault {src : Source} (h : src.IsReadable) : src.stream.fault = none := by
  rw [h.stream]

theorem Source.IsReadable.readHeader {src : Source} (h : src.IsReadable) :
    src.readHeader = .ok src.header := by
  unfold Source.readHeader
  rw [h.header]

/-- A source that is handed over open can always be opened. -/
theorem Source.IsReadable.held {src : Source} (h : src.IsReadable) :
    (Supply.held src).IsReadable := ⟨fun _ => rfl, h⟩

/-! ## 3. Key columns -/

variable {s : Settings}

variable (s) in
/-- Both headers have the key columns, the actual one under the names that they have there. -/
def HasKeyColumns (expected actual : Header) : Prop :=
  ∀ c ∈ s.keyColumns, expected.has c = true ∧ actual.has (s.actualColumn c) = true

theorem checkKeyColumns_ok_iff {expected actual : Header} :
    checkKeyColumns s expected actual = .ok () ↔ HasKeyColumns s expected actual := by
  rw [checkKeyColumns, forM_ok_iff]
  refine forall₂_congr fun c _ => ?_
  cases hexpected : expected.has c with
  | false => exact ⟨nofun, fun h => nomatch h.1⟩
  | true => cases hactual : actual.has (s.actualColumn c) with
    | false => exact ⟨nofun, fun h => nomatch h.2⟩
    | true => exact ⟨fun _ => ⟨rfl, rfl⟩, fun _ => rfl⟩

/-! ## 4. Runs -/

/-- A run that returns compared its two sources. -/
theorem compare_ok {expected actual : Supply} {t : Diff.Tree}
    (h : (compare s expected actual).result = .ok t) :
    (compareSources s expected.source actual.source).result = .ok t := by
  unfold compare runSources at h
  cases hexpected : expected.acquire "expected" with
  | error f => rw [hexpected] at h; cases h
  | ok e =>
    cases hactual : actual.acquire "actual" with
    | error f => rw [hexpected, hactual] at h; cases h
    | ok a =>
      rw [hexpected, hactual] at h
      rw [← Supply.acquire_ok hexpected, ← Supply.acquire_ok hactual]
      exact h

/-- **A run over readable sources compares them.** -/
theorem compare_of_readable {expected actual : Supply} (he : expected.IsReadable)
    (ha : actual.IsReadable) : (compare s expected actual).result =
      (compareSources s expected.source actual.source).result := by
  unfold compare runSources
  rw [he.opens, ha.opens]

/-- A keyed comparison of readable sources checks their headers first. -/
theorem compareSources_of_readable {expected actual : Source} (hkeyed : s.isKeyed = true)
    (he : expected.IsReadable) (ha : actual.IsReadable) : compareSources s expected actual =
      match checkKeyColumns s expected.header actual.header with
      | .error f => ⟨.error f, []⟩
      | .ok () => compareKeyed s expected actual := by
  unfold compareSources
  rw [if_pos hkeyed, he.readHeader, ha.readHeader]
  rfl

/-- A keyed comparison of readable sources that have the key columns indexes and streams them. -/
theorem compareSources_of_keyed {expected actual : Source} (hkeyed : s.isKeyed = true)
    (he : expected.IsReadable) (ha : actual.IsReadable)
    (hcolumns : HasKeyColumns s expected.header actual.header) :
    compareSources s expected actual = compareKeyed s expected actual := by
  rw [compareSources_of_readable hkeyed he ha, checkKeyColumns_ok_iff.mpr hcolumns]

theorem compareSources_of_positional (hkeyed : s.isKeyed = false) (expected actual : Source) :
    compareSources s expected actual = comparePositional s expected actual := by
  unfold compareSources
  rw [if_neg (by rw [hkeyed]; exact nofun)]

end Reconcile.Table
