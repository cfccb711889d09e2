import Reconcile.Proofs.Document.Showable

/-!
# Ordinary documents

A document is ordinary when it is a tree of lists and of mappings from texts, which is not nested too
deep and has scalars of any kind at its ends. No collection comes inside of itself in it, and no
number in it is too long to be shown.

* `IsOrdinary`, `maxNesting`: values nested at most so deep, and how deep documents may be;
* `IsOrdinary.isShowable`: they can be shown;
* `IsOrdinary.itemsOf`, `IsOrdinary.entriesOf`, `IsOrdinary.get?`: their parts.
-/

namespace Reconcile.Document

/-- Scalars, and lists and mappings that are nested at most so deep. -/
inductive IsOrdinary : Nat → Value → Prop where
  | null {depth : Nat} : IsOrdinary depth .null
  | bool {depth : Nat} (b : Bool) : IsOrdinary depth (.bool b)
  | int {depth : Nat} {n : Int} (h : (Value.int n).isShowable = true) : IsOrdinary depth (.int n)
  | float {depth : Nat} (x : Float) : IsOrdinary depth (.float x)
  | text {depth : Nat} (s : String) : IsOrdinary depth (.text s)
  | day {depth : Nat} (d : Calendar.Day) : IsOrdinary depth (.day d)
  | instant {depth : Nat} (t : Calendar.Moment) : IsOrdinary depth (.instant t)
  | bytes {depth : Nat} (bs : List Nat) : IsOrdinary depth (.bytes bs)
  | list {depth : Nat} {xs : List Value} (h : ∀ x ∈ xs, IsOrdinary depth x) :
      IsOrdinary (depth + 1) (.list xs)
  | map {depth : Nat} {es : List (Value × Value)} (hkeys : ∀ e ∈ es, ∃ s, e.1 = .text s)
      (hvalues : ∀ e ∈ es, IsOrdinary depth e.2) : IsOrdinary (depth + 1) (.map es)

/-- How deep ordinary documents are nested at most. -/
def maxNesting : Nat := 100

namespace IsOrdinary

variable {depth : Nat} {v : Value}

theorem mono {deeper : Nat} (h : IsOrdinary depth v) (hle : depth ≤ deeper) :
    IsOrdinary deeper v := by
  induction h generalizing deeper with
  | null => exact .null
  | bool b => exact .bool b
  | int h => exact .int h
  | float x => exact .float x
  | text s => exact .text s
  | day d => exact .day d
  | instant t => exact .instant t
  | bytes bs => exact .bytes bs
  | list _ ih =>
    obtain ⟨deeper, rfl⟩ := Nat.exists_eq_add_of_le' (Nat.lt_of_lt_of_le (Nat.succ_pos _) hle)
    exact .list fun x hx => ih x hx (Nat.le_of_succ_le_succ hle)
  | map hkeys _ ih =>
    obtain ⟨deeper, rfl⟩ := Nat.exists_eq_add_of_le' (Nat.lt_of_lt_of_le (Nat.succ_pos _) hle)
    exact .map hkeys fun e he => ih e he (Nat.le_of_succ_le_succ hle)

theorem isShowable (h : IsOrdinary depth v) : v.isShowable = true := by
  induction h with
  | int h => exact h
  | list _ ih =>
    rw [Value.isShowable]
    exact Value.areShowable_iff.mpr ih
  | map hkeys _ ih =>
    rw [Value.isShowable]
    refine Value.haveShowableParts_iff.mpr fun e he => ⟨?_, ih e he⟩
    obtain ⟨s, hs⟩ := hkeys e he
    rw [hs]
    exact Value.isShowable_text s
  | _ => simp only [Value.isShowable]

/-! ## Parts -/

theorem itemsOf (h : IsOrdinary depth v) : ∀ x ∈ v.itemsOf, IsOrdinary depth x := by
  intro x hx
  cases h with
  | list h => exact (h x hx).mono (Nat.le_succ _)
  | _ => exact absurd hx List.not_mem_nil

theorem entriesOf (h : IsOrdinary depth v) :
    ∀ e ∈ v.entriesOf, (∃ s, e.1 = .text s) ∧ IsOrdinary depth e.2 := by
  intro e he
  cases h with
  | map hkeys hvalues => exact ⟨hkeys e he, (hvalues e he).mono (Nat.le_succ _)⟩
  | _ => exact absurd he List.not_mem_nil

theorem get? (h : IsOrdinary depth v) {key : String} {x : Value} (hx : v.get? key = some x) :
    IsOrdinary depth x := by
  obtain ⟨e, he, rfl⟩ := Option.map_eq_some_iff.mp hx
  exact (h.entriesOf e (List.mem_of_find?_eq_some he)).2

end IsOrdinary

end Reconcile.Document
