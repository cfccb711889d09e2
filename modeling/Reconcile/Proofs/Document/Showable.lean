import Reconcile.Document.Value

/-!
# Values that can be shown

An integer with too many digits cannot be shown, and so nothing can that holds one. What can be
shown has parts that can be shown, and this stays so where a collection comes inside of itself and
stands there in full.

* `areShowable_iff`, `haveShowableParts_iff`: lists and mappings, by their parts;
* `isShowable_filled`: a collection in the places where its label stands;
* **`isShowable_of_mem_itemsOf`**, **`isShowable_of_mem_entriesOf`**, `isShowable_of_get?`: the parts
  of a value.
-/

namespace Reconcile.Document.Value

/-- An integer with one digit can be shown. -/
theorem isShowable_int {n : Int} (h : n.natAbs < 10) : (Value.int n).isShowable = true := by
  have hdigits : maxShownDigits ≠ 0 := by decide
  rw [isShowable, decide_eq_true_eq]
  unfold tooLongToShow
  generalize maxShownDigits = digits at hdigits ⊢
  exact Nat.lt_of_lt_of_le h (Nat.le_self_pow hdigits 10)

theorem areShowable_iff : ∀ {xs : List Value},
    areShowable xs = true ↔ ∀ x ∈ xs, x.isShowable = true
  | [] => ⟨fun _ _ h => absurd h List.not_mem_nil, fun _ => rfl⟩
  | x :: xs => by rw [areShowable, Bool.and_eq_true, areShowable_iff, List.forall_mem_cons]

theorem haveShowableParts_iff : ∀ {es : List (Value × Value)},
    haveShowableParts es = true ↔
      ∀ e ∈ es, e.1.isShowable = true ∧ e.2.isShowable = true
  | [] => ⟨fun _ _ h => absurd h List.not_mem_nil, fun _ => rfl⟩
  | (k, v) :: es => by
    rw [haveShowableParts, Bool.and_eq_true, Bool.and_eq_true, haveShowableParts_iff,
      List.forall_mem_cons]

/-! ## 1. Collections inside of themselves -/

section

variable {label : Nat} {collection : Value}

mutual

/-- A value can be shown with a collection in the places where its label stands. -/
theorem isShowable_filled (hc : collection.isShowable = true) : ∀ {v : Value},
    v.isShowable = true → (filled label collection v).isShowable = true
  | .again l isMap, h => by
    rw [filled]
    split
    · exact hc
    · exact h
  | .labelled l v, h => by
    rw [isShowable] at h
    rw [filled, isShowable]
    exact isShowable_filled hc h
  | .list xs, h => by
    rw [isShowable] at h
    rw [filled, isShowable]
    exact areShowable_filledItems hc h
  | .tuple xs, h => by
    rw [isShowable] at h
    rw [filled, isShowable]
    exact areShowable_filledItems hc h
  | .map es, h => by
    rw [isShowable] at h
    rw [filled, isShowable]
    exact haveShowableParts_filledEntries hc h
  | .null, h | .bool _, h | .int _, h | .float _, h | .text _, h | .day _, h | .instant _, h
  | .bytes _, h | .set _, h => h

theorem areShowable_filledItems (hc : collection.isShowable = true) : ∀ {xs : List Value},
    areShowable xs = true → areShowable (filledItems label collection xs) = true
  | [], _ => rfl
  | x :: xs, h => by
    rw [areShowable, Bool.and_eq_true] at h
    rw [filledItems, areShowable, isShowable_filled hc h.1, areShowable_filledItems hc h.2]
    rfl

theorem haveShowableParts_filledEntries (hc : collection.isShowable = true) :
    ∀ {es : List (Value × Value)}, haveShowableParts es = true →
      haveShowableParts (filledEntries label collection es) = true
  | [], _ => rfl
  | (k, v) :: es, h => by
    rw [haveShowableParts, Bool.and_eq_true, Bool.and_eq_true] at h
    rw [filledEntries, haveShowableParts, h.1.1, isShowable_filled hc h.1.2,
      haveShowableParts_filledEntries hc h.2]
    rfl

end

end

theorem isShowable_opened {v : Value} (h : v.isShowable = true) : v.opened.isShowable = true := by
  cases v with
  | labelled l v =>
    have hinner : v.isShowable = true := by
      rw [isShowable] at h
      exact h
    exact isShowable_filled h hinner
  | _ => exact h

/-! ## 2. Parts -/

/-- The items of a list that can be shown can be shown. -/
theorem isShowable_of_mem_itemsOf {v x : Value} (h : v.isShowable = true) (hx : x ∈ v.itemsOf) :
    x.isShowable = true := by
  have hopened := isShowable_opened h
  unfold itemsOf at hx
  split at hx
  · rename_i xs hlist
    rw [hlist, isShowable] at hopened
    exact areShowable_iff.mp hopened x hx
  · exact absurd hx List.not_mem_nil

/-- The keys and the values of a mapping that can be shown can be shown. -/
theorem isShowable_of_mem_entriesOf {v : Value} {e : Value × Value} (h : v.isShowable = true)
    (he : e ∈ v.entriesOf) : e.1.isShowable = true ∧ e.2.isShowable = true := by
  have hopened := isShowable_opened h
  unfold entriesOf at he
  split at he
  · rename_i es hmap
    rw [hmap, isShowable] at hopened
    exact haveShowableParts_iff.mp hopened e he
  · exact absurd he List.not_mem_nil

theorem isShowable_of_get? {v x : Value} {key : String} (h : v.isShowable = true)
    (hx : v.get? key = some x) : x.isShowable = true := by
  obtain ⟨e, he, rfl⟩ := Option.map_eq_some_iff.mp hx
  exact (isShowable_of_mem_entriesOf h (List.mem_of_find?_eq_some he)).2

end Reconcile.Document.Value
