import Mathlib.Data.List.Basic

/-!
# Taking in turn

The elements of one side take elements of the other side in turn: each one picks from those that
the ones before it left, or goes away with nothing.

* `turns`: what each element takes, and what is left over;
* `untaken`: what nobody took;
* **`turns_getElem?`**: an element picks from what none before it took; `turns_left`: what is left
  is what nobody took;
* `turns_mem`, **`turns_once`**: where only what is there is picked, nothing is taken twice.
-/

namespace Reconcile

variable {ρ σ : Type} [DecidableEq σ] (pick : ρ → List σ → Option σ)

/-- What each element of the first list takes from the second one, and what is left of that. -/
def turns : List ρ → List σ → List (Option σ) × List σ
  | [], left => ([], left)
  | r :: rest, left =>
    let (taken, left') := turns rest (left.filter fun a => pick r left ≠ some a)
    (pick r left :: taken, left')

theorem turns_cons (r : ρ) (rest : List ρ) (left : List σ) :
    turns pick (r :: rest) left =
      (pick r left :: (turns pick rest (left.filter fun a => pick r left ≠ some a)).1,
        (turns pick rest (left.filter fun a => pick r left ≠ some a)).2) := rfl

@[simp] theorem turns_length (rs : List ρ) : ∀ left : List σ,
    (turns pick rs left).1.length = rs.length := by
  induction rs with
  | nil => exact fun _ => rfl
  | cons r rest ih => intro left; rw [turns_cons, List.length_cons, ih, List.length_cons]

/-- What nobody took, in its order. -/
def untaken (taken : List (Option σ)) (all : List σ) : List σ := all.filter fun a => some a ∉ taken

theorem mem_untaken {taken : List (Option σ)} {all : List σ} {a : σ} :
    a ∈ untaken taken all ↔ a ∈ all ∧ some a ∉ taken := by
  rw [untaken, List.mem_filter, decide_eq_true_iff]

@[simp] theorem untaken_nil (all : List σ) : untaken [] all = all :=
  List.filter_eq_self.mpr fun _ _ => rfl

/-- What nobody took, when somebody took something first. -/
theorem untaken_cons (o : Option σ) (taken : List (Option σ)) (all : List σ) :
    untaken (o :: taken) all = untaken taken (all.filter fun a => o ≠ some a) := by
  rw [untaken, untaken, List.filter_filter]
  refine List.filter_congr fun a _ => ?_
  simp [List.mem_cons, not_or, eq_comm, Bool.and_comm]

/-- **Each one in turn**: an element picks from what none before it took. -/
theorem turns_getElem? (rs : List ρ) : ∀ (left : List σ) (i : Nat),
    (turns pick rs left).1[i]? = rs[i]?.map fun r =>
      pick r (untaken ((turns pick rs left).1.take i) left) := by
  induction rs with
  | nil => exact fun _ i => by simp [turns]
  | cons r rest ih =>
    intro left i
    rw [turns_cons]
    cases i with
    | zero => simp
    | succ i =>
      rw [List.getElem?_cons_succ, List.getElem?_cons_succ, List.take_succ_cons, ih]
      simp only [untaken_cons]

/-- **What is left is what nobody took**, in its order. -/
theorem turns_left (rs : List ρ) : ∀ left : List σ,
    (turns pick rs left).2 = untaken (turns pick rs left).1 left := by
  induction rs with
  | nil => intro left; simp [turns]
  | cons r rest ih =>
    intro left
    rw [turns_cons]
    show (turns pick rest _).2 = _
    rw [ih, untaken_cons]

section Picked

variable {pick} (hpick : ∀ r left a, pick r left = some a → a ∈ left)
include hpick

/-- What an element takes was there, and was not taken before. -/
theorem turns_mem {rs : List ρ} {left : List σ} {i : Nat} {a : σ}
    (hi : (turns pick rs left).1[i]? = some (some a)) :
    a ∈ left ∧ some a ∉ (turns pick rs left).1.take i := by
  rw [turns_getElem?, Option.map_eq_some_iff] at hi
  obtain ⟨r, _, hr⟩ := hi
  exact mem_untaken.mp (hpick r _ a hr)

/-- **Nothing is taken twice.** -/
theorem turns_once {rs : List ρ} {left : List σ} {i j : Nat} {a : σ}
    (hi : (turns pick rs left).1[i]? = some (some a))
    (hj : (turns pick rs left).1[j]? = some (some a)) : i = j := by
  -- of two elements the later one would find it taken
  have hle : ∀ {i j : Nat}, (turns pick rs left).1[i]? = some (some a) →
      (turns pick rs left).1[j]? = some (some a) → i ≤ j := by
    intro i j hi hj
    by_contra hlt
    refine (turns_mem hpick hi).2 (List.mem_of_getElem? (i := j) ?_)
    rw [List.getElem?_take_of_lt (Nat.lt_of_not_le hlt), hj]
  exact Nat.le_antisymm (hle hi hj) (hle hj hi)

end Picked

end Reconcile
