import Reconcile.Proofs.Table.FirstMatch

/-!
# The pairs of a pairing

Pairing by first match gives the same pairs whichever side takes from the other. Whatever the
relation is, the first element of one side and the first one that it matches choose each other, as
no other element comes before them; without them the rest is paired again.

* `matchedPairs`: the pairs that come about; `left_length`: what is left is in none of them;
* `matchedPairs_append`, `matchedPairs_skip`: some elements after others, and an element that
  nobody takes;
* **`matchedPairs_swap`**: the pairs are the same from the other side.
-/

namespace Reconcile.Table

variable {ρ σ : Type} {m : ρ → σ → Bool}

/-- The pair of an element and of what it takes. -/
def pairOf (r : ρ) (taken : Option σ) : List (ρ × σ) := (taken.map fun a => (r, a)).toList

/-- The pairs of elements with what they take, in turn. -/
def matchedPairs (m : ρ → σ → Bool) : List ρ → List σ → List (ρ × σ)
  | [], _ => []
  | r :: rest, left => pairOf r (left.find? (m r)) ++ matchedPairs m rest (left.eraseP (m r))

theorem matchedPairs_cons (r : ρ) (rest : List ρ) (left : List σ) :
    matchedPairs m (r :: rest) left =
      pairOf r (left.find? (m r)) ++ matchedPairs m rest (left.eraseP (m r)) := rfl

theorem matchedPairs_nil_right : ∀ rs : List ρ, matchedPairs m rs [] = []
  | [] => rfl
  | _ :: rest => matchedPairs_nil_right rest

/-- The pairs, told by what the elements take. -/
theorem matchedPairs_eq (rs : List ρ) : ∀ left : List σ, matchedPairs m rs left =
    (rs.zip (firstMatches m rs left).1).filterMap fun q => q.2.map fun a => (q.1, a) := by
  induction rs with
  | nil => exact fun _ => rfl
  | cons r rest ih =>
    intro left
    rw [matchedPairs_cons, firstMatches_cons, List.zip_cons_cons, List.filterMap_cons, ih]
    cases left.find? (m r) <;> rfl

/-! ## 1. How many pairs there are -/

/-- What is left of the other side is what is in no pair. -/
theorem left_length (rs : List ρ) : ∀ left : List σ,
    (firstMatches m rs left).2.length + (matchedPairs m rs left).length = left.length := by
  induction rs with
  | nil => exact fun _ => rfl
  | cons r rest ih =>
    intro left
    have hrest := ih (left.eraseP (m r))
    rw [firstMatches_cons, matchedPairs_cons, List.length_append]
    cases hfind : left.find? (m r) with
    | none =>
      rw [eraseP_eq_self_of_find?_eq_none hfind] at hrest ⊢
      rw [← hrest]
      exact congrArg _ (Nat.zero_add _)
    | some a =>
      have hlength := List.length_eraseP_of_mem (List.mem_of_find?_eq_some hfind)
        (List.find?_some hfind)
      have hpos := List.length_pos_of_mem (List.mem_of_find?_eq_some hfind)
      have hpair : (pairOf r (some a)).length = 1 := rfl
      dsimp only at hrest ⊢
      omega

/-! ## 2. The other side -/

/-- Some elements take after others. -/
theorem matchedPairs_append (rs rs' : List ρ) : ∀ left : List σ,
    matchedPairs m (rs ++ rs') left =
      matchedPairs m rs left ++ matchedPairs m rs' (firstMatches m rs left).2 := by
  induction rs with
  | nil => exact fun _ => rfl
  | cons r rest ih =>
    intro left
    rw [List.cons_append, matchedPairs_cons, matchedPairs_cons, ih, List.append_assoc,
      firstMatches_cons]

/-- An element that nobody takes does not count, and stays where it is. -/
theorem matchedPairs_skip {a : σ} (rs : List ρ) : ∀ left : List σ, (∀ r ∈ rs, m r a = false) →
    matchedPairs m rs (a :: left) = matchedPairs m rs left ∧
      (firstMatches m rs (a :: left)).2 = a :: (firstMatches m rs left).2 := by
  induction rs with
  | nil => exact fun _ _ => ⟨rfl, rfl⟩
  | cons r rest ih =>
    intro left h
    obtain ⟨hr, hrest⟩ := List.forall_mem_cons.mp h
    have hr : ¬ m r a = true := by rw [hr]; exact Bool.false_ne_true
    obtain ⟨hpairs, hleft⟩ := ih (left.eraseP (m r)) hrest
    rw [matchedPairs_cons, matchedPairs_cons, firstMatches_cons, firstMatches_cons,
      List.find?_cons_of_neg hr, List.eraseP_cons_of_neg hr, hpairs, hleft]
    exact ⟨rfl, rfl⟩

/-- **The pairs are the same from the other side.** The first element takes the first one that it
    matches; from the other side, those before that one do not match it, and so that one takes it. -/
theorem matchedPairs_swap (rs : List ρ) : ∀ left : List σ,
    ((matchedPairs m rs left).map Prod.swap).Perm (matchedPairs (fun a r => m r a) left rs) := by
  induction rs with
  | nil =>
    intro left
    rw [matchedPairs_nil_right]
    exact .refl _
  | cons r rest ih =>
    intro left
    rw [matchedPairs_cons]
    cases hfind : left.find? (m r) with
    | none =>
      have hnone : ∀ a ∈ left, m r a = false := fun a ha => by
        simpa using List.find?_eq_none.mp hfind a ha
      rw [eraseP_eq_self_of_find?_eq_none hfind, (matchedPairs_skip left rest hnone).1]
      exact ih left
    | some a =>
      obtain ⟨hra, before, after, rfl, hbefore⟩ := List.find?_eq_some_iff_append.mp hfind
      have hskip : ∀ b ∈ before, m r b = false := fun b hb => by simpa using hbefore b hb
      have herase : (before ++ a :: after).eraseP (m r) = before ++ after := by
        rw [List.eraseP_append_right _ (fun b hb => by rw [hskip b hb]; exact Bool.false_ne_true),
          List.eraseP_cons_of_pos hra]
      obtain ⟨hpairs, hleft⟩ := matchedPairs_skip (m := fun a r => m r a) before rest hskip
      have htake : ∀ l : List ρ, (r :: l).find? (fun r => m r a) = some r := fun _ =>
        List.find?_cons_of_pos hra
      have hkeep : ∀ l : List ρ, (r :: l).eraseP (fun r => m r a) = l := fun _ =>
        List.eraseP_cons_of_pos hra
      rw [herase, matchedPairs_append, hpairs, hleft, matchedPairs_cons, htake, hkeep]
      have hrest := ih (before ++ after)
      rw [matchedPairs_append] at hrest
      exact (hrest.cons (a, r)).trans List.perm_middle.symm

end Reconcile.Table
