import Mathlib.Data.List.Forall2
import Mathlib.Data.List.Pairwise
import Mathlib.Data.List.Perm.Basic
import Mathlib.Order.Bounds.Basic
import Reconcile.Proofs.Turns

/-!
# Pairing by first match

Every element of one side takes, in turn, the first one left of the other side that it matches.

* `find?_eraseP_congr`, `eraseP_eq_filter`, `find?_perm`: the first match in a list;
* `find?_forall₂`, `eraseP_forall₂`: the first match in two lists that are in a relation;
* `firstMatches`: the pairing, and what it leaves over;
* `mem_iff_taken_or_left`: nothing of the other side is lost;
* **`firstMatches_of_forall₂`**: lists that match element by element are paired so;
* **`firstMatches_perm`**: the order of the other side does not count where matches are unique;
* `firstMatches_eq_turns`: between elements that can be told apart it is taking in turn;
* **`taken_getElem?`**: what an element takes is the first match among those that none before it
  took; `taken_once`: nothing is taken twice; `left_eq_untaken`: what is left is what nobody took;
* `taken_isLeast`: of places, it takes the least one.
-/

namespace Reconcile.Table

/-! ## 1. The first match in a list -/

section First

variable {β γ : Type}

/-- Tests that agree on a list find and erase the same in it. -/
theorem find?_eraseP_congr {p q : β → Bool} : ∀ {l : List β},
    (∀ e ∈ l, p e = q e) → l.find? p = l.find? q ∧ l.eraseP p = l.eraseP q
  | [], _ => ⟨rfl, rfl⟩
  | a :: rest, h => by
    obtain ⟨ha, hrest⟩ := List.forall_mem_cons.mp h
    obtain ⟨hfind, herase⟩ := find?_eraseP_congr hrest
    rw [List.find?_cons, List.find?_cons, List.eraseP_cons, List.eraseP_cons, ha, hfind, herase]
    exact ⟨rfl, rfl⟩

/-- In lists that are in a relation, tests that agree find elements in the relation, or nothing. -/
theorem find?_forall₂ {R : β → γ → Prop} {p : β → Bool} {q : γ → Bool}
    (hpq : ∀ b c, R b c → p b = q c) {l : List β} {l' : List γ} (h : List.Forall₂ R l l') :
    Option.Rel R (l.find? p) (l'.find? q) := by
  induction h with
  | nil => exact .none
  | @cons b c _ _ hbc _ ih =>
    rw [List.find?_cons, List.find?_cons, hpq b c hbc]
    cases q c with
    | true => exact .some hbc
    | false => exact ih

/-- Erasing the first match keeps lists in a relation when tests agree. -/
theorem eraseP_forall₂ {R : β → γ → Prop} {p : β → Bool} {q : γ → Bool}
    (hpq : ∀ b c, R b c → p b = q c) {l : List β} {l' : List γ} (h : List.Forall₂ R l l') :
    List.Forall₂ R (l.eraseP p) (l'.eraseP q) := by
  induction h with
  | nil => exact .nil
  | @cons b c _ _ hbc hrest ih =>
    rw [List.eraseP_cons, List.eraseP_cons, hpq b c hbc]
    cases q c with
    | true => exact hrest
    | false => exact .cons hbc ih

/-- Where a label tells the elements apart, erasing the first match is dropping its label. -/
theorem eraseP_eq_filter [DecidableEq γ] {f : β → γ} {p : β → Bool} {e : β} : ∀ {l : List β},
    (l.Pairwise fun a b => f a ≠ f b) → l.find? p = some e →
    l.eraseP p = l.filter fun a => f a != f e
  | [], _, h => by cases h
  | a :: rest, hne, h => by
    rw [List.pairwise_cons] at hne
    cases hpa : p a with
    | true =>
      rw [List.find?_cons_of_pos hpa] at h
      obtain rfl : a = e := Option.some.inj h
      have hrest : ∀ b ∈ rest, (f b != f a) = true := fun b hb =>
        bne_iff_ne.mpr (hne.1 b hb).symm
      rw [List.eraseP_cons_of_pos hpa, List.filter_cons_of_neg (by simp),
        List.filter_eq_self.mpr hrest]
    | false =>
      rw [List.find?_cons_of_neg (by simp [hpa])] at h
      have hae : (f a != f e) = true := bne_iff_ne.mpr (hne.1 e (List.mem_of_find?_eq_some h))
      rw [List.eraseP_cons_of_neg (by simp [hpa]), List.filter_cons, if_pos hae,
        eraseP_eq_filter hne.2 h]

/-- Nothing is erased where nothing is found. -/
theorem eraseP_eq_self_of_find?_eq_none {p : β → Bool} {l : List β} (h : l.find? p = none) :
    l.eraseP p = l := List.eraseP_of_forall_not (List.find?_eq_none.mp h)

/-- An element is found, or it is still there once the first match is erased. -/
theorem mem_iff_find?_or_eraseP {p : β → Bool} {a : β} : ∀ {l : List β},
    a ∈ l ↔ l.find? p = some a ∨ a ∈ l.eraseP p
  | [] => by simp
  | b :: rest => by
    cases hpb : p b with
    | true =>
      rw [List.find?_cons_of_pos hpb, List.eraseP_cons_of_pos hpb, List.mem_cons, Option.some_inj,
        eq_comm]
    | false =>
      rw [List.find?_cons_of_neg (by simp [hpb]), List.eraseP_cons_of_neg (by simp [hpb]),
        List.mem_cons, List.mem_cons, mem_iff_find?_or_eraseP (l := rest), or_left_comm]

/-- The only match of a list is found in it whatever its order is. -/
theorem find?_perm {p : β → Bool} {l l' : List β} (h : l.Perm l')
    (hone : l.Pairwise fun a b => p a = true → p b = true → False) : l.find? p = l'.find? p := by
  cases hfind : l'.find? p with
  | none =>
    rw [List.find?_eq_none] at hfind ⊢
    exact fun a ha => hfind a (h.subset ha)
  | some b =>
    have hb := h.symm.subset (List.mem_of_find?_eq_some hfind)
    have hpb := List.find?_some hfind
    obtain ⟨a, ha⟩ := Option.isSome_iff_exists.mp (List.find?_isSome.mpr ⟨b, hb, hpb⟩)
    have hpa := List.find?_some ha
    have : Std.Symm fun a b => p a = true → p b = true → False := ⟨fun _ _ hxy hy hx => hxy hx hy⟩
    have hab : a = b := by
      by_contra hne
      exact hone.forall (List.mem_of_find?_eq_some ha) hb hne hpa hpb
    rw [ha, hab]

end First

/-! ## 2. The pairing -/

variable {ρ σ τ : Type}

/-- What each element of the first list takes from the second one, and what is left of that. -/
def firstMatches (matches? : ρ → σ → Bool) : List ρ → List σ → List (Option σ) × List σ
  | [], left => ([], left)
  | r :: rest, left =>
    let (taken, left') := firstMatches matches? rest (left.eraseP (matches? r))
    (left.find? (matches? r) :: taken, left')

section Pairing

variable (matches? : ρ → σ → Bool)

theorem firstMatches_cons (r : ρ) (rest : List ρ) (left : List σ) :
    firstMatches matches? (r :: rest) left =
      (left.find? (matches? r) :: (firstMatches matches? rest (left.eraseP (matches? r))).1,
        (firstMatches matches? rest (left.eraseP (matches? r))).2) := rfl

@[simp] theorem taken_length (rs : List ρ) : ∀ left : List σ,
    (firstMatches matches? rs left).1.length = rs.length := by
  induction rs with
  | nil => exact fun _ => rfl
  | cons r rest ih => intro left; rw [firstMatches_cons, List.length_cons, ih, List.length_cons]

/-- **Nothing is lost**: what was there is taken or left. -/
theorem mem_iff_taken_or_left (rs : List ρ) {a : σ} : ∀ left : List σ,
    a ∈ left ↔ some a ∈ (firstMatches matches? rs left).1 ∨ a ∈ (firstMatches matches? rs left).2 := by
  induction rs with
  | nil => intro left; simp [firstMatches]
  | cons r rest ih =>
    intro left
    rw [firstMatches_cons, List.mem_cons, or_assoc, ← ih, eq_comm (a := some a)]
    exact mem_iff_find?_or_eraseP

/-- **Lists that match element by element** are paired so: what stands before an element has been
    taken when its turn comes. -/
theorem firstMatches_of_forall₂ {matches? : ρ → σ → Bool} {rs : List ρ} {left : List σ}
    (h : List.Forall₂ (fun r a => matches? r a = true) rs left) :
    firstMatches matches? rs left = (left.map some, []) := by
  induction h with
  | nil => rfl
  | cons hra _ ih =>
    rw [firstMatches_cons, List.find?_cons_of_pos hra, List.eraseP_cons_of_pos hra, ih]
    rfl

/-- A list pairs with itself when every element matches itself. -/
theorem firstMatches_self {matches? : σ → σ → Bool} (h : ∀ a, matches? a a = true) (l : List σ) :
    firstMatches matches? l l = (l.map some, []) :=
  firstMatches_of_forall₂ (List.forall₂_same.mpr fun a _ => h a)

/-- **The order of the other side does not count** where no element matches two of it: everybody
    takes the same, and the same is left. -/
theorem firstMatches_perm (rs : List ρ) : ∀ {left left' : List σ}, left.Perm left' →
    (∀ r ∈ rs, left.Pairwise fun a b => matches? r a = true → matches? r b = true → False) →
    (firstMatches matches? rs left).1 = (firstMatches matches? rs left').1 ∧
      (firstMatches matches? rs left).2.Perm (firstMatches matches? rs left').2 := by
  induction rs with
  | nil => exact fun h _ => ⟨rfl, h⟩
  | cons r rest ih =>
    intro left left' h hone
    obtain ⟨hr, hrest⟩ := List.forall_mem_cons.mp hone
    obtain ⟨htaken, hleft⟩ := ih (h.eraseP (matches? r) hr) fun r' hr' =>
      (hrest r' hr').sublist List.eraseP_sublist
    rw [firstMatches_cons, firstMatches_cons, find?_perm h hr, htaken]
    exact ⟨rfl, hleft⟩

/-- The pairing looks at nothing but the two lists. -/
theorem firstMatches_congr {m m' : ρ → σ → Bool} : ∀ (rs : List ρ) {left : List σ},
    (∀ r, ∀ a ∈ left, m r a = m' r a) → firstMatches m rs left = firstMatches m' rs left
  | [], _, _ => rfl
  | r :: rest, left, h => by
    obtain ⟨hfind, herase⟩ := find?_eraseP_congr (h r)
    rw [firstMatches_cons, firstMatches_cons, ← hfind, ← herase,
      firstMatches_congr rest fun r' a ha => h r' a (List.mem_of_mem_eraseP ha)]

/-- Other sides that are in a relation are left in it when the elements match alike. -/
theorem left_forall₂ {R : σ → τ → Prop} {m : ρ → σ → Bool} {m' : ρ → τ → Bool}
    (hm : ∀ r a b, R a b → m r a = m' r b) : ∀ (rs : List ρ) {left : List σ} {left' : List τ},
    List.Forall₂ R left left' →
      List.Forall₂ R (firstMatches m rs left).2 (firstMatches m' rs left').2
  | [], _, _, h => h
  | r :: rest, _, _, h => by
    rw [firstMatches_cons, firstMatches_cons]
    exact left_forall₂ hm rest (eraseP_forall₂ (hm r) h)

/-- Relabelling what is taken. -/
theorem firstMatches_map (f : τ → σ) (rs : List ρ) : ∀ left : List τ,
    firstMatches matches? rs (left.map f) =
      ((firstMatches (fun r a => matches? r (f a)) rs left).1.map (Option.map f),
        (firstMatches (fun r a => matches? r (f a)) rs left).2.map f) := by
  induction rs with
  | nil => exact fun _ => rfl
  | cons r rest ih =>
    intro left
    rw [firstMatches_cons, firstMatches_cons, List.find?_map, List.eraseP_map, ih]
    rfl

variable [DecidableEq σ]

/-- Erasing what the first element takes, by name. -/
theorem eraseP_eq_filter_taken {left : List σ} (h : left.Nodup) (r : ρ) :
    left.eraseP (matches? r) =
      left.filter fun a => decide (left.find? (matches? r) ≠ some a) := by
  cases hfind : left.find? (matches? r) with
  | none => simp [eraseP_eq_self_of_find?_eq_none hfind]
  | some e =>
    rw [eraseP_eq_filter (f := id) h hfind]
    refine List.filter_congr fun a _ => ?_
    rw [Bool.eq_iff_iff, bne_iff_ne, decide_eq_true_iff, ne_eq, ne_eq, Option.some_inj]
    exact not_congr eq_comm

/-- Pairing by first match is taking in turn, where elements can be told apart. -/
theorem firstMatches_eq_turns (rs : List ρ) : ∀ {left : List σ} (_ : left.Nodup),
    firstMatches matches? rs left = turns (fun r l => l.find? (matches? r)) rs left := by
  induction rs with
  | nil => exact fun _ => rfl
  | cons r rest ih =>
    intro left h
    rw [firstMatches_cons, turns_cons, eraseP_eq_filter_taken matches? h r, ih (h.filter _)]

/-- **First match**: an element takes the first one that it matches of those that none before it
    took. -/
theorem taken_getElem? (rs : List ρ) {left : List σ} (h : left.Nodup) (i : Nat) :
    (firstMatches matches? rs left).1[i]? = rs[i]?.map fun r =>
      (untaken ((firstMatches matches? rs left).1.take i) left).find? (matches? r) := by
  rw [firstMatches_eq_turns matches? rs h]
  exact turns_getElem? _ rs left i

/-- **What is left is what nobody took**, in its order. -/
theorem left_eq_untaken (rs : List ρ) {left : List σ} (h : left.Nodup) :
    (firstMatches matches? rs left).2 = untaken (firstMatches matches? rs left).1 left := by
  rw [firstMatches_eq_turns matches? rs h]
  exact turns_left _ rs left

/-- **Nothing is taken twice.** -/
theorem taken_once {rs : List ρ} {left : List σ} (h : left.Nodup) {i j : Nat} {a : σ}
    (hi : (firstMatches matches? rs left).1[i]? = some (some a))
    (hj : (firstMatches matches? rs left).1[j]? = some (some a)) : i = j := by
  rw [firstMatches_eq_turns matches? rs h] at hi hj
  exact turns_once (fun _ _ _ => List.mem_of_find?_eq_some) hi hj

end Pairing

/-! ## 3. Pairing of places -/

/-- The first match among ascending places is the least one. -/
theorem find?_eq_some_iff_isLeast {p : Nat → Bool} {j : Nat} : ∀ {l : List Nat},
    l.Pairwise (· < ·) → (l.find? p = some j ↔ IsLeast {k | k ∈ l ∧ p k = true} j)
  | [], _ => ⟨nofun, fun h => absurd h.1.1 List.not_mem_nil⟩
  | a :: rest, h => by
    obtain ⟨ha, hrest⟩ := List.pairwise_cons.mp h
    cases hpa : p a with
    | true =>
      rw [List.find?_cons_of_pos hpa, Option.some_inj]
      constructor
      · rintro rfl
        refine ⟨⟨List.mem_cons_self, hpa⟩, fun k hk => ?_⟩
        rcases List.mem_cons.mp hk.1 with rfl | hmem
        · exact Nat.le_refl k
        · exact Nat.le_of_lt (ha k hmem)
      · intro hleast
        have hle : j ≤ a := hleast.2 ⟨List.mem_cons_self, hpa⟩
        rcases List.mem_cons.mp hleast.1.1 with rfl | hmem
        · rfl
        · exact absurd (ha j hmem) (Nat.not_lt.mpr hle)
    | false =>
      have hset : {k | k ∈ a :: rest ∧ p k = true} = {k | k ∈ rest ∧ p k = true} := by
        ext k
        refine and_congr_left fun hk => ?_
        rw [List.mem_cons, or_iff_right]
        rintro rfl
        rw [hpa] at hk
        cases hk
      rw [List.find?_cons_of_neg (by simp [hpa]), hset]
      exact find?_eq_some_iff_isLeast hrest

/-- **An element takes the least place** that it matches and that none before it took. -/
theorem taken_isLeast (matches? : ρ → Nat → Bool) {rs : List ρ} {i : Nat} {r : ρ}
    (hr : rs[i]? = some r) (n j : Nat) :
    (firstMatches matches? rs (List.range n)).1[i]? = some (some j) ↔
      IsLeast {k | k < n ∧ matches? r k = true ∧
        some k ∉ (firstMatches matches? rs (List.range n)).1.take i} j := by
  have hascending : (untaken ((firstMatches matches? rs (List.range n)).1.take i)
      (List.range n)).Pairwise (· < ·) := List.pairwise_lt_range.filter _
  rw [taken_getElem? matches? rs List.nodup_range i, hr, Option.map_some, Option.some_inj,
    find?_eq_some_iff_isLeast hascending]
  simp only [mem_untaken, List.mem_range, and_assoc, and_comm (a := some _ ∉ _)]

end Reconcile.Table
