import Mathlib.Data.List.Perm.Basic
import Reconcile.Proofs.Expectation.ListAccount
import Reconcile.Proofs.Expectation.Literals

/-!
# Lists of literals

Where no expected value is an expression, two lists match when the one holds the values of the
other, each as often. Taking the first value that is equal is then as good as any other choice: what
is left is the same up to order.

* `Search.OfLiteral`, `searchList_literal`: what a search for a literal finds; `perm_taken`: what it
  leaves;
* **`consumeAll_literals`**: the turns all match, and leave nothing, when the lists are permutations
  of each other;
* **`compareLists_literals`**: the verdict on lists of literals, which no reordering changes.
-/

namespace Reconcile.Expectation

open Reconcile.Diff

/-- What a search for a literal finds is equal to it, or there is no such value. -/
def Search.OfLiteral (e : Option String) (left : List (Nat × Option String)) : Search → Prop
  | .found place value => value = e ∧ (place, value) ∈ left
  | .missing => e ∉ left.map Prod.snd
  | .unreadable _ => False

/-- A search for a literal returns. -/
theorem searchList_literal {e : Option String} (he : isExpression e = false) :
    ∀ left : List (Nat × Option String),
    ∃ search : Search, searchList e left = .ok search ∧ search.OfLiteral e left
  | [] => ⟨.missing, rfl, List.not_mem_nil⟩
  | (place, value) :: rest => by
    rw [searchList, accepts_of_literal he, literalMatches_eq]
    cases heq : value == e with
    | true => exact ⟨.found place value, rfl, eq_of_beq heq, List.mem_cons_self⟩
    | false =>
      obtain ⟨search, hsearch, hfound⟩ := searchList_literal he rest
      refine ⟨search, hsearch, ?_⟩
      cases search with
      | found place' value' => exact ⟨hfound.1, List.mem_cons_of_mem _ hfound.2⟩
      | missing =>
        rw [Search.OfLiteral, List.map_cons, List.mem_cons, not_or]
        exact ⟨(ne_of_beq_false heq).symm, hfound⟩
      | unreadable cause => exact hfound

/-- What is there is what was taken, and what is left. -/
theorem perm_taken {left : List (Nat × Option String)}
    (hleft : left.Pairwise fun p q => p.1 < q.1) {q : Nat × Option String} (hq : q ∈ left) :
    (left.map Prod.snd).Perm
      (q.2 :: (left.filter fun p => some q ≠ some p).map Prod.snd) := by
  have hnodup : left.Nodup :=
    hleft.imp fun hlt heq => Nat.ne_of_lt hlt (congrArg Prod.fst heq)
  have herase : left.erase q = left.filter fun p => some q ≠ some p := by
    rw [hnodup.erase_eq_filter]
    refine List.filter_congr fun p _ => ?_
    rw [Bool.eq_iff_iff, bne_iff_ne, decide_eq_true_iff, ne_comm]
    exact not_congr Option.some_inj.symm
  rw [← herase]
  exact (List.perm_cons_erase hq).map Prod.snd

/-- **All turns**: the expected literals are found, and nothing is left, when they are the values
    that are there. -/
theorem consumeAll_literals (label : String) : ∀ (expected : List (Option String)) (number : Nat)
    {left : List (Nat × Option String)}, (∀ e ∈ expected, isExpression e = false) →
    left.Pairwise (fun p q => p.1 < q.1) →
    ∃ leaves last, consumeAll label number expected left = .ok (leaves, last) ∧
      ((leaves.all Leaf.passes = true ∧ last = []) ↔ (left.map Prod.snd).Perm expected)
  | [], _, left, _, _ => by
    refine ⟨[], left, rfl, ?_⟩
    rw [List.perm_nil, List.map_eq_nil_iff]
    exact and_iff_right rfl
  | e :: rest, number, left, hliteral, hleft => by
    obtain ⟨he, hrest⟩ := List.forall_mem_cons.mp hliteral
    obtain ⟨search, hsearch, hfound⟩ := searchList_literal he left
    obtain ⟨leaves, last, hmore, hiff⟩ := consumeAll_literals label rest (number + 1) hrest
      (hleft.filter fun q => search.taken? ≠ some q)
    refine ⟨search.leaf (label ++ "#" ++ toString number) e :: leaves, last, ?_, ?_⟩
    · rw [consumeAll_cons number e rest hleft, hsearch]
      show (consumeAll label (number + 1) rest _ >>= _) = _
      rw [hmore]
      rfl
    · rw [List.all_cons, Bool.and_eq_true, and_assoc, hiff]
      cases search with
      | found place value =>
        obtain ⟨rfl, hmem⟩ := hfound
        have hall := perm_taken hleft hmem
        rw [hall.congr_left, List.perm_cons]
        exact and_iff_right rfl
      | missing =>
        exact iff_of_false (fun h => Bool.false_ne_true h.1)
          fun hperm => hfound (hperm.mem_iff.mpr List.mem_cons_self)
      | unreadable cause => exact hfound.elim

/-- Lists of literals are compared, and match when they are permutations of each other. -/
theorem literals_verdict {expected : List (Option String)}
    (hliteral : ∀ e ∈ expected, isExpression e = false) (actual : List (Option String))
    (label : String) : ∃ t, compareLists expected actual label = .ok t ∧
      (t.success = true ↔ actual.Perm expected) := by
  obtain ⟨leaves, last, hconsume, hiff⟩ :=
    consumeAll_literals label expected 1 hliteral (valuesOf_pairwise actual)
  have hreturns : ∃ t, compareLists expected actual label = .ok t :=
    bind_returns ⟨_, hconsume⟩ fun _ => ⟨_, rfl⟩
  obtain ⟨t, ht⟩ := hreturns
  refine ⟨t, ht, ?_⟩
  obtain ⟨leaves', last', hconsume', hfields, _, hsuccess, _⟩ := compareLists_ok ht
  cases hconsume.symm.trans hconsume'
  have hvalues : (valuesOf actual).map Prod.snd = actual := by
    rw [valuesOf, List.map_map]
    exact List.zipIdx_map_fst 0 actual
  rw [hvalues] at hiff
  rw [hsuccess, hfields, List.all_append, Bool.and_eq_true, ← hiff]
  refine and_congr_right fun _ => ?_
  cases last with
  | nil => exact iff_of_true rfl rfl
  | cons q rest => exact iff_of_false Bool.false_ne_true (List.cons_ne_nil q rest)

/-- **Lists of literals are compared as multisets.** When the expected values are absent or no
    expressions, the comparison returns, and it succeeds exactly when the actual values are a
    permutation of the expected ones. No reordering of either list changes the verdict. -/
theorem compareLists_literals (expected actual : List (Option String)) (label : String)
    (hliteral : ∀ e ∈ expected, isExpression e = false) :
    ∃ t, compareLists expected actual label = .ok t ∧
      (t.success = true ↔ actual.Perm expected) ∧
      ∀ expected' actual' : List (Option String), expected'.Perm expected →
        actual'.Perm actual → ∃ t', compareLists expected' actual' label = .ok t' ∧
          t'.success = t.success := by
  obtain ⟨t, ht, hverdict⟩ := literals_verdict hliteral actual label
  refine ⟨t, ht, hverdict, fun expected' actual' hexpected hactual => ?_⟩
  have hliteral' : ∀ e ∈ expected', isExpression e = false := fun e he =>
    hliteral e (hexpected.mem_iff.mp he)
  obtain ⟨t', ht', hverdict'⟩ := literals_verdict hliteral' actual' label
  refine ⟨t', ht', ?_⟩
  rw [Bool.eq_iff_iff, hverdict', hverdict, hactual.congr_left, hexpected.congr_right]

/-- Values that come twice or are absent, in another order. -/
theorem compareLists_literals_repeated :
    let expected : List (Option String) := [some "a", none, some "b", some "a"]
    let actual : List (Option String) := [some "b", some "a", none, some "a"]
    (∀ e ∈ expected, isExpression e = false) ∧
      (∃ t, compareLists expected actual "v" = .ok t ∧ t.success = true) ∧
      ∃ t, compareLists expected (some "a" :: actual) "v" = .ok t ∧ t.success = false := by
  intro expected actual
  have hliteral : ∀ e ∈ expected, isExpression e = false := by decide +kernel
  obtain ⟨t, ht, hverdict, _⟩ := compareLists_literals expected actual "v" hliteral
  obtain ⟨t', ht', hverdict', _⟩ := compareLists_literals expected (some "a" :: actual) "v" hliteral
  refine ⟨hliteral, ⟨t, ht, hverdict.mpr (by decide)⟩, t', ht', ?_⟩
  rw [← Bool.not_eq_true, hverdict']
  decide

end Reconcile.Expectation
