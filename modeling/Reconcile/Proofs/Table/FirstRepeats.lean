import Reconcile.Proofs.Table.KeyedRun

/-!
# First occurrences of keys

Where no key column has a tolerance, equality of keys is an equivalence: two keys are equal when
their parts stand for the same. A key that repeats an earlier one is then named after the very
first row with it.

* `ExactKeys`, `keyClass`, `sameKey_iff_keyClass`: keys are equal when they have one class;
* `RepeatsFirst`, `firstBefore`: which keys repeat an earlier one, and the first place of each;
* **`repeatsFrom_getElem?`**: the names that repeated keys are given are those of these places.
-/

namespace Reconcile.Table

variable (s : Settings)

/-! ## 1. Keys without a tolerance -/

/-- Key columns are compared as texts, or as numbers with the precision zero. -/
def ExactKeys : Prop := ∀ c ∈ s.keyColumns, ∀ p, s.precision? c = some p → p.isZero = true

/-- What the parts of a key stand for. -/
def keyClass (k : RowKey) : List (ℚ ⊕ Option String) :=
  ((KeyRule.ofColumns s.keyColumns s.numericColumns).parts k).map KeyPart.value

variable {s}

theorem ExactKeys.not_tolerant (h : ExactKeys s) {c : String} (hc : c ∈ s.keyColumns) :
    isTolerantIn s.numericColumns c = false := by
  unfold isTolerantIn
  cases hp : s.numericColumns.lookup c with
  | none => rfl
  | some p => simp [h c hc p hp]

/-- **Without a tolerance equality of keys is an equivalence.** -/
theorem sameKey_iff_keyClass (h : ExactKeys s) {k l : RowKey} (hk : IsRowKey s k)
    (hl : IsRowKey s l) :
    sameKey s.numericColumns k l = true ↔ keyClass s k = keyClass s l := by
  have hagree : (KeyRule.ofColumns s.keyColumns s.numericColumns).agree k l = true :=
    agree_iff.mpr fun c hc htolerant => by
      rw [h.not_tolerant hc] at htolerant
      cases htolerant
  rw [← same_eq_sameKey_of_isConsistent hk.1 hl.1 hk.2 hl.2, KeyRule.same, hagree, Bool.and_true,
    sameParts_iff, keyClass, keyClass]

theorem sameKey_trans (h : ExactKeys s) {k l m : RowKey} (hk : IsRowKey s k) (hl : IsRowKey s l)
    (hm : IsRowKey s m) (hkl : sameKey s.numericColumns k l = true)
    (hlm : sameKey s.numericColumns l m = true) : sameKey s.numericColumns k m = true := by
  rw [sameKey_iff_keyClass h hk hl] at hkl
  rw [sameKey_iff_keyClass h hl hm] at hlm
  exact (sameKey_iff_keyClass h hk hm).mpr (hkl.trans hlm)

/-! ## 2. First places -/

variable (s) in
/-- The keys that are equal to an earlier one, each with the first place of an equal key. -/
def RepeatsFirst (keys : List RowKey) (first : Nat → Option Nat) : Prop :=
  ∀ j key, keys[j]? = some key → ∀ k, first j = some k ↔
    IsLeast {i | i < j ∧ ∃ earlier, keys[i]? = some earlier ∧
      sameKey s.numericColumns key earlier = true} k

variable (s) in
/-- The first place before a given one whose key is equal to the key there. -/
def firstBefore (keys : List RowKey) (j : Nat) : Option Nat :=
  keys[j]?.bind fun key => (keys.take j).findIdx? (sameKey s.numericColumns key)

theorem firstBefore_repeatsFirst (keys : List RowKey) :
    RepeatsFirst s keys (firstBefore s keys) := by
  intro j key hkey k
  rw [firstBefore, hkey, Option.bind_some, List.findIdx?_eq_some_iff_getElem]
  constructor
  · rintro ⟨hk, hsame, hbefore⟩
    rw [List.getElem_take] at hsame
    rw [List.length_take, Nat.lt_min] at hk
    refine ⟨⟨hk.1, _, List.getElem?_eq_getElem hk.2, hsame⟩, ?_⟩
    rintro i ⟨hij, earlier, hearlier, hsame'⟩
    by_contra hlt
    obtain ⟨hi, rfl⟩ := List.getElem?_eq_some_iff.mp hearlier
    have hnot := hbefore i (Nat.lt_of_not_le hlt)
    rw [List.getElem_take] at hnot
    exact hnot hsame'
  · rintro ⟨⟨hkj, earlier, hearlier, hsame⟩, hleast⟩
    obtain ⟨hk, rfl⟩ := List.getElem?_eq_some_iff.mp hearlier
    refine ⟨by rw [List.length_take, Nat.lt_min]; exact ⟨hkj, hk⟩, ?_, fun i hik => ?_⟩
    · rw [List.getElem_take]
      exact hsame
    · rw [List.getElem_take]
      intro hsame'
      have hle := hleast ⟨hik.trans hkj, _, List.getElem?_eq_getElem (hik.trans hk), hsame'⟩
      exact absurd hik (Nat.not_lt.mpr hle)

/-! ## 3. Names of repeated keys -/

theorem firstOf_append {α : Type} (same : RowKey → RowKey → Bool) (l : KeyList α) (k : RowKey)
    (a : α) (key : RowKey) : firstOf same (l ++ [(k, a)]) key =
      (firstOf same l key).or (if same key k then some a else none) := by
  rw [firstOf, firstOf, List.find?_append, Option.map_or, List.find?_singleton]
  congr 1
  split <;> rfl

/-- Once a key is registered, an equal one repeats it, unless it repeats one seen before: then so
    does the other one. -/
theorem firstOf_registerIn (hexact : ExactKeys s) (hcheck : s.checkDuplicates = true)
    {seen : KeyList String} {k key : RowKey} (hseen : ∀ e ∈ seen, IsRowKey s e.1)
    (hk : IsRowKey s k) (hkey : IsRowKey s key) (name : String) :
    firstOf (sameKey s.numericColumns) (registerIn s seen k name).2 key =
      (firstOf (sameKey s.numericColumns) seen key).or
        (if sameKey s.numericColumns key k then some name else none) := by
  rw [registerIn, if_pos hcheck]
  cases hfirst : firstOf (sameKey s.numericColumns) seen k with
  | none => exact firstOf_append _ seen k name key
  | some first =>
    show firstOf _ seen key = _
    split
    · rename_i hsame
      obtain ⟨e, he, hke⟩ := firstOf_isSome.mp (by rw [hfirst]; rfl)
      have hfound : (firstOf (sameKey s.numericColumns) seen key).isSome = true :=
        firstOf_isSome.mpr ⟨e, he, sameKey_trans hexact hkey hk (hseen e he) hsame hke⟩
      exact (Option.or_of_isSome hfound).symm
    · exact Option.or_none.symm

theorem isRowKey_registerIn (hcheck : s.checkDuplicates = true) {seen : KeyList String}
    {k : RowKey} (hseen : ∀ e ∈ seen, IsRowKey s e.1) (hk : IsRowKey s k) (name : String) :
    ∀ e ∈ (registerIn s seen k name).2, IsRowKey s e.1 := by
  intro e he
  rcases (mem_registerIn hcheck).mp he with he | ⟨_, rfl⟩
  · exact hseen e he
  · exact hk

/-- What a key repeats, from a number on and after the keys seen before: one of these, or else the
    first of the keys that come before it. -/
theorem repeatsFrom_getElem?_of_seen (hexact : ExactKeys s) (hcheck : s.checkDuplicates = true)
    (named : Nat → String) : ∀ (keys : List RowKey) (n : Nat) {seen : KeyList String} (j : Nat),
      (∀ k ∈ keys, IsRowKey s k) → (∀ e ∈ seen, IsRowKey s e.1) →
      (repeatsFrom s named n seen keys)[j]? = keys[j]?.map fun key =>
        (firstOf (sameKey s.numericColumns) seen key).or
          (((keys.take j).findIdx? (sameKey s.numericColumns key)).map fun k => named (n + k))
  | [], _, _, _, _, _ => rfl
  | k :: rest, n, seen, 0, _, _ => by
    rw [repeatsFrom_cons, List.getElem?_cons_zero, List.getElem?_cons_zero, Option.map_some,
      registerIn_fst hcheck, List.take_zero, List.findIdx?_nil, Option.map_none, Option.or_none]
  | k :: rest, n, seen, j + 1, hkeys, hseen => by
    obtain ⟨hk, hrest⟩ := List.forall_mem_cons.mp hkeys
    rw [repeatsFrom_cons, List.getElem?_cons_succ, List.getElem?_cons_succ,
      repeatsFrom_getElem?_of_seen hexact hcheck named rest (n + 1) j hrest
        (isRowKey_registerIn hcheck hseen hk _)]
    refine Option.map_congr fun key hkey => ?_
    rw [firstOf_registerIn hexact hcheck hseen hk (hrest key (List.mem_of_getElem? hkey)),
      Option.or_assoc, List.take_succ_cons, List.findIdx?_cons]
    congr 1
    split
    · rfl
    · rw [Option.map_map, Option.none_or]
      refine Option.map_congr fun i _ => ?_
      rw [Function.comp_apply, Nat.add_assoc, Nat.add_comm 1]

/-- **A repeated key is named after the first row with it.** -/
theorem repeatsFrom_getElem? (hexact : ExactKeys s) (hcheck : s.checkDuplicates = true)
    (named : Nat → String) {keys : List RowKey} (hkeys : ∀ k ∈ keys, IsRowKey s k) {j : Nat}
    (hj : j < keys.length) : (repeatsFrom s named 1 [] keys)[j]? =
      some ((firstBefore s keys j).map fun k => named (k + 1)) := by
  rw [repeatsFrom_getElem?_of_seen hexact hcheck named keys 1 j hkeys
    fun _ h => absurd h List.not_mem_nil, firstBefore, List.getElem?_eq_getElem hj]
  refine congrArg some (Option.map_congr fun i _ => ?_)
  rw [Nat.add_comm]

end Reconcile.Table
