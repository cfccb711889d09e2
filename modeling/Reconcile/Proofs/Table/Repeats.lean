import Reconcile.Proofs.Table.PlainIndex
import Reconcile.Settings.Basic

/-!
# Repeated keys

Where duplicates are looked for, a key is flagged when an earlier one that is not flagged itself is
equal to it. Equality up to a precision is not transitive, so a key may equal a flagged one and yet
not be flagged; but no key is flagged exactly when no two keys are equal.

* `registerIn`, `repeatsFrom`: the keys seen so far as a plain list, and what each key repeats;
* `FlagsRepeats`: the flags, said without the keys seen;
* **`repeatsFrom_flags`**, `no_repeats_iff`: these are the flags, and when there are none.
-/

namespace Reconcile.Table

variable (s : Settings)

/-! ## 1. Keys seen -/

/-- Registers a key in the list of the keys seen, when duplicates are looked for, and tells the
    name of the first one that it repeats. -/
def registerIn (seen : KeyList String) (key : RowKey) (name : String) :
    Option String × KeyList String :=
  if s.checkDuplicates then
    match firstOf (sameKey s.numericColumns) seen key with
    | some first => (some first, seen)
    | none => (none, seen ++ [(key, name)])
  else (none, seen)

/-- For each key, the name of the first one that it repeats. -/
def repeatsFrom (named : Nat → String) : Nat → KeyList String → List RowKey → List (Option String)
  | _, _, [] => []
  | n, seen, key :: rest =>
    let (first, seen) := registerIn s seen key (named n)
    first :: repeatsFrom named (n + 1) seen rest

theorem repeatsFrom_cons (named : Nat → String) (n : Nat) (seen : KeyList String) (key : RowKey)
    (rest : List RowKey) : repeatsFrom s named n seen (key :: rest) =
      (registerIn s seen key (named n)).1 ::
        repeatsFrom s named (n + 1) (registerIn s seen key (named n)).2 rest := rfl

@[simp] theorem repeatsFrom_length (named : Nat → String) : ∀ (keys : List RowKey) (n : Nat)
    (seen : KeyList String), (repeatsFrom s named n seen keys).length = keys.length
  | [], _, _ => rfl
  | _ :: rest, n, seen => by
    rw [repeatsFrom_cons, List.length_cons, repeatsFrom_length named rest, List.length_cons]

variable {s}

theorem registerIn_unchecked (h : s.checkDuplicates = false) (seen : KeyList String) (key : RowKey)
    (name : String) : registerIn s seen key name = (none, seen) := by
  rw [registerIn, h]
  rfl

/-- A key repeats the first one seen that is equal to it. -/
theorem registerIn_fst (h : s.checkDuplicates = true) (seen : KeyList String) (key : RowKey)
    (name : String) :
    (registerIn s seen key name).1 = firstOf (sameKey s.numericColumns) seen key := by
  rw [registerIn, if_pos h]
  cases firstOf (sameKey s.numericColumns) seen key <;> rfl

theorem firstOf_isSome {α : Type} {same : RowKey → RowKey → Bool} {l : KeyList α} {key : RowKey} :
    (firstOf same l key).isSome = true ↔ ∃ e ∈ l, same key e.1 = true := by
  rw [firstOf, Option.isSome_map, List.find?_isSome]

/-- A key repeats when one that is equal to it was seen. -/
theorem registerIn_isSome (h : s.checkDuplicates = true) (seen : KeyList String) (key : RowKey)
    (name : String) : (registerIn s seen key name).1.isSome = true ↔
      ∃ e ∈ seen, sameKey s.numericColumns key e.1 = true := by
  rw [registerIn_fst h, firstOf_isSome]

/-- A key that repeats none is seen from then on. -/
theorem mem_registerIn (h : s.checkDuplicates = true) {seen : KeyList String} {key : RowKey}
    {name : String} {e : RowKey × String} : e ∈ (registerIn s seen key name).2 ↔
      e ∈ seen ∨ (registerIn s seen key name).1.isSome = false ∧ e = (key, name) := by
  rw [registerIn, if_pos h]
  cases firstOf (sameKey s.numericColumns) seen key with
  | some first => exact ⟨.inl, fun hor => hor.elim id nofun⟩
  | none => simp

/-! ## 2. Flags -/

/-- The flag of the key at a place. -/
def flagAt (repeats : List (Option String)) (j : Nat) : Bool := repeats[j]?.any Option.isSome

variable (s) in
/-- The keys are flagged, when duplicates are looked for, that are equal to an earlier key which is
    not flagged itself. -/
def FlagsRepeats (keys : List RowKey) (flagged : Nat → Bool) : Prop :=
  ∀ j key, keys[j]? = some key → (flagged j = true ↔ s.checkDuplicates = true ∧
    ∃ i < j, ∃ earlier, keys[i]? = some earlier ∧ flagged i = false ∧
      sameKey s.numericColumns key earlier = true)

theorem flagAt_zero (first : Option String) (repeats : List (Option String)) :
    flagAt (first :: repeats) 0 = first.isSome := rfl

theorem flagAt_succ (first : Option String) (repeats : List (Option String)) (j : Nat) :
    flagAt (first :: repeats) (j + 1) = flagAt repeats j := rfl

theorem flagAt_unchecked (h : s.checkDuplicates = false) (named : Nat → String) :
    ∀ (keys : List RowKey) (n : Nat) (seen : KeyList String) (j : Nat),
      flagAt (repeatsFrom s named n seen keys) j = false
  | [], _, _, _ => rfl
  | key :: rest, n, seen, j => by
    rw [repeatsFrom_cons, registerIn_unchecked h]
    cases j with
    | zero => rfl
    | succ j => exact flagAt_unchecked h named rest (n + 1) seen j

/-- The flags from a number on: a key is flagged for one that was seen before, or for one among
    these keys that is not flagged. -/
theorem flagAt_repeatsFrom (h : s.checkDuplicates = true) (named : Nat → String) :
    ∀ (keys : List RowKey) (n : Nat) (seen : KeyList String) {j : Nat} {key : RowKey},
      keys[j]? = some key → (flagAt (repeatsFrom s named n seen keys) j = true ↔
        (∃ e ∈ seen, sameKey s.numericColumns key e.1 = true) ∨
        ∃ i < j, ∃ earlier, keys[i]? = some earlier ∧
          flagAt (repeatsFrom s named n seen keys) i = false ∧
          sameKey s.numericColumns key earlier = true)
  | [], _, _, _, _, hkey => by cases hkey
  | k :: rest, n, seen, j, key, hkey => by
    rw [repeatsFrom_cons]
    cases j with
    | zero =>
      obtain rfl : k = key := Option.some.inj hkey
      rw [flagAt_zero, registerIn_isSome h]
      exact ⟨.inl, fun hor => hor.elim id fun ⟨_, hi, _⟩ => absurd hi (Nat.not_lt_zero _)⟩
    | succ j =>
      rw [flagAt_succ, flagAt_repeatsFrom h named rest (n + 1) _ hkey]
      simp only [Nat.exists_lt_succ_left, flagAt_zero, flagAt_succ, List.getElem?_cons_zero,
        List.getElem?_cons_succ, mem_registerIn h]
      -- the first key is among those seen by the others when it is not flagged
      constructor
      · rintro (⟨e, he | ⟨hfirst, rfl⟩, hsame⟩ | hlater)
        · exact .inl ⟨e, he, hsame⟩
        · exact .inr (.inl ⟨k, rfl, hfirst, hsame⟩)
        · exact .inr (.inr hlater)
      · rintro (⟨e, he, hsame⟩ | ⟨_, hk, hfirst, hsame⟩ | hlater)
        · exact .inl ⟨e, .inl he, hsame⟩
        · obtain rfl := Option.some.inj hk
          exact .inl ⟨_, .inr ⟨hfirst, rfl⟩, hsame⟩
        · exact .inr hlater

/-- **The keys that repeat earlier ones are the flagged ones.** -/
theorem repeatsFrom_flags (named : Nat → String) (n : Nat) (keys : List RowKey) :
    FlagsRepeats s keys (flagAt (repeatsFrom s named n [] keys)) := by
  intro j key hkey
  cases h : s.checkDuplicates with
  | false => rw [flagAt_unchecked h]; exact ⟨nofun, nofun⟩
  | true =>
    rw [flagAt_repeatsFrom h named keys n [] hkey]
    exact ⟨fun hor => ⟨rfl, hor.resolve_left fun ⟨_, he, _⟩ => absurd he List.not_mem_nil⟩,
      fun hand => .inr hand.2⟩

variable (s) in
/-- No two of the keys are equal. -/
def DistinctKeys (keys : List RowKey) : Prop :=
  keys.Pairwise fun k l => sameKey s.numericColumns k l = false

instance (keys : List RowKey) : Decidable (DistinctKeys s keys) :=
  inferInstanceAs (Decidable (keys.Pairwise fun k l => sameKey s.numericColumns k l = false))

/-- **No key is flagged exactly when no two keys are equal**, although equality is not transitive:
    of two equal keys the first one is flagged, or else it is seen when the second one comes. -/
theorem FlagsRepeats.none_iff {keys : List RowKey} {flagged : Nat → Bool}
    (h : FlagsRepeats s keys flagged) : (∀ j < keys.length, flagged j = false) ↔
      (s.checkDuplicates = true → DistinctKeys s keys) := by
  constructor
  · intro hnone hcheck
    refine List.pairwise_iff_getElem.mpr fun i j hi hj hij => ?_
    refine Bool.eq_false_iff.mpr fun hsame => ?_
    have hflag := (h j keys[j] (List.getElem?_eq_getElem hj)).mpr
      ⟨hcheck, i, hij, keys[i], List.getElem?_eq_getElem hi, hnone i hi, by rwa [sameKey_comm]⟩
    rw [hnone j hj] at hflag
    cases hflag
  · intro hne j hj
    refine Bool.eq_false_iff.mpr fun hflag => ?_
    obtain ⟨hcheck, i, hij, earlier, hearlier, _, hsame⟩ :=
      (h j keys[j] (List.getElem?_eq_getElem hj)).mp hflag
    obtain ⟨hi, rfl⟩ := List.getElem?_eq_some_iff.mp hearlier
    have hdistinct := List.pairwise_iff_getElem.mp (hne hcheck) i j hi hj hij
    rw [sameKey_comm, hsame] at hdistinct
    cases hdistinct

/-- Rows that were registered one after another repeat none exactly when no two of their keys are
    equal. -/
theorem no_repeats_iff {β : Type} {rows : List β} {repeatOf : β → Option String}
    {named : Nat → String} {n : Nat} {keys : List RowKey}
    (h : rows.map repeatOf = repeatsFrom s named n [] keys) :
    (∀ row ∈ rows, repeatOf row = none) ↔ (s.checkDuplicates = true → DistinctKeys s keys) := by
  have hlength : rows.length = keys.length := by
    rw [← List.length_map repeatOf, h, repeatsFrom_length]
  rw [← (repeatsFrom_flags named n keys).none_iff, ← h, ← hlength, List.forall_mem_iff_getElem]
  refine forall₂_congr fun j hj => ?_
  rw [flagAt, List.getElem?_map, List.getElem?_eq_getElem hj, Option.map_some, Option.any_some,
    Option.isSome_eq_false_iff, Option.isNone_iff_eq_none]

end Reconcile.Table
