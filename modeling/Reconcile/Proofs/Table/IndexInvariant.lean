import Reconcile.Proofs.Table.FirstMatch
import Reconcile.Proofs.Table.KeyEquality

/-!
# What a key index holds

The entries of an index stand in buckets, those of one bucket in the order of addition. This module
ties them to the plain list of all entries in the order of addition:

* `Holds`: the buckets are the classes of the entries by their parts, the numbers of the entries
  ascend, and the size is right;
* `Holds.add`, `Holds.locate?_eq`, `Holds.take?_eq`, `Holds.leftovers_eq`: each operation on the
  index is the operation on the list, where the first entry with an equal key (`KeyRule.same`) is
  found and removed.
-/

namespace Reconcile.Table

variable {α : Type}

/-! ## 1. Classes of entries -/

/-- The bucket of the entries with the given parts. -/
def bucketFor (r : KeyRule) (entries : List (Entry α)) (parts : List KeyPart) : Bucket α :=
  ⟨parts, entries.filter fun e => sameParts parts (r.parts e.key)⟩

/-- The classes are different, and every entry is in one of them. -/
structure Partitions (r : KeyRule) (classes : List (List KeyPart)) (entries : List (Entry α)) :
    Prop where
  apart : classes.Pairwise fun p q => sameParts p q = false
  covered : ∀ e ∈ entries, ∃ p ∈ classes, sameParts p (r.parts e.key) = true

/-- Lists of parts that differ have no entry in common. -/
theorem sameParts_false_of_apart {p q s : List KeyPart} (h : sameParts p q = false)
    (hq : sameParts q s = true) : sameParts p s = false := by
  rw [sameParts_comm p s, ← sameParts_congr hq p, sameParts_comm q p]
  exact h

theorem bucketFor_append_of_same {r : KeyRule} {entries : List (Entry α)} {e : Entry α}
    {p : List KeyPart} (h : sameParts p (r.parts e.key) = true) :
    bucketFor r (entries ++ [e]) p = ⟨p, (bucketFor r entries p).entries ++ [e]⟩ := by
  simp [bucketFor, List.filter_append, h]

theorem bucketFor_append_of_not_same {r : KeyRule} {entries : List (Entry α)} {e : Entry α}
    {p : List KeyPart} (h : sameParts p (r.parts e.key) = false) :
    bucketFor r (entries ++ [e]) p = bucketFor r entries p := by
  simp [bucketFor, List.filter_append, h]

/-- The classes once there is an entry with the given parts. -/
def classesWith (p : List KeyPart) (classes : List (List KeyPart)) : List (List KeyPart) :=
  if classes.any fun q => sameParts q p then classes else classes ++ [p]

/-- **Adding to the buckets adds to the entries.** The last hypothesis carries over from all
    classes to those that are still to be looked at. -/
theorem addTo_map_bucketFor (r : KeyRule) (entries : List (Entry α)) (e : Entry α) :
    ∀ (classes : List (List KeyPart)),
      (classes.Pairwise fun p q => sameParts p q = false) →
      ((∀ p ∈ classes, sameParts p (r.parts e.key) = false) →
        entries.filter (fun f => sameParts (r.parts e.key) (r.parts f.key)) = []) →
      KeyIndex.addTo (r.parts e.key) e (classes.map (bucketFor r entries)) =
        (classesWith (r.parts e.key) classes).map (bucketFor r (entries ++ [e]))
  | [], _, hnone => by
    simp [KeyIndex.addTo, classesWith, bucketFor, List.filter_append, sameParts_refl,
      hnone (by simp)]
  | p :: rest, hapart, hnone => by
    rw [List.pairwise_cons] at hapart
    rw [List.map_cons, KeyIndex.addTo]
    cases hp : sameParts p (r.parts e.key) with
    | true =>
      have hrest : ∀ q ∈ rest, sameParts q (r.parts e.key) = false := by
        intro q hq
        rw [sameParts_comm, ← sameParts_congr hp, hapart.1 q hq]
      have hmap : rest.map (bucketFor r entries) = rest.map (bucketFor r (entries ++ [e])) :=
        List.map_congr_left fun q hq => (bucketFor_append_of_not_same (hrest q hq)).symm
      rw [classesWith, List.any_cons, hp, Bool.true_or, if_pos rfl, List.map_cons,
        bucketFor_append_of_same hp, ← hmap]
      simp [bucketFor, hp]
    | false =>
      have ih := addTo_map_bucketFor r entries e rest hapart.2 fun h =>
        hnone (List.forall_mem_cons.mpr ⟨hp, h⟩)
      have hclasses : classesWith (r.parts e.key) (p :: rest) =
          p :: classesWith (r.parts e.key) rest := by
        unfold classesWith
        rw [List.any_cons, hp, Bool.false_or]
        split <;> rfl
      rw [hclasses, List.map_cons, bucketFor_append_of_not_same hp, ← ih]
      simp [bucketFor, hp]

theorem Partitions.add {r : KeyRule} {classes : List (List KeyPart)} {entries : List (Entry α)}
    (h : Partitions r classes entries) (e : Entry α) :
    Partitions r (classesWith (r.parts e.key) classes) (entries ++ [e]) := by
  unfold classesWith
  cases hany : classes.any fun q => sameParts q (r.parts e.key) with
  | true =>
    obtain ⟨p, hp, hsame⟩ := List.any_eq_true.mp hany
    refine ⟨h.apart, fun f hf => ?_⟩
    rcases List.mem_append.mp hf with hf | hf
    · exact h.covered f hf
    · rw [List.mem_singleton.mp hf]
      exact ⟨p, hp, hsame⟩
  | false =>
    have hnone := List.any_eq_false.mp hany
    refine ⟨?_, fun f hf => ?_⟩
    · simp only [Bool.false_eq_true, if_false]
      refine List.pairwise_append.mpr ⟨h.apart, List.pairwise_singleton _ _, ?_⟩
      intro p hp q hq
      rw [List.mem_singleton.mp hq]
      simpa using hnone p hp
    · simp only [Bool.false_eq_true, if_false]
      rcases List.mem_append.mp hf with hf | hf
      · obtain ⟨p, hp, hsame⟩ := h.covered f hf
        exact ⟨p, List.mem_append_left _ hp, hsame⟩
      · rw [List.mem_singleton.mp hf]
        exact ⟨_, List.mem_append_right _ (List.mem_singleton_self _), sameParts_refl _⟩

/-- When no class has the given parts, no entry has them. -/
theorem Partitions.filter_eq_nil {r : KeyRule} {classes : List (List KeyPart)}
    {entries : List (Entry α)} (h : Partitions r classes entries) {p : List KeyPart}
    (hnone : ∀ q ∈ classes, sameParts q p = false) :
    entries.filter (fun f => sameParts p (r.parts f.key)) = [] := by
  refine List.filter_eq_nil_iff.mpr fun f hf hsame => ?_
  obtain ⟨q, hq, hqf⟩ := h.covered f hf
  have := sameParts_congr hsame q
  rw [sameParts_comm p q, hnone q hq, sameParts_comm, hqf] at this
  cases this

/-! ## 2. Entries in ascending order -/

/-- With ascending numbers, erasing the first entry that is looked for is dropping its number. -/
theorem eraseP_eq_filter_number {p : Entry α → Bool} {e : Entry α} {entries : List (Entry α)}
    (hasc : entries.Pairwise fun a b => a.number < b.number) (h : entries.find? p = some e) :
    entries.eraseP p = entries.filter fun f => f.number != e.number :=
  eraseP_eq_filter (f := Entry.number) (hasc.imp Nat.ne_of_lt) h

/-- With ascending numbers, an entry is found by its number. -/
theorem find?_number {e : Entry α} : ∀ {entries : List (Entry α)},
    (entries.Pairwise fun a b => a.number < b.number) → e ∈ entries →
    entries.find? (fun f => f.number == e.number) = some e
  | [], _, h => by cases h
  | a :: rest, hasc, h => by
    rw [List.pairwise_cons] at hasc
    rcases List.mem_cons.mp h with rfl | h
    · exact List.find?_cons_of_pos (by simp)
    · have hlt := hasc.1 e h
      rw [List.find?_cons_of_neg (by simp; omega)]
      exact find?_number hasc.2 h

/-- With ascending numbers, a number tells an entry. -/
theorem eq_of_number {entries : List (Entry α)}
    (hasc : entries.Pairwise fun a b => a.number < b.number) {e f : Entry α} (he : e ∈ entries)
    (hf : f ∈ entries) (h : f.number = e.number) : f = e := by
  have hfind := find?_number hasc hf
  rw [h, find?_number hasc he] at hfind
  exact (Option.some.inj hfind).symm

section Removal

variable {r : KeyRule} {entries : List (Entry α)} {e : Entry α}
  (hasc : entries.Pairwise fun a b => a.number < b.number) (he : e ∈ entries)
include hasc he

/-- Dropping an entry leaves the buckets of other classes as they are. -/
theorem bucketFor_drop_of_not_same {p : List KeyPart} (h : sameParts p (r.parts e.key) = false) :
    bucketFor r (entries.filter fun f => f.number != e.number) p = bucketFor r entries p := by
  unfold bucketFor
  congr 1
  rw [List.filter_filter]
  refine List.filter_congr fun f hf => ?_
  by_cases hfe : f.number = e.number
  · rw [eq_of_number hasc he hf hfe, h, Bool.false_and]
  · simp [hfe]

/-- In the bucket of its class, dropping an entry erases its number. -/
theorem bucketFor_drop_of_same {p : List KeyPart} (h : sameParts p (r.parts e.key) = true) :
    ((bucketFor r entries p).entries.eraseP fun f => f.number == e.number) =
      (bucketFor r (entries.filter fun f => f.number != e.number) p).entries := by
  have hmem : e ∈ (bucketFor r entries p).entries := List.mem_filter.mpr ⟨he, h⟩
  have hascp : (bucketFor r entries p).entries.Pairwise fun a b => a.number < b.number :=
    hasc.filter _
  rw [eraseP_eq_filter_number hascp (find?_number hascp hmem)]
  simp only [bucketFor, List.filter_filter, Bool.and_comm]

/-- Taking an entry out of a bucket drops its number there. -/
theorem remove_map_bucketFor {p : List KeyPart} (hep : sameParts p (r.parts e.key) = true) :
    ∀ (classes : List (List KeyPart)), (classes.Pairwise fun p q => sameParts p q = false) →
      KeyIndex.remove e.number p (classes.map (bucketFor r entries)) =
        classes.map (bucketFor r (entries.filter fun f => f.number != e.number))
  | [], _ => rfl
  | q :: rest, hapart => by
    rw [List.pairwise_cons] at hapart
    rw [List.map_cons, List.map_cons, KeyIndex.remove]
    cases hq : sameParts q p with
    | true =>
      have hbucket := bucketFor_drop_of_same hasc he (r := r) ((sameParts_congr hq _).trans hep)
      have hrest : rest.map (bucketFor r entries) =
          rest.map (bucketFor r (entries.filter fun f => f.number != e.number)) := by
        refine List.map_congr_left fun s hs => (bucketFor_drop_of_not_same hasc he ?_).symm
        refine sameParts_false_of_apart ?_ hep
        rw [sameParts_comm, ← sameParts_congr hq, hapart.1 s hs]
      simp only [bucketFor, hq, if_true] at hbucket hrest ⊢
      rw [hbucket, hrest]
    | false =>
      have hqe : sameParts q (r.parts e.key) = false := sameParts_false_of_apart hq hep
      rw [bucketFor_drop_of_not_same hasc he hqe,
        remove_map_bucketFor hep rest hapart.2]
      simp [bucketFor, hq]

end Removal

/-- The buckets together hold the entries. -/
theorem flatMap_bucketFor_perm (r : KeyRule) : ∀ {classes : List (List KeyPart)}
    {entries : List (Entry α)}, Partitions r classes entries →
    ((classes.map (bucketFor r entries)).flatMap Bucket.entries).Perm entries
  | [], entries, h => by
    cases entries with
    | nil => exact List.Perm.refl _
    | cons e rest =>
      obtain ⟨p, hp, _⟩ := h.covered e List.mem_cons_self
      cases hp
  | p :: rest, entries, h => by
    have hapart := List.pairwise_cons.mp h.apart
    have hothers : Partitions r rest (entries.filter fun e => !sameParts p (r.parts e.key)) := by
      refine ⟨hapart.2, fun e he => ?_⟩
      obtain ⟨he, hne⟩ := List.mem_filter.mp he
      obtain ⟨q, hq, hqe⟩ := h.covered e he
      rcases List.mem_cons.mp hq with rfl | hq
      · rw [hqe] at hne
        cases hne
      · exact ⟨q, hq, hqe⟩
    have hbuckets : rest.map (bucketFor r entries) =
        rest.map (bucketFor r (entries.filter fun e => !sameParts p (r.parts e.key))) := by
      refine List.map_congr_left fun q hq => ?_
      unfold bucketFor
      congr 1
      rw [List.filter_filter]
      refine List.filter_congr fun e _ => ?_
      cases hqe : sameParts q (r.parts e.key) with
      | true => rw [sameParts_false_of_apart (hapart.1 q hq) hqe]; rfl
      | false => rfl
    rw [List.map_cons, List.flatMap_cons, hbuckets]
    exact ((flatMap_bucketFor_perm r hothers).append_left _).trans
      (List.filter_append_perm _ entries)

/-! ## 3. The invariant -/

/-- The index holds the entries, which stand in the order of addition. -/
structure Holds (x : KeyIndex α) (entries : List (Entry α)) : Prop where
  size : x.size = entries.length
  ascending : entries.Pairwise fun a b => a.number < b.number
  below : ∀ e ∈ entries, e.number < x.added
  buckets : ∃ classes, Partitions x.rule classes entries ∧
    x.buckets = classes.map (bucketFor x.rule entries)

theorem holds_empty (columns : List String) (numeric : List (String × Decimal)) :
    Holds (KeyIndex.empty columns numeric : KeyIndex α) [] where
  size := rfl
  ascending := .nil
  below _ h := absurd h List.not_mem_nil
  buckets := ⟨[], ⟨.nil, fun _ h => absurd h List.not_mem_nil⟩, rfl⟩

variable {x : KeyIndex α} {entries : List (Entry α)}

theorem Holds.add (h : Holds x entries) (candidate : α) (key : RowKey) :
    Holds (x.add candidate key) (entries ++ [⟨x.added, key, candidate⟩]) where
  size := by simp [KeyIndex.add, h.size]
  ascending := by
    refine List.pairwise_append.mpr ⟨h.ascending, List.pairwise_singleton _ _, ?_⟩
    intro a ha b hb
    rw [List.mem_singleton.mp hb]
    exact h.below a ha
  below := by
    intro e he
    show e.number < x.added + 1
    rcases List.mem_append.mp he with he | he
    · have := h.below e he
      omega
    · rw [List.mem_singleton.mp he]
      exact Nat.lt_succ_self _
  buckets := by
    obtain ⟨classes, hparts, hbuckets⟩ := h.buckets
    refine ⟨_, hparts.add ⟨x.added, key, candidate⟩, ?_⟩
    show KeyIndex.addTo (x.rule.parts key) _ x.buckets = _
    rw [hbuckets]
    exact addTo_map_bucketFor x.rule entries ⟨x.added, key, candidate⟩ classes hparts.apart
      hparts.filter_eq_nil

/-- The bucket of a key holds the entries that have its parts. -/
theorem Holds.bucketOf_eq (h : Holds x entries) (key : RowKey) :
    x.bucketOf key = entries.filter fun e => sameParts (x.rule.parts key) (x.rule.parts e.key) := by
  obtain ⟨classes, hparts, hbuckets⟩ := h.buckets
  unfold KeyIndex.bucketOf
  rw [hbuckets, List.find?_map]
  cases hfind : classes.find? ((fun b => sameParts b.parts (x.rule.parts key)) ∘
      bucketFor x.rule entries) with
  | none =>
    refine (hparts.filter_eq_nil fun q hq => ?_).symm
    simpa [bucketFor] using List.find?_eq_none.mp hfind q hq
  | some p =>
    have hsame : sameParts p (x.rule.parts key) = true := by
      simpa [bucketFor] using List.find?_some hfind
    exact List.filter_congr fun e _ => sameParts_congr hsame _

/-- **The entry that an index finds is the first one with an equal key.** -/
theorem Holds.locate?_eq (h : Holds x entries) (key : RowKey) :
    x.locate? key = entries.find? fun e => x.rule.same key e.key := by
  rw [KeyIndex.locate?, h.bucketOf_eq, List.find?_filter]
  congr 1
  funext e
  rw [KeyRule.same, Bool.decide_and, Bool.decide_eq_true, Bool.decide_eq_true]

/-- Taking a candidate takes the first entry with an equal key. -/
theorem Holds.take?_eq (h : Holds x entries) (key : RowKey) :
    (x.take? key = none ∧ entries.find? (fun e => x.rule.same key e.key) = none) ∨
    ∃ e y, x.take? key = some (e.candidate, y) ∧ y.rule = x.rule ∧
      entries.find? (fun e => x.rule.same key e.key) = some e ∧
      Holds y (entries.eraseP fun e => x.rule.same key e.key) := by
  unfold KeyIndex.take?
  rw [h.locate?_eq]
  cases hfind : entries.find? fun e => x.rule.same key e.key with
  | none => exact .inl ⟨rfl, rfl⟩
  | some e =>
    refine .inr ⟨e, _, rfl, rfl, rfl, ?_⟩
    have he := List.mem_of_find?_eq_some hfind
    have hsame : x.rule.same key e.key = true := by simpa using List.find?_some hfind
    have hparts : sameParts (x.rule.parts key) (x.rule.parts e.key) = true :=
      (Bool.and_eq_true_iff.mp hsame).1
    rw [eraseP_eq_filter_number h.ascending hfind]
    refine ⟨?_, h.ascending.filter _, fun f hf => h.below f (List.mem_filter.mp hf).1, ?_⟩
    · show x.size - 1 = _
      rw [← eraseP_eq_filter_number h.ascending hfind, List.length_eraseP_of_mem he hsame, h.size]
    · obtain ⟨classes, hpart, hbuckets⟩ := h.buckets
      refine ⟨classes, ⟨hpart.apart, fun f hf => hpart.covered f (List.mem_filter.mp hf).1⟩, ?_⟩
      show KeyIndex.remove e.number (x.rule.parts key) x.buckets = _
      rw [hbuckets]
      exact remove_map_bucketFor h.ascending he hparts classes hpart.apart

/-- **The candidates left stand in the order of addition.** -/
theorem Holds.leftovers_eq (h : Holds x entries) :
    x.leftovers = entries.map Entry.candidate := by
  obtain ⟨classes, hparts, hbuckets⟩ := h.buckets
  unfold KeyIndex.leftovers
  congr 1
  have hperm := (List.mergeSort_perm (x.buckets.flatMap Bucket.entries)
    fun a b => decide (a.number ≤ b.number)).trans
      (hbuckets ▸ flatMap_bucketFor_perm x.rule hparts)
  have hsorted : ((x.buckets.flatMap Bucket.entries).mergeSort fun a b =>
      decide (a.number ≤ b.number)).Pairwise fun a b => decide (a.number ≤ b.number) = true :=
    List.pairwise_mergeSort (fun a b c => by simp only [decide_eq_true_eq]; omega)
      (fun a b => by simp only [Bool.or_eq_true, decide_eq_true_eq]; omega) _
  have hascending : entries.Pairwise fun a b => decide (a.number ≤ b.number) = true :=
    h.ascending.imp fun h => decide_eq_true (Nat.le_of_lt h)
  refine List.Perm.eq_of_pairwise ?_ hsorted hascending hperm
  intro a b ha hb hab hba
  exact eq_of_number h.ascending hb (hperm.subset ha)
    (Nat.le_antisymm (of_decide_eq_true hab) (of_decide_eq_true hba))

end Reconcile.Table
