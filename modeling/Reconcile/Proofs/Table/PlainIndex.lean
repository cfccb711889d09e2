import Reconcile.Proofs.Table.IndexInvariant

/-!
# A key index and a plain list

An index answers every question as the plain list of the candidates that were added and not taken
answers it: a candidate is found, and taken, where the first equal key stands.

* `Mirrors`: the index holds the keys and candidates of the list, in its order;
* `Mirrors.add`, `Mirrors.find?_eq`, `Mirrors.take?_eq`, `Mirrors.leftovers_eq`: its operations;
* `Query`, `Reply`, `replies`: any sequence of questions, and what comes back;
* **`index_replies_eq_list`**: the replies of an index and of the list are the same;
  `repeated_column_first_value` shows why a column with a tolerance counts by its first value when
  it is listed more than once.
-/

namespace Reconcile.Table

variable {α : Type}

/-! ## 1. The plain list -/

/-- Candidates with their keys, in the order of addition. -/
abbrev KeyList (α : Type) := List (RowKey × α)

section List

variable (same : RowKey → RowKey → Bool)

/-- The first candidate with an equal key. -/
def firstOf (l : KeyList α) (key : RowKey) : Option α :=
  (l.find? fun e => same key e.1).map Prod.snd

/-- The list without the first candidate with an equal key. -/
def withoutFirst (l : KeyList α) (key : RowKey) : KeyList α := l.eraseP fun e => same key e.1

end List

/-- Tests that agree on the keys of a list find, and take, the same in it. -/
theorem firstOf_congr {same same' : RowKey → RowKey → Bool} {l : KeyList α} {key : RowKey}
    (h : ∀ e ∈ l, same key e.1 = same' key e.1) :
    firstOf same l key = firstOf same' l key ∧
      withoutFirst same l key = withoutFirst same' l key := by
  obtain ⟨hfind, herase⟩ := find?_eraseP_congr (l := l) (p := fun e => same key e.1)
    (q := fun e => same' key e.1) h
  exact ⟨by rw [firstOf, firstOf, hfind], by rw [withoutFirst, withoutFirst, herase]⟩

/-- The keys of entries with their candidates. -/
def keyed (entries : List (Entry α)) : KeyList α := entries.map fun e => (e.key, e.candidate)

/-- The index holds the list. -/
def Mirrors (x : KeyIndex α) (l : KeyList α) : Prop := ∃ entries, Holds x entries ∧ keyed entries = l

theorem mirrors_empty (columns : List String) (numeric : List (String × Decimal)) :
    Mirrors (KeyIndex.empty columns numeric : KeyIndex α) [] :=
  ⟨[], holds_empty columns numeric, rfl⟩

namespace Mirrors

variable {x : KeyIndex α} {l : KeyList α}

theorem add (h : Mirrors x l) (candidate : α) (key : RowKey) :
    Mirrors (x.add candidate key) (l ++ [(key, candidate)]) := by
  obtain ⟨entries, hx, rfl⟩ := h
  exact ⟨_, hx.add candidate key, by simp [keyed]⟩

theorem find?_eq (h : Mirrors x l) (key : RowKey) :
    x.find? key = firstOf x.rule.same l key := by
  obtain ⟨entries, hx, rfl⟩ := h
  rw [KeyIndex.find?, hx.locate?_eq, firstOf, keyed, List.find?_map, Option.map_map]
  rfl

/-- Taking a candidate takes the first one with an equal key. -/
theorem take?_eq (h : Mirrors x l) (key : RowKey) :
    (x.take? key = none ∧ firstOf x.rule.same l key = none) ∨
    ∃ c y, x.take? key = some (c, y) ∧ y.rule = x.rule ∧
      firstOf x.rule.same l key = some c ∧ Mirrors y (withoutFirst x.rule.same l key) := by
  obtain ⟨entries, hx, rfl⟩ := h
  have hfirst : firstOf x.rule.same (keyed entries) key =
      (entries.find? fun e => x.rule.same key e.key).map Entry.candidate := by
    rw [firstOf, keyed, List.find?_map, Option.map_map]
    rfl
  rw [hfirst]
  rcases hx.take?_eq key with ⟨htake, hfind⟩ | ⟨e, y, htake, hrule, hfind, hy⟩
  · exact .inl ⟨htake, by rw [hfind]; rfl⟩
  · refine .inr ⟨e.candidate, y, htake, hrule, by rw [hfind]; rfl, _, hy, ?_⟩
    rw [withoutFirst, keyed, keyed, List.eraseP_map]
    rfl

theorem leftovers_eq (h : Mirrors x l) : x.leftovers = l.map Prod.snd := by
  obtain ⟨entries, hx, rfl⟩ := h
  rw [hx.leftovers_eq, keyed, List.map_map]
  rfl

theorem size_eq (h : Mirrors x l) : x.size = l.length := by
  obtain ⟨entries, hx, rfl⟩ := h
  rw [hx.size, keyed, List.length_map]

end Mirrors

/-! ## 2. Questions and replies -/

/-- What an index can be asked. -/
inductive Query (α : Type) where
  | add (candidate : α) (key : RowKey)
  | find (key : RowKey)
  | take (key : RowKey)
  | leftovers
  | size
  deriving Repr

/-- The key that a question is about. -/
def Query.key? : Query α → Option RowKey
  | .add _ key | .find key | .take key => some key
  | .leftovers | .size => none

/-- What comes back. -/
inductive Reply (α : Type) where
  | done
  | candidate (found : Option α)
  | candidates (left : List α)
  | size (count : Nat)
  deriving DecidableEq, Repr

/-- The reply of an index, and the index after it. -/
def KeyIndex.reply (x : KeyIndex α) : Query α → Reply α × KeyIndex α
  | .add candidate key => (.done, x.add candidate key)
  | .find key => (.candidate (x.find? key), x)
  | .take key => match x.take? key with
    | some (candidate, y) => (.candidate (some candidate), y)
    | none => (.candidate none, x)
  | .leftovers => (.candidates x.leftovers, x)
  | .size => (.size x.size, x)

/-- The reply of a list of candidates, and the list after it. -/
def KeyList.reply (same : RowKey → RowKey → Bool) (l : KeyList α) : Query α → Reply α × KeyList α
  | .add candidate key => (.done, l ++ [(key, candidate)])
  | .find key => (.candidate (firstOf same l key), l)
  | .take key => (.candidate (firstOf same l key), withoutFirst same l key)
  | .leftovers => (.candidates (l.map Prod.snd), l)
  | .size => (.size l.length, l)

/-- The replies to a sequence of questions. -/
def replies {σ : Type} (reply : σ → Query α → Reply α × σ) : σ → List (Query α) → List (Reply α)
  | _, [] => []
  | s, q :: rest => (reply s q).1 :: replies reply (reply s q).2 rest

/-- A list from which nothing equal is removed stays as it is. -/
theorem withoutFirst_eq_self {same : RowKey → RowKey → Bool} {l : KeyList α} {key : RowKey}
    (h : firstOf same l key = none) : withoutFirst same l key = l := by
  exact eraseP_eq_self_of_find?_eq_none (Option.map_eq_none_iff.mp h)

/-- **One question**: the replies are the same, and the index holds the list that is left. -/
theorem Mirrors.reply {x : KeyIndex α} {l : KeyList α} (h : Mirrors x l) (q : Query α) :
    (x.reply q).1 = (KeyList.reply x.rule.same l q).1 ∧
      (x.reply q).2.rule = x.rule ∧
      Mirrors (x.reply q).2 (KeyList.reply x.rule.same l q).2 := by
  cases q with
  | add candidate key => exact ⟨rfl, rfl, h.add candidate key⟩
  | find key =>
    refine ⟨?_, rfl, h⟩
    show Reply.candidate _ = Reply.candidate _
    rw [h.find?_eq]
  | take key =>
    unfold KeyIndex.reply KeyList.reply
    rcases h.take?_eq key with ⟨htake, hfirst⟩ | ⟨c, y, htake, hrule, hfirst, hy⟩
    · simp only [htake, hfirst, withoutFirst_eq_self hfirst]
      exact ⟨trivial, trivial, h⟩
    · simp only [htake, hfirst]
      exact ⟨trivial, hrule, hy⟩
  | leftovers =>
    refine ⟨?_, rfl, h⟩
    show Reply.candidates _ = Reply.candidates _
    rw [h.leftovers_eq]
  | size =>
    refine ⟨?_, rfl, h⟩
    show Reply.size _ = Reply.size _
    rw [h.size_eq]

/-- **A sequence of questions**: an index replies as the list that it holds. -/
theorem Mirrors.replies_eq (queries : List (Query α)) : ∀ {x : KeyIndex α} {l : KeyList α},
    Mirrors x l → replies KeyIndex.reply x queries = replies (KeyList.reply x.rule.same) l queries := by
  induction queries with
  | nil => exact fun _ => rfl
  | cons q rest ih =>
    intro x l h
    obtain ⟨hreply, hrule, hnext⟩ := h.reply q
    rw [replies, replies, hreply, ih hnext, hrule]

/-! ## 3. Which keys are equal -/

section Congr

variable {same same' : RowKey → RowKey → Bool} {P : RowKey → Prop}
  (hsame : ∀ k l, P k → P l → same k l = same' k l)
include hsame

/-- Tests that agree on the keys at hand lead to the same reply, and the keys of the list that is
    left are at hand. -/
theorem KeyList.reply_congr {l : KeyList α} {q : Query α} (hl : ∀ e ∈ l, P e.1)
    (hq : ∀ k ∈ q.key?, P k) :
    KeyList.reply same l q = KeyList.reply same' l q ∧
      ∀ e ∈ (KeyList.reply same l q).2, P e.1 := by
  have htest : ∀ k, P k → firstOf same l k = firstOf same' l k ∧
      withoutFirst same l k = withoutFirst same' l k := fun k hk =>
    firstOf_congr fun e he => hsame k e.1 hk (hl e he)
  cases q with
  | add candidate key =>
    refine ⟨rfl, fun e he => ?_⟩
    rcases List.mem_append.mp he with he | he
    · exact hl e he
    · rw [List.mem_singleton.mp he]
      exact hq key rfl
  | find key =>
    refine ⟨?_, hl⟩
    rw [KeyList.reply, KeyList.reply, (htest key (hq key rfl)).1]
  | take key =>
    obtain ⟨hfirst, hwithout⟩ := htest key (hq key rfl)
    refine ⟨?_, fun e he => hl e (List.mem_of_mem_eraseP he)⟩
    rw [KeyList.reply, KeyList.reply, hfirst, hwithout]
  | leftovers => exact ⟨rfl, hl⟩
  | size => exact ⟨rfl, hl⟩

theorem KeyList.replies_congr : ∀ {queries : List (Query α)} {l : KeyList α},
    (∀ e ∈ l, P e.1) → (∀ q ∈ queries, ∀ k ∈ q.key?, P k) →
    replies (KeyList.reply same) l queries = replies (KeyList.reply same') l queries
  | [], _, _, _ => rfl
  | q :: rest, l, hl, hq => by
    obtain ⟨heq, hnext⟩ := KeyList.reply_congr hsame hl (hq q List.mem_cons_self)
    rw [replies, replies, KeyList.replies_congr hnext fun q' h => hq q' (List.mem_cons_of_mem _ h),
      heq]

end Congr

/-- **An index agrees with a plain list.** For every list of key columns, all precisions and every
    sequence of questions whose keys list the key columns, the index replies as the list does in
    which a key is looked for, and taken, where the first equal one stands. A column with a
    tolerance that is listed more than once counts by its first value; where every key gives each
    column one value, keys are equal when they are equal in every column they list. -/
theorem index_replies_eq_list (columns : List String) (numeric : List (String × Decimal))
    (queries : List (Query α)) (hkeys : ∀ q ∈ queries, ∀ k ∈ q.key?, k.columns = columns) :
    replies KeyIndex.reply (.empty columns numeric) queries =
        replies (KeyList.reply fun k l => sameKey numeric (k.settled numeric) (l.settled numeric))
          [] queries ∧
      ((∀ q ∈ queries, ∀ k ∈ q.key?, k.IsConsistent) →
        replies KeyIndex.reply (.empty columns numeric) queries =
          replies (KeyList.reply (sameKey numeric)) [] queries) := by
  have hmirror := (mirrors_empty (α := α) columns numeric).replies_eq queries
  refine ⟨hmirror.trans ?_, fun hone => hmirror.trans ?_⟩
  · exact KeyList.replies_congr (P := fun k => k.columns = columns)
      (fun k l hk hl => same_eq_sameKey hk hl numeric) (List.forall_mem_nil _) hkeys
  · exact KeyList.replies_congr (P := fun k => k.columns = columns ∧ k.IsConsistent)
      (fun k l hk hl => same_eq_sameKey_of_isConsistent hk.1 hl.1 hk.2 hl.2 numeric)
      (List.forall_mem_nil _) fun q hq k hk => ⟨hkeys q hq k hk, hone q hq k hk⟩

/-- Questions about prices with a tolerance of 0.5, where 10.0 and 10.8 differ but 10.4 equals
    both. -/
def priceQueries : List (Query String) :=
  let key (id : Option String) (price : String) : RowKey := ⟨[("Id", id), ("Price", some price)]⟩
  [.add "first" (key (some "A") "10.0"), .add "second" (key (some "A") "10.4"),
    .add "third" (key none "10.4"), .find (key (some "A") "10.8"), .take (key (some "A") "10.1"),
    .take (key (some "A") "10.1"), .take (key (some "A") "10.8"), .size, .leftovers]

theorem index_replies_eq_list_prices :
    (∀ q ∈ priceQueries, ∀ k ∈ q.key?, k.columns = ["Id", "Price"]) ∧
      (∀ q ∈ priceQueries, ∀ k ∈ q.key?, k.IsConsistent) ∧
      replies KeyIndex.reply (.empty ["Id", "Price"] [("Price", ⟨false, 5, -1⟩)]) priceQueries =
        replies (KeyList.reply (sameKey [("Price", ⟨false, 5, -1⟩)])) [] priceQueries := by
  have hkeys : ∀ q ∈ priceQueries, ∀ k ∈ q.key?, k.columns = ["Id", "Price"] := by decide
  have hone : ∀ q ∈ priceQueries, ∀ k ∈ q.key?, k.IsConsistent := fun q hq k hk =>
    RowKey.isConsistent_of_nodup (by rw [hkeys q hq k hk]; decide)
  exact ⟨hkeys, hone, (index_replies_eq_list _ _ _ hkeys).2 hone⟩

/-- Keys that list a column with a tolerance twice. -/
def repeatedColumnQueries : List (Query String) :=
  [.add "first" ⟨[("A", some "1"), ("A", some "5")]⟩,
    .find ⟨[("A", some "1"), ("A", some "100")]⟩]

/-- A column with a tolerance that is listed twice is compared by its first value only: the index
    finds a candidate whose second value is far off, and the plain list, comparing every listed
    value, finds none. -/
theorem repeated_column_first_value :
    (∀ q ∈ repeatedColumnQueries, ∀ k ∈ q.key?, k.columns = ["A", "A"]) ∧
      0 ≤ (⟨false, 1, 0⟩ : Decimal).toRat ∧
      replies KeyIndex.reply (.empty ["A", "A"] [("A", ⟨false, 1, 0⟩)]) repeatedColumnQueries =
        [.done, .candidate (some "first")] ∧
      replies (KeyList.reply (sameKey [("A", ⟨false, 1, 0⟩)])) [] repeatedColumnQueries =
        [.done, .candidate none] := by
  decide +kernel

end Reconcile.Table
