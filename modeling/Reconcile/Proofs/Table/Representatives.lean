import Reconcile.Proofs.Table.FirstRepeats

/-!
# The representatives of a tracker

A tracker of duplicates records a key when it equals none of the keys recorded before, and names the
first of these otherwise. Up to a precision equality is not transitive, so what a key is called
depends on which keys before it were recorded.

* `registerAll`: keys registered one after another; `registerAll_eq`: the same on a plain list, and
  `listReplies_getElem?`: each reply is found among the calls before it;
* `TracksRepresentatives`: what the replies say, call by call; from it
  `TracksRepresentatives.distinct`: no two representatives are equal,
  `TracksRepresentatives.flagged_iff`: some key is flagged when two keys are equal, and
  `TracksRepresentatives.names_first`: where equality is transitive, a flagged key has the name of
  the first equal one;
* **`register_keeps_representatives`**: the replies of a tracker, for all keys;
  `repeated_column_representative` shows why a column with a tolerance counts by its first value
  when it is listed more than once.
-/

namespace Reconcile.Table

/-! ## 1. Keys registered one after another -/

/-- A key that is registered, under a name. -/
abbrev Call := RowKey × String

/-- The replies of a tracker to keys that are registered one after another. -/
def DuplicateTracker.registerAll : DuplicateTracker → List Call → List (Option String)
  | _, [] => []
  | t, (key, name) :: rest => (t.register key name).1 :: registerAll (t.register key name).2 rest

/-- The replies of a plain list of the keys that were recorded. -/
def listReplies (same : RowKey → RowKey → Bool) : KeyList String → List Call → List (Option String)
  | _, [] => []
  | seen, (key, name) :: rest => match firstOf same seen key with
    | some first => some first :: listReplies same seen rest
    | none => none :: listReplies same (seen ++ [(key, name)]) rest

/-- **A tracker replies as the list of the keys that it recorded.** -/
theorem registerAll_eq : ∀ (calls : List Call) {t : DuplicateTracker} {seen : KeyList String},
    Mirrors t.seen seen → t.registerAll calls = listReplies t.seen.rule.same seen calls
  | [], _, _, _ => rfl
  | (key, name) :: rest, t, seen, h => by
    rw [DuplicateTracker.registerAll, listReplies, DuplicateTracker.register, h.find?_eq]
    cases hfirst : firstOf t.seen.rule.same seen key with
    | some first => exact congrArg _ (registerAll_eq rest h)
    | none => exact congrArg _ (registerAll_eq rest (h.add name key))

theorem listReplies_length (same : RowKey → RowKey → Bool) : ∀ (calls : List Call)
    (seen : KeyList String), (listReplies same seen calls).length = calls.length
  | [], _ => rfl
  | (key, name) :: rest, seen => by
    rw [listReplies]
    split
    · rw [List.length_cons, List.length_cons, listReplies_length same rest]
    · rw [List.length_cons, List.length_cons, listReplies_length same rest]

/-- The first call before a place that was replied nothing and whose key equals a given one. -/
def representative? (same : RowKey → RowKey → Bool) (calls : List Call)
    (replies : List (Option String)) (j : Nat) (key : RowKey) : Option Call :=
  (((calls.zip replies).take j).find? fun e => e.2.isNone && same key e.1.1).map Prod.fst

/-- A reply names a key that was recorded at the start, or the representative among the calls. -/
theorem listReplies_getElem? (same : RowKey → RowKey → Bool) : ∀ (calls : List Call)
    (seen : KeyList String) (j : Nat), (listReplies same seen calls)[j]? =
      calls[j]?.map fun c => (firstOf same seen c.1).or
        ((representative? same calls (listReplies same seen calls) j c.1).map Prod.snd)
  | [], _, _ => rfl
  | (key, name) :: rest, seen, 0 => by
    rw [List.getElem?_cons_zero, Option.map_some, representative?, List.take_zero, List.find?_nil,
      Option.map_none, Option.map_none, Option.or_none, listReplies]
    cases firstOf same seen key <;> rfl
  | (key, name) :: rest, seen, j + 1 => by
    rw [List.getElem?_cons_succ, listReplies]
    cases hfirst : firstOf same seen key with
    | some first =>
      dsimp only
      rw [List.getElem?_cons_succ, listReplies_getElem? same rest seen j]
      rfl
    | none =>
      dsimp only
      rw [List.getElem?_cons_succ, listReplies_getElem? same rest _ j]
      refine Option.map_congr fun c _ => ?_
      -- the recorded key comes behind those of the start and before the other calls
      rw [firstOf_append, Option.or_assoc, representative?, representative?, List.zip_cons_cons,
        List.take_succ_cons, List.find?_cons, Option.isNone_none, Bool.true_and]
      cases same c.1 key <;> rfl

/-! ## 2. What the replies say -/

section Replies

variable (equal : RowKey → RowKey → Bool) (calls : List Call) (replies : List (Option String))

/-- The key of a call was recorded. -/
def Recorded (i : Nat) (c : Call) : Prop := calls[i]? = some c ∧ replies[i]? = some none

/-- The call before a place that is the first one recorded with an equal key. -/
def IsRepresentative (j : Nat) (key : RowKey) (i : Nat) : Prop :=
  IsLeast {i | i < j ∧ ∃ c, Recorded calls replies i c ∧ equal key c.1 = true} i

/-- A call is replied nothing when its key equals no key that was recorded before, and otherwise the
    name of the first such key. -/
structure TracksRepresentatives : Prop where
  length : replies.length = calls.length
  new : ∀ (j : Nat) (key : RowKey) (name : String), calls[j]? = some (key, name) →
    (replies[j]? = some none ↔
      ∀ i < j, ∀ c, Recorded calls replies i c → equal key c.1 = false)
  repeated : ∀ (j : Nat) (key : RowKey) (name first : String), calls[j]? = some (key, name) →
    (replies[j]? = some (some first) ↔
      ∃ i earlier, IsRepresentative equal calls replies j key i ∧
        calls[i]? = some (earlier, first))

/-- Two of the calls have equal keys. -/
def TwoEqual : Prop :=
  ∃ (i j : Nat) (c d : Call), i < j ∧ calls[i]? = some c ∧ calls[j]? = some d ∧
    equal c.1 d.1 = true

/-- Representatives are told apart: a tracker replies the first one that a key equals, no two of them
    are equal, and some key is flagged exactly when two of all keys are equal. -/
structure KeepsRepresentatives : Prop extends TracksRepresentatives equal calls replies where
  distinct : ∀ (i j : Nat) (c d : Call), i ≠ j → Recorded calls replies i c →
    Recorded calls replies j d → equal c.1 d.1 = false
  flagged : (∃ first, some first ∈ replies) ↔ TwoEqual equal calls

/-- A call with a key that was registered before is replied the name of the first equal key, recorded
    or not. -/
def NamesFirst : Prop :=
  ∀ (j : Nat) (key : RowKey) (name first : String), calls[j]? = some (key, name) →
    (replies[j]? = some (some first) ↔
      ∃ i earlier, IsLeast {i | i < j ∧ ∃ c, calls[i]? = some c ∧ equal key c.1 = true} i ∧
        calls[i]? = some (earlier, first))

end Replies

/-- What is found first before a place stands at the least place. -/
theorem find?_take_eq_some_iff {α : Type} {p : α → Bool} {l : List α} {j : Nat} {b : α} :
    (l.take j).find? p = some b ↔
      ∃ i, IsLeast {i | i < j ∧ ∃ a, l[i]? = some a ∧ p a = true} i ∧ l[i]? = some b := by
  rw [List.find?_eq_some_iff_getElem]
  constructor
  · rintro ⟨hb, i, hi, hget, hbefore⟩
    rw [List.length_take, Nat.lt_min] at hi
    rw [List.getElem_take] at hget
    have hat : l[i]? = some b := List.getElem?_eq_some_iff.mpr ⟨hi.2, hget⟩
    refine ⟨i, ⟨⟨hi.1, b, hat, hb⟩, ?_⟩, hat⟩
    rintro k ⟨hkj, a, ha, hpa⟩
    by_contra hlt
    have hnot := hbefore k (Nat.lt_of_not_le hlt)
    rw [List.getElem_take, (List.getElem?_eq_some_iff.mp ha).2, hpa] at hnot
    cases hnot
  · rintro ⟨i, ⟨⟨hij, a, ha, hpa⟩, hleast⟩, hb⟩
    obtain rfl : a = b := Option.some.inj (ha.symm.trans hb)
    obtain ⟨hi, hget⟩ := List.getElem?_eq_some_iff.mp ha
    refine ⟨hpa, i, by rw [List.length_take, Nat.lt_min]; exact ⟨hij, hi⟩, ?_, fun k hki => ?_⟩
    · rw [List.getElem_take]
      exact hget
    · rw [List.getElem_take, Bool.not_eq_true', Bool.eq_false_iff]
      intro hp
      have hle := hleast ⟨hki.trans hij, _, List.getElem?_eq_getElem (hki.trans hi), hp⟩
      exact absurd hki (Nat.not_lt.mpr hle)

section Replies

variable {equal : RowKey → RowKey → Bool} {calls : List Call} {replies : List (Option String)}

/-- A call and its reply at a place. -/
theorem zip_getElem?_recorded (key : RowKey) (i : Nat) :
    (∃ e, (calls.zip replies)[i]? = some e ∧ (e.2.isNone && equal key e.1.1) = true) ↔
      ∃ c, Recorded calls replies i c ∧ equal key c.1 = true := by
  constructor
  · rintro ⟨⟨c, reply⟩, he, hp⟩
    obtain ⟨hc, hreply⟩ := List.getElem?_zip_eq_some.mp he
    obtain ⟨hnone, hequal⟩ := Bool.and_eq_true_iff.mp hp
    rw [Option.isNone_iff_eq_none] at hnone
    exact ⟨c, ⟨hc, hnone ▸ hreply⟩, hequal⟩
  · rintro ⟨c, ⟨hc, hreply⟩, hequal⟩
    exact ⟨(c, none), List.getElem?_zip_eq_some.mpr ⟨hc, hreply⟩, hequal⟩

/-- The representative of a key stands at the least place. -/
theorem representative?_eq_some_iff {j : Nat} {key : RowKey} {c : Call} :
    representative? equal calls replies j key = some c ↔
      ∃ i, IsRepresentative equal calls replies j key i ∧ calls[i]? = some c := by
  rw [representative?, Option.map_eq_some_iff]
  simp only [find?_take_eq_some_iff, zip_getElem?_recorded]
  constructor
  · rintro ⟨e, ⟨i, hi, he⟩, rfl⟩
    exact ⟨i, hi, (List.getElem?_zip_eq_some.mp he).1⟩
  · rintro ⟨i, hi, hc⟩
    obtain ⟨⟨_, d, ⟨hd, hreply⟩, _⟩, _⟩ := id hi
    obtain rfl : d = c := Option.some.inj (hd.symm.trans hc)
    exact ⟨(d, none), ⟨i, hi, List.getElem?_zip_eq_some.mpr ⟨hc, hreply⟩⟩, rfl⟩

theorem representative?_eq_none_iff {j : Nat} {key : RowKey} :
    representative? equal calls replies j key = none ↔
      ∀ i < j, ∀ c, Recorded calls replies i c → equal key c.1 = false := by
  rw [representative?, Option.map_eq_none_iff, List.find?_eq_none]
  constructor
  · intro h i hi c hc
    refine Bool.eq_false_iff.mpr fun hequal => ?_
    obtain ⟨e, he, hp⟩ := (zip_getElem?_recorded key i).mpr ⟨c, hc, hequal⟩
    refine h e (List.mem_of_getElem? (i := i) ?_) hp
    rw [List.getElem?_take_of_lt hi, he]
  · intro h e he hp
    obtain ⟨i, hi, hget⟩ := List.mem_take_iff_getElem.mp he
    obtain ⟨c, hc, hequal⟩ := (zip_getElem?_recorded key i).mp
      ⟨e, List.getElem?_eq_some_iff.mpr ⟨_, hget⟩, hp⟩
    rw [h i (Nat.lt_min.mp hi).1 c hc] at hequal
    cases hequal

/-- **The replies of a list that starts empty** tell the representatives. -/
theorem listReplies_tracks (equal : RowKey → RowKey → Bool) (calls : List Call) :
    TracksRepresentatives equal calls (listReplies equal [] calls) := by
  have hreply : ∀ (j : Nat) (c : Call), calls[j]? = some c → (listReplies equal [] calls)[j]? =
      some ((representative? equal calls (listReplies equal [] calls) j c.1).map Prod.snd) := by
    intro j c hc
    rw [listReplies_getElem?, hc]
    rfl
  refine ⟨listReplies_length _ _ _, fun j key name hcall => ?_, fun j key name first hcall => ?_⟩
  · rw [hreply j _ hcall, Option.some_inj, Option.map_eq_none_iff, representative?_eq_none_iff]
  · rw [hreply j _ hcall, Option.some_inj, Option.map_eq_some_iff]
    simp only [representative?_eq_some_iff]
    constructor
    · rintro ⟨⟨c, _⟩, ⟨i, hi, hc⟩, rfl⟩
      exact ⟨i, c, hi, hc⟩
    · rintro ⟨i, c, hi, hc⟩
      exact ⟨(c, first), ⟨i, hi, hc⟩, rfl⟩

namespace TracksRepresentatives

variable (h : TracksRepresentatives equal calls replies)
include h

/-- A call that is not recorded repeats one that is. -/
theorem exists_recorded {j : Nat} {c : Call} (hc : calls[j]? = some c)
    (hreply : replies[j]? ≠ some none) :
    ∃ i < j, ∃ d, Recorded calls replies i d ∧ equal c.1 d.1 = true := by
  by_contra hnone
  refine hreply ((h.new j c.1 c.2 hc).mpr fun i hi d hd => Bool.eq_false_iff.mpr fun hequal => ?_)
  exact hnone ⟨i, hi, d, hd, hequal⟩

/-- **No two representatives are equal.** -/
theorem distinct (hsymm : ∀ k l, equal k l = equal l k) {i j : Nat} {c d : Call} (hne : i ≠ j)
    (hc : Recorded calls replies i c) (hd : Recorded calls replies j d) :
    equal c.1 d.1 = false := by
  rcases Nat.lt_or_gt_of_ne hne with hij | hji
  · rw [hsymm]
    exact (h.new j d.1 d.2 hd.1).mp hd.2 i hij c hc
  · exact (h.new i c.1 c.2 hc.1).mp hc.2 j hji d hd

/-- **Some key is flagged exactly when two keys are equal**: of two equal keys the first one is
    flagged, or else it is recorded when the second one comes. -/
theorem flagged_iff (hsymm : ∀ k l, equal k l = equal l k) :
    (∃ first, some first ∈ replies) ↔ TwoEqual equal calls := by
  constructor
  · rintro ⟨first, hmem⟩
    obtain ⟨j, hj⟩ := List.mem_iff_getElem?.mp hmem
    have hlt : j < calls.length := h.length ▸ (List.getElem?_eq_some_iff.mp hj).1
    have hcall : calls[j]? = some calls[j] := List.getElem?_eq_getElem hlt
    obtain ⟨i, hij, c, hc, hequal⟩ := h.exists_recorded hcall (by rw [hj]; exact nofun)
    exact ⟨i, j, c, _, hij, hc.1, hcall, by rwa [hsymm]⟩
  · rintro ⟨i, j, c, d, hij, hc, hd, hequal⟩
    by_contra hnone
    have hall : ∀ (i : Nat) (c : Call), calls[i]? = some c → replies[i]? = some none := by
      intro i c hc
      have hlt : i < replies.length := h.length ▸ (List.getElem?_eq_some_iff.mp hc).1
      rw [List.getElem?_eq_getElem hlt]
      cases hreply : replies[i] with
      | none => rfl
      | some first => exact absurd ⟨first, hreply ▸ List.getElem_mem hlt⟩ hnone
    have hnew := (h.new j d.1 d.2 hd).mp (hall j d hd) i hij c ⟨hc, hall i c hc⟩
    rw [hsymm, hnew] at hequal
    cases hequal

/-- **Where equality is transitive**, the first equal key is recorded, so it is the representative. -/
theorem names_first (htrans : ∀ c ∈ calls, ∀ d ∈ calls, ∀ e ∈ calls, equal c.1 d.1 = true →
    equal d.1 e.1 = true → equal c.1 e.1 = true) : NamesFirst equal calls replies := by
  intro j key name first hcall
  rw [h.repeated j key name first hcall]
  have hleast : ∀ i, IsRepresentative equal calls replies j key i ↔
      IsLeast {i | i < j ∧ ∃ c, calls[i]? = some c ∧ equal key c.1 = true} i := by
    -- among the calls with an equal key, recorded or not, one that is recorded comes no later
    have hearlier : ∀ i < j, ∀ c, calls[i]? = some c → equal key c.1 = true →
        ∃ i' ≤ i, ∃ d, Recorded calls replies i' d ∧ equal key d.1 = true := by
      intro i _ c hc hequal
      by_cases hreply : replies[i]? = some none
      · exact ⟨i, Nat.le_refl i, c, ⟨hc, hreply⟩, hequal⟩
      · obtain ⟨i', hi', d, hd, hcd⟩ := h.exists_recorded hc hreply
        exact ⟨i', Nat.le_of_lt hi', d, hd, htrans _ (List.mem_of_getElem? hcall) _
          (List.mem_of_getElem? hc) _ (List.mem_of_getElem? hd.1) hequal hcd⟩
    intro i
    constructor
    · rintro ⟨⟨hij, c, hc, hequal⟩, hmin⟩
      refine ⟨⟨hij, c, hc.1, hequal⟩, ?_⟩
      rintro k ⟨hkj, d, hd, hkd⟩
      obtain ⟨k', hk', d', hd', hkd'⟩ := hearlier k hkj d hd hkd
      exact (hmin ⟨Nat.lt_of_le_of_lt hk' hkj, d', hd', hkd'⟩).trans hk'
    · rintro ⟨⟨hij, c, hc, hequal⟩, hmin⟩
      obtain ⟨i', hi', d, hd, hkd⟩ := hearlier i hij c hc hequal
      have hi : i ≤ i' := hmin ⟨Nat.lt_of_le_of_lt hi' hij, d, hd.1, hkd⟩
      obtain rfl : i = i' := Nat.le_antisymm hi hi'
      refine ⟨⟨hij, d, hd, hkd⟩, ?_⟩
      rintro k ⟨hkj, a, ha, hka⟩
      exact hmin ⟨hkj, a, ha.1, hka⟩
  simp only [hleast]

/-- Where equality is symmetric, what tells the representatives keeps them apart. -/
theorem keeps (hsymm : ∀ k l, equal k l = equal l k) : KeepsRepresentatives equal calls replies :=
  { h with
    distinct := fun _ _ _ _ => h.distinct hsymm
    flagged := h.flagged_iff hsymm }

end TracksRepresentatives

end Replies

/-! ## 3. Trackers -/

/-- Tests that agree on the keys at hand lead to the same replies. -/
theorem listReplies_congr {same same' : RowKey → RowKey → Bool} {P : RowKey → Prop}
    (hsame : ∀ k l, P k → P l → same k l = same' k l) : ∀ {calls : List Call} {seen : KeyList String},
    (∀ c ∈ calls, P c.1) → (∀ e ∈ seen, P e.1) →
      listReplies same seen calls = listReplies same' seen calls
  | [], _, _, _ => rfl
  | (key, name) :: rest, seen, hcalls, hseen => by
    obtain ⟨hkey, hrest⟩ := List.forall_mem_cons.mp hcalls
    have hfirst : firstOf same seen key = firstOf same' seen key :=
      (firstOf_congr fun e he => hsame key e.1 hkey (hseen e he)).1
    rw [listReplies, listReplies, hfirst]
    split
    · rw [listReplies_congr hsame hrest hseen]
    · refine congrArg _ (listReplies_congr hsame hrest fun e he => ?_)
      rcases List.mem_append.mp he with he | he
      · exact hseen e he
      · rw [List.mem_singleton.mp he]
        exact hkey

section Trackers

variable (columns : List String) (numeric : List (String × Decimal))

/-- A tracker replies as a list does whose test agrees with its own on the keys at hand. -/
theorem registerAll_empty {equal : RowKey → RowKey → Bool} {P : RowKey → Prop} {calls : List Call}
    (hequal : ∀ k l, P k → P l → (KeyRule.ofColumns columns numeric).same k l = equal k l)
    (hcalls : ∀ c ∈ calls, P c.1) :
    (DuplicateTracker.empty columns numeric).registerAll calls = listReplies equal [] calls :=
  (registerAll_eq calls (mirrors_empty columns numeric)).trans
    (listReplies_congr hequal hcalls (List.forall_mem_nil _))

variable {columns} {numeric}

/-- Where no key column has a tolerance, a key is equal to an index as it stands. -/
theorem settled_of_exact (hexact : ∀ c ∈ columns, isTolerantIn numeric c = false) {k : RowKey}
    (hk : k.columns = columns) : k.settled numeric = k := by
  unfold RowKey.settled
  congr 1
  refine (List.map_congr_left fun q hq => ?_).trans (List.map_id _)
  have hcolumn : q.1 ∈ columns := hk ▸ List.mem_map_of_mem hq
  rw [hexact q.1 hcolumn]
  rfl

/-- Where no key column has a tolerance, equality of keys is equality of their parts. -/
theorem sameKey_of_exact (hexact : ∀ c ∈ columns, isTolerantIn numeric c = false) {k l : RowKey}
    (hk : k.columns = columns) (hl : l.columns = columns) :
    sameKey numeric k l = sameParts ((KeyRule.ofColumns columns numeric).parts k)
      ((KeyRule.ofColumns columns numeric).parts l) := by
  have hagree : (KeyRule.ofColumns columns numeric).agree k l = true :=
    agree_iff.mpr fun c hc htolerant => by
      rw [hexact c hc] at htolerant
      cases htolerant
  have hsame := same_eq_sameKey hk hl numeric
  rw [settled_of_exact hexact hk, settled_of_exact hexact hl] at hsame
  rw [← hsame, KeyRule.same, hagree, Bool.and_true]

end Trackers

/-- **A tracker keeps one representative of each group.** For all key columns and precisions, and any
    keys that list the key columns: a key is replied nothing exactly when it equals none of the keys
    that were replied nothing before, and the name of the first of these otherwise; no two of these
    are equal, and some key is replied a name exactly when two keys are equal. A column with a
    tolerance that is listed more than once counts by its first value; where every key gives each
    column one value, keys are equal when they are equal in every column they list. Where no key
    column has a tolerance, a key is replied the name of the first key that it equals. -/
theorem register_keeps_representatives (columns : List String) (numeric : List (String × Decimal))
    (calls : List Call) (hkeys : ∀ c ∈ calls, c.1.columns = columns) :
    KeepsRepresentatives (fun k l => sameKey numeric (k.settled numeric) (l.settled numeric)) calls
        ((DuplicateTracker.empty columns numeric).registerAll calls) ∧
      ((∀ c ∈ calls, c.1.IsConsistent) → KeepsRepresentatives (sameKey numeric) calls
        ((DuplicateTracker.empty columns numeric).registerAll calls)) ∧
      ((∀ c ∈ columns, isTolerantIn numeric c = false) → NamesFirst (sameKey numeric) calls
        ((DuplicateTracker.empty columns numeric).registerAll calls)) := by
  refine ⟨?_, fun hone => ?_, fun hexact => ?_⟩
  · rw [registerAll_empty columns numeric (P := fun k => k.columns = columns)
      (fun k l hk hl => same_eq_sameKey hk hl numeric) hkeys]
    exact (listReplies_tracks _ calls).keeps fun k l => sameKey_comm numeric _ _
  · rw [registerAll_empty columns numeric (P := fun k => k.columns = columns ∧ k.IsConsistent)
      (fun k l hk hl => same_eq_sameKey_of_isConsistent hk.1 hl.1 hk.2 hl.2 numeric)
      fun c hc => ⟨hkeys c hc, hone c hc⟩]
    exact (listReplies_tracks _ calls).keeps (sameKey_comm numeric)
  · have hequal : ∀ k l : RowKey, k.columns = columns → l.columns = columns →
        (KeyRule.ofColumns columns numeric).same k l = sameKey numeric k l := by
      intro k l hk hl
      rw [same_eq_sameKey hk hl, settled_of_exact hexact hk, settled_of_exact hexact hl]
    rw [registerAll_empty columns numeric (P := fun k => k.columns = columns) hequal hkeys]
    refine (listReplies_tracks _ calls).names_first fun c hc d hd e he hcd hde => ?_
    rw [sameKey_of_exact hexact (hkeys c hc) (hkeys d hd)] at hcd
    rw [sameKey_of_exact hexact (hkeys d hd) (hkeys e he)] at hde
    rw [sameKey_of_exact hexact (hkeys c hc) (hkeys e he), sameParts_congr hcd]
    exact hde

/-- Prices with a tolerance of 0.5: the second one equals the first, and the third one the second
    only, which was not recorded. -/
def priceCalls : List Call :=
  let key (price : String) : RowKey := ⟨[("Price", some price)]⟩
  [(key "10.0", "Row #1"), (key "10.4", "Row #2"), (key "10.8", "Row #3"), (key "10.4", "Row #4")]

theorem register_keeps_representatives_prices :
    let numeric : List (String × Decimal) := [("Price", ⟨false, 5, -1⟩)]
    let replies := (DuplicateTracker.empty ["Price"] numeric).registerAll priceCalls
    (∀ c ∈ priceCalls, c.1.columns = ["Price"]) ∧ (∀ c ∈ priceCalls, c.1.IsConsistent) ∧
      replies = [none, some "Row #1", none, some "Row #1"] ∧
      KeepsRepresentatives (sameKey numeric) priceCalls replies ∧
      (∀ c ∈ ["Price"], isTolerantIn [("Price", Decimal.zero)] c = false) ∧
      NamesFirst (sameKey [("Price", Decimal.zero)]) priceCalls
        ((DuplicateTracker.empty ["Price"] [("Price", Decimal.zero)]).registerAll priceCalls) := by
  intro numeric replies
  have hkeys : ∀ c ∈ priceCalls, c.1.columns = ["Price"] := by decide
  have hone : ∀ c ∈ priceCalls, c.1.IsConsistent := fun c hc =>
    RowKey.isConsistent_of_nodup (by rw [hkeys c hc]; decide)
  have hexact : ∀ c ∈ ["Price"], isTolerantIn [("Price", Decimal.zero)] c = false := by decide
  exact ⟨hkeys, hone, by decide +kernel, (register_keeps_representatives _ _ _ hkeys).2.1 hone, hexact,
    (register_keeps_representatives _ _ _ hkeys).2.2 hexact⟩

/-- Two keys that list a column with a tolerance twice. -/
def repeatedColumnCalls : List Call :=
  [(⟨[("A", some "1"), ("A", some "5")]⟩, "first"),
    (⟨[("A", some "1"), ("A", some "100")]⟩, "second")]

/-- A column with a tolerance that is listed twice is compared by its first value only: the second key
    is flagged although the keys differ in their second values, so the replies are not those of keys
    that are compared in every value they list. -/
theorem repeated_column_representative :
    let numeric : List (String × Decimal) := [("A", ⟨false, 1, 0⟩)]
    let replies := (DuplicateTracker.empty ["A", "A"] numeric).registerAll repeatedColumnCalls
    (∀ c ∈ repeatedColumnCalls, c.1.columns = ["A", "A"]) ∧ 0 ≤ (⟨false, 1, 0⟩ : Decimal).toRat ∧
      replies = [none, some "first"] ∧
      ¬ KeepsRepresentatives (sameKey numeric) repeatedColumnCalls replies := by
  intro numeric replies
  have hreplies : replies = [none, some "first"] := by decide +kernel
  refine ⟨by decide, by decide +kernel, hreplies, fun h => ?_⟩
  obtain ⟨i, _, ⟨⟨hi, c, hc, hequal⟩, _⟩, _⟩ := (h.repeated 1 _ "second" "first" rfl).mp
    (by rw [hreplies]; rfl)
  obtain rfl : i = 0 := Nat.lt_one_iff.mp hi
  obtain rfl := Option.some.inj hc.1
  revert hequal
  decide +kernel

end Reconcile.Table
