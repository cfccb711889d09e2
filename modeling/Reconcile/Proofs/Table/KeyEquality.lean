import Reconcile.Document.Entries
import Reconcile.Proofs.Decimal.Value
import Reconcile.Table.KeyIndex

/-!
# Equality of keys

Two keys are equal when they are equal in every key column: numbers up to the precision of a
numeric column, everything else as texts. An index decides this in two halves, by the parts that a
bucket is found by and by the columns that are compared inside of it. This module ties the halves
to the whole:

* `sameCell`, `sameKey`: equality of values and of keys, said without buckets;
* `sameParts_iff`: having equal parts is having equal values, so it is an equivalence;
* **`same_eq_sameKey`**: the two halves together decide the whole, for keys that list the key
  columns. A column with a tolerance that is listed more than once counts by its first value
  (`settled`), which is its only one in a key that was read from a row (`ofRow_isConsistent`).
-/

namespace Reconcile.Table

/-! ## 1. Equal values and equal keys -/

/-- Whether two values of a key column are equal, given its precision when it is numeric. -/
def sameCell (precision : Option Decimal) (left right : Option String) : Bool :=
  match precision, Decimal.readCell? left, Decimal.readCell? right with
  | some p, some a, some b => decide (|a.toRat - b.toRat| ≤ p.toRat)
  | _, _, _ => left == right

/-- Whether two keys list the same columns and are equal in every one of them. -/
def sameKey (numeric : List (String × Decimal)) (k l : RowKey) : Bool :=
  k.pairs.isEqv l.pairs fun a b => a.1 == b.1 && sameCell (numeric.lookup a.1) a.2 b.2

theorem sameCell_comm (precision : Option Decimal) (left right : Option String) :
    sameCell precision left right = sameCell precision right left := by
  unfold sameCell
  cases precision with
  | none => exact Bool.beq_comm
  | some p =>
    cases Decimal.readCell? left with
    | none => cases Decimal.readCell? right <;> exact Bool.beq_comm
    | some a =>
      cases Decimal.readCell? right with
      | none => exact Bool.beq_comm
      | some b => simp only [abs_sub_comm]

theorem isEqv_comm {α : Type} {r q : α → α → Bool} (h : ∀ a b, r a b = q b a) :
    ∀ as bs : List α, as.isEqv bs r = bs.isEqv as q
  | [], [] => rfl
  | [], _ :: _ => rfl
  | _ :: _, [] => rfl
  | a :: as, b :: bs => by rw [List.isEqv_cons_cons, List.isEqv_cons_cons, h, isEqv_comm h as bs]

theorem sameKey_comm (numeric : List (String × Decimal)) (k l : RowKey) :
    sameKey numeric k l = sameKey numeric l k := by
  refine isEqv_comm (fun a b => ?_) k.pairs l.pairs
  by_cases h : a.1 = b.1
  · rw [h, sameCell_comm]
  · rw [beq_eq_false_iff_ne.mpr h, beq_eq_false_iff_ne.mpr (Ne.symm h), Bool.false_and,
      Bool.false_and]

/-- A value equals itself, as a number up to any precision that is not negative. -/
theorem sameCell_self {precision : Option Decimal} (h : ∀ p, precision = some p → 0 ≤ p.toRat)
    (value : Option String) : sameCell precision value value = true := by
  unfold sameCell
  cases precision with
  | none => exact beq_self_eq_true value
  | some p =>
    cases Decimal.readCell? value with
    | none => exact beq_self_eq_true value
    | some d => exact decide_eq_true (by rw [sub_self, abs_zero]; exact h p rfl)

theorem isEqv_self {α : Type} {r : α → α → Bool} (h : ∀ a, r a a = true) :
    ∀ as : List α, as.isEqv as r = true
  | [] => rfl
  | a :: as => by rw [List.isEqv_cons_cons, h, isEqv_self h as, Bool.and_true]

/-- A key equals itself when no precision is negative. -/
theorem sameKey_self {numeric : List (String × Decimal)}
    (h : ∀ c p, numeric.lookup c = some p → 0 ≤ p.toRat) (k : RowKey) :
    sameKey numeric k k = true :=
  isEqv_self (fun a => by rw [beq_self_eq_true, sameCell_self (h a.1), Bool.and_true]) k.pairs

/-- A column without a precision has equal values only in equal texts. -/
theorem sameCell_none (left right : Option String) :
    sameCell none left right = (left == right) := rfl

/-! ## 2. Parts -/

/-- What a part stands for: the number, or the text. -/
def KeyPart.value : KeyPart → ℚ ⊕ Option String
  | .number d => .inl d.toRat
  | .text cell => .inr cell

theorem KeyPart.same_iff {a b : KeyPart} : a.same b = true ↔ a.value = b.value := by
  cases a <;> cases b <;> simp [KeyPart.same, KeyPart.value, Decimal.same_iff]

/-- **Lists of parts are equal when they stand for the same.** -/
theorem sameParts_iff : ∀ {as bs : List KeyPart},
    sameParts as bs = true ↔ as.map KeyPart.value = bs.map KeyPart.value
  | [], [] => by simp [sameParts]
  | [], _ :: _ => by simp [sameParts]
  | _ :: _, [] => by simp [sameParts]
  | a :: as, b :: bs => by
    simp [sameParts, KeyPart.same_iff, @sameParts_iff as bs]

theorem sameParts_refl (as : List KeyPart) : sameParts as as = true := sameParts_iff.mpr rfl

theorem sameParts_comm (as bs : List KeyPart) : sameParts as bs = sameParts bs as := by
  rw [Bool.eq_iff_iff, sameParts_iff, sameParts_iff, eq_comm]

/-- Equal lists of parts are equal to the same lists. -/
theorem sameParts_congr {as bs : List KeyPart} (h : sameParts as bs = true) (cs : List KeyPart) :
    sameParts as cs = sameParts bs cs := by
  rw [Bool.eq_iff_iff, sameParts_iff, sameParts_iff, sameParts_iff.mp h]

/-- The numeric parts of two values are equal when the values are equal to a precision of zero. -/
theorem numericPart_same {p : Decimal} (hp : p.isZero = true) (left right : Option String) :
    (numericPart left).same (numericPart right) = sameCell (some p) left right := by
  have hzero : p.toRat = 0 := (Decimal.toRat_eq_zero_iff p).mpr hp
  unfold numericPart sameCell
  cases hl : Decimal.readCell? left with
  | none =>
    cases hr : Decimal.readCell? right with
    | none => rfl
    | some b =>
      have hne : left ≠ right := fun e => by rw [e, hr] at hl; cases hl
      simp [KeyPart.same, hne]
  | some a =>
    cases hr : Decimal.readCell? right with
    | none =>
      have hne : left ≠ right := fun e => by rw [e, hr] at hl; cases hl
      simp [KeyPart.same, hne]
    | some b =>
      rw [Bool.eq_iff_iff]
      simp [KeyPart.same, Decimal.same_iff, hzero, sub_eq_zero]

/-! ## 3. Columns with a tolerance -/

theorem agreeCells_eq (left right : Option String) (p : Decimal) :
    KeyRule.agreeCells left right p = sameCell (some p) left right := by
  unfold KeyRule.agreeCells sameCell
  cases Decimal.readCell? left with
  | none => rfl
  | some a =>
    cases Decimal.readCell? right with
    | none => rfl
    | some b => rw [Bool.eq_iff_iff]; simp [Decimal.within_iff]

/-- Looking a column up among those that were kept. -/
theorem lookup_filterMap (numeric : List (String × Decimal)) (c : String) (columns : List String) :
    (columns.filterMap fun c => (numeric.lookup c).map fun p => (c, p)).lookup c =
      if c ∈ columns then numeric.lookup c else none := by
  induction columns with
  | nil => rfl
  | cons d rest ih =>
    by_cases hcd : c = d
    · subst hcd
      cases h : numeric.lookup c with
      | none => simp [h, ih]
      | some p => simp [h]
    · have hbeq : (c == d) = false := by simpa using hcd
      cases h : numeric.lookup d with
      | none => simp [h, ih, hcd]
      | some p => simp [h, ih, hcd, List.lookup_cons, hbeq]

theorem ofColumns_lookup {columns : List String} {c : String} (h : c ∈ columns)
    (numeric : List (String × Decimal)) :
    (KeyRule.ofColumns columns numeric).numeric.lookup c = numeric.lookup c := by
  rw [KeyRule.ofColumns, lookup_filterMap, if_pos (List.mem_eraseDups.mpr h)]

/-- Whether a column has a precision other than zero. -/
def isTolerantIn (numeric : List (String × Decimal)) (column : String) : Bool :=
  (numeric.lookup column).any fun p => !p.isZero

theorem ofColumns_isTolerant {columns : List String} {c : String} (h : c ∈ columns)
    (numeric : List (String × Decimal)) :
    (KeyRule.ofColumns columns numeric).isTolerant c = isTolerantIn numeric c := by
  rw [KeyRule.isTolerant, ofColumns_lookup h, isTolerantIn]

theorem mem_tolerantColumns {columns : List String} {numeric : List (String × Decimal)}
    {c : String} {p : Decimal} :
    (c, p) ∈ (KeyRule.ofColumns columns numeric).tolerantColumns ↔
      c ∈ columns ∧ numeric.lookup c = some p ∧ p.isZero = false := by
  unfold KeyRule.tolerantColumns KeyRule.ofColumns
  simp only [List.mem_filter, List.mem_filterMap, List.mem_eraseDups, Option.map_eq_some_iff,
    Prod.mk.injEq, Bool.not_eq_true']
  constructor
  · rintro ⟨⟨d, hd, q, hq, rfl, rfl⟩, hz⟩
    exact ⟨hd, hq, hz⟩
  · rintro ⟨hc, hp, hz⟩
    exact ⟨⟨c, hc, p, hp, rfl, rfl⟩, hz⟩

/-! ## 4. The two halves -/

/-- Whether two keys are equal to an index: they share a bucket and agree inside of it. -/
def KeyRule.same (r : KeyRule) (k l : RowKey) : Bool :=
  sameParts (r.parts k) (r.parts l) && r.agree k l

namespace RowKey

/-- The columns that a key lists. -/
def columns (k : RowKey) : List String := k.pairs.map Prod.fst

/-- The key with the first value of a column wherever a column with a tolerance is listed. -/
def settled (numeric : List (String × Decimal)) (k : RowKey) : RowKey :=
  ⟨k.pairs.map fun q => (q.1, if isTolerantIn numeric q.1 then k.value q.1 else q.2)⟩

/-- A key that gives every column it lists one value. -/
def IsConsistent (k : RowKey) : Prop := ∀ q ∈ k.pairs, k.value q.1 = q.2

theorem settled_eq_self {k : RowKey} (h : k.IsConsistent) (numeric : List (String × Decimal)) :
    k.settled numeric = k := by
  unfold settled
  congr 1
  refine (List.map_congr_left fun q hq => ?_).trans (List.map_id _)
  rw [h q hq, ite_self]
  rfl

/-- A key of distinct columns is consistent. -/
theorem isConsistent_of_nodup {k : RowKey} (h : k.columns.Nodup) : k.IsConsistent := by
  intro q hq
  rw [value, Entries.lookup_of_nodup h hq]
  rfl

theorem lookup_map_self {β : Type} (f : String → β) {c : String} {columns : List String}
    (h : c ∈ columns) : (columns.map fun c => (c, f c)).lookup c = some (f c) := by
  induction columns with
  | nil => cases h
  | cons d rest ih =>
    by_cases hcd : c = d
    · simp [hcd]
    · have hbeq : (c == d) = false := by simpa using hcd
      rw [List.map_cons, List.lookup_cons, hbeq]
      exact ih ((List.mem_cons.mp h).resolve_left hcd)

@[simp] theorem ofRow_columns (row : Row) (columns : List String)
    (mapping : List (String × String)) : (ofRow row columns mapping).columns = columns := by
  simp [RowKey.columns, ofRow, Function.comp_def]

/-- A key that was read from a row is consistent, also when it lists a column twice. -/
theorem ofRow_isConsistent (row : Row) (columns : List String)
    (mapping : List (String × String)) : (ofRow row columns mapping).IsConsistent := by
  intro q hq
  obtain ⟨c, hc, rfl⟩ := List.mem_map.mp hq
  rw [value, ofRow, lookup_map_self _ hc]
  rfl

end RowKey

/-- The part of a listed value, unless its column has a tolerance. -/
def partOf? (r : KeyRule) (q : String × Option String) : Option KeyPart :=
  if r.isTolerant q.1 then none
  else if (r.numeric.lookup q.1).isSome then some (numericPart q.2) else some (.text q.2)

theorem parts_eq (r : KeyRule) (k : RowKey) : r.parts k = k.pairs.filterMap (partOf? r) := rfl

theorem fst_eq_of_mem_zip {t : (String × Option String) × (String × Option String)} :
    ∀ {as bs : List (String × Option String)}, as.map Prod.fst = bs.map Prod.fst →
      t ∈ as.zip bs → t.1.1 = t.2.1
  | [], [], _, ht => by cases ht
  | a :: as, b :: bs, h, ht => by
    obtain ⟨hab, hrest⟩ := List.cons.inj h
    rcases List.mem_cons.mp ht with rfl | ht
    · exact hab
    · exact fst_eq_of_mem_zip hrest ht

theorem exists_mem_zip {c : String} :
    ∀ {as bs : List (String × Option String)}, as.map Prod.fst = bs.map Prod.fst →
      c ∈ as.map Prod.fst → ∃ t ∈ as.zip bs, t.1.1 = c
  | [], _, _, hc => by cases hc
  | a :: as, b :: bs, h, hc => by
    obtain ⟨_, hrest⟩ := List.cons.inj h
    rcases List.mem_cons.mp hc with rfl | hc
    · exact ⟨(a, b), List.mem_cons_self, rfl⟩
    · obtain ⟨t, ht, he⟩ := exists_mem_zip hrest hc
      exact ⟨t, List.mem_cons_of_mem _ ht, he⟩

/-- Whether a listed value has a part is up to its column. -/
theorem partOf?_isSome (r : KeyRule) (q : String × Option String) :
    (partOf? r q).isSome = !r.isTolerant q.1 := by
  unfold partOf?
  cases r.isTolerant q.1 with
  | true => rfl
  | false => cases (r.numeric.lookup q.1).isSome <;> rfl

/-- Two keys over the same columns have equal parts when the parts of each column are equal. -/
theorem sameParts_filterMap (r : KeyRule) : ∀ {as bs : List (String × Option String)},
    as.map Prod.fst = bs.map Prod.fst →
    (sameParts (as.filterMap (partOf? r)) (bs.filterMap (partOf? r)) = true ↔
      ∀ t ∈ as.zip bs, ∀ x ∈ partOf? r t.1, ∀ y ∈ partOf? r t.2, x.same y = true)
  | [], [], _ => by simp [sameParts]
  | a :: as, b :: bs, h => by
    obtain ⟨hab, hrest⟩ := List.cons.inj h
    have ih := sameParts_filterMap r hrest
    have hsome : (partOf? r a).isSome = (partOf? r b).isSome := by
      rw [partOf?_isSome, partOf?_isSome, hab]
    cases ha : partOf? r a with
    | none =>
      rw [ha] at hsome
      have hb : partOf? r b = none := Option.isSome_eq_false_iff.mp hsome.symm |> Option.isNone_iff_eq_none.mp
      simp [ha, hb, ih]
    | some x =>
      rw [ha] at hsome
      obtain ⟨y, hb⟩ := Option.isSome_iff_exists.mp hsome.symm
      simp [ha, hb, sameParts, ih]

/-- Keys over the same columns are equal when the values of each column are. -/
theorem isEqv_map_iff (numeric : List (String × Decimal))
    {f g : String × Option String → Option String} :
    ∀ {as bs : List (String × Option String)}, as.map Prod.fst = bs.map Prod.fst →
    ((as.map fun q => (q.1, f q)).isEqv (bs.map fun q => (q.1, g q))
        (fun a b => a.1 == b.1 && sameCell (numeric.lookup a.1) a.2 b.2) = true ↔
      ∀ t ∈ as.zip bs, sameCell (numeric.lookup t.1.1) (f t.1) (g t.2) = true)
  | [], [], _ => by simp
  | a :: as, b :: bs, h => by
    obtain ⟨hab, hrest⟩ := List.cons.inj h
    simp [List.isEqv_cons_cons, hab, isEqv_map_iff numeric hrest]

/-- Keys agree in the columns with a tolerance when their first values there are equal. -/
theorem agree_iff {columns : List String} {numeric : List (String × Decimal)} {k l : RowKey} :
    (KeyRule.ofColumns columns numeric).agree k l = true ↔ ∀ c ∈ columns,
      isTolerantIn numeric c = true →
        sameCell (numeric.lookup c) (k.value c) (l.value c) = true := by
  unfold KeyRule.agree
  rw [List.all_eq_true]
  constructor
  · intro h c hc ht
    unfold isTolerantIn at ht
    cases hp : numeric.lookup c with
    | none => rw [hp] at ht; cases ht
    | some p =>
      have hz : p.isZero = false := by simpa [hp] using ht
      rw [← agreeCells_eq]
      exact h (c, p) (mem_tolerantColumns.mpr ⟨hc, hp, hz⟩)
  · intro h t ht
    obtain ⟨hc, hp, hz⟩ := mem_tolerantColumns.mp ht
    have hcell := h t.1 hc (by simp [isTolerantIn, hp, hz])
    rwa [hp, ← agreeCells_eq] at hcell

/-- The values of one column: their parts are equal, and so are the first values when the column
    has a tolerance. -/
theorem column_iff {columns : List String} {c : String} (h : c ∈ columns)
    (numeric : List (String × Decimal)) (v w v₁ w₁ : Option String) :
    ((∀ x ∈ partOf? (KeyRule.ofColumns columns numeric) (c, v),
        ∀ y ∈ partOf? (KeyRule.ofColumns columns numeric) (c, w), x.same y = true) ∧
      (isTolerantIn numeric c = true → sameCell (numeric.lookup c) v₁ w₁ = true)) ↔
    sameCell (numeric.lookup c) (if isTolerantIn numeric c then v₁ else v)
      (if isTolerantIn numeric c then w₁ else w) = true := by
  unfold partOf?
  rw [ofColumns_isTolerant h, ofColumns_lookup h]
  cases ht : isTolerantIn numeric c with
  | true => simp
  | false =>
    cases hp : numeric.lookup c with
    | none => simp [KeyPart.same, sameCell_none]
    | some p =>
      have hz : p.isZero = true := by simpa [isTolerantIn, hp] using ht
      simp [numericPart_same hz]

/-- **The two halves decide equality of keys.** -/
theorem same_eq_sameKey {columns : List String} {k l : RowKey} (hk : k.columns = columns)
    (hl : l.columns = columns) (numeric : List (String × Decimal)) :
    (KeyRule.ofColumns columns numeric).same k l =
      sameKey numeric (k.settled numeric) (l.settled numeric) := by
  have hcols : k.pairs.map Prod.fst = l.pairs.map Prod.fst := hk.trans hl.symm
  have hmem : ∀ {c d v w}, ((c, v), (d, w)) ∈ k.pairs.zip l.pairs → c ∈ columns ∧ d = c := by
    intro c d v w ht
    have hc : (c, v).1 ∈ k.pairs.map Prod.fst := List.mem_map_of_mem (List.of_mem_zip ht).1
    exact ⟨hk ▸ hc, (fst_eq_of_mem_zip hcols ht).symm⟩
  rw [Bool.eq_iff_iff, KeyRule.same, Bool.and_eq_true, parts_eq, parts_eq,
    sameParts_filterMap _ hcols, agree_iff, sameKey, RowKey.settled, RowKey.settled,
    isEqv_map_iff numeric hcols]
  constructor
  · rintro ⟨hparts, hvalues⟩ ⟨⟨c, v⟩, ⟨d, w⟩⟩ ht
    obtain ⟨hc, rfl⟩ := hmem ht
    exact (column_iff hc numeric v w _ _).mp ⟨hparts _ ht, hvalues _ hc⟩
  · intro h
    refine ⟨fun ⟨⟨c, v⟩, ⟨d, w⟩⟩ ht => ?_, fun c hc => ?_⟩
    · obtain ⟨hc, rfl⟩ := hmem ht
      exact ((column_iff hc numeric v w _ _).mpr (h _ ht)).1
    · obtain ⟨⟨⟨_, v⟩, ⟨d, w⟩⟩, ht, rfl⟩ := exists_mem_zip hcols (hk ▸ hc)
      obtain ⟨hc, rfl⟩ := hmem ht
      exact ((column_iff hc numeric v w _ _).mpr (h _ ht)).2

/-- Keys that give every column they list one value are equal to an index when they are equal. -/
theorem same_eq_sameKey_of_isConsistent {columns : List String} {k l : RowKey}
    (hk : k.columns = columns) (hl : l.columns = columns) (hck : k.IsConsistent)
    (hcl : l.IsConsistent) (numeric : List (String × Decimal)) :
    (KeyRule.ofColumns columns numeric).same k l = sameKey numeric k l := by
  rw [same_eq_sameKey hk hl, RowKey.settled_eq_self hck, RowKey.settled_eq_self hcl]

end Reconcile.Table
