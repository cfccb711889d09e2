import Reconcile.Proofs.Decimal.Value
import Reconcile.Proofs.Document.Ordinary
import Reconcile.Proofs.Schema.Reports

/-!
# Rules and what they ask for

A rule without parts reports on a condition that can be said without the rule, and so do the rules
for the items of a list and for the keys and values of a mapping.

* `Kind.string_has_iff` and its like, `isWhole_iff`: the kinds of values;
* `alike_text_iff`, `least_keeps_iff`: texts that are asked for, and a least number;
* `alikeWithin_isSome`, `areDistinct?_isSome`, `areDistinct?_texts`: comparisons that come to their
  end, and what they find among texts;
* `Reports.all`, `Reports.before`: a schema with several rules;
* `Reports.kinds`, `Reports.listed`, `Reports.bounded`, `Reports.atLeast`, `Reports.distinct`: rules
  without parts;
* `Reports.items`, `Reports.otherProperties`, **`Reports.noOtherProperties`**: the items of a list, the
  values of a mapping, and its keys.
-/

namespace Reconcile

open Document

/-! ## 1. Kinds -/

namespace Document.Value

/-- A value with items has no entries. -/
theorem entriesOf_eq_nil {v x : Value} (h : x ∈ v.itemsOf) : v.entriesOf = [] := by
  unfold itemsOf at h
  split at h
  · rename_i xs hlist
    rw [entriesOf, hlist]
  · exact absurd h List.not_mem_nil

end Document.Value

namespace Schema

namespace Kind

variable {v : Value}

theorem string_has_iff : string.has v = true ↔ ∃ s, v = .text s := by
  cases v <;> simp [has]

theorem boolean_has_iff : boolean.has v = true ↔ ∃ b, v = .bool b := by
  cases v <;> simp [has]

theorem null_has_iff : null.has v = true ↔ v = .null := by
  cases v <;> simp [has]

theorem number_has_iff : number.has v = true ↔ (∃ n, v = .int n) ∨ ∃ x, v = .float x := by
  cases v <;> simp [has]

theorem number_of_integer (h : integer.has v = true) : number.has v = true := by
  cases v <;> first | rfl | cases h

/-- A decimal without a fraction denotes an integer. -/
theorem isWhole_iff {d : Decimal} : isWhole d = true ↔ ∃ n : ℤ, d.toRat = n := by
  have hdiv : d.exponent < 0 → ((∃ n : ℤ, d.toRat = n) ↔
      (10 : ℤ) ^ d.exponent.natAbs ∣ d.signed) := by
    intro hneg
    have hpow : (10 : ℚ) ^ d.exponent.natAbs ≠ 0 := by positivity
    have hexponent : d.exponent = -(d.exponent.natAbs : ℤ) := by omega
    rw [Decimal.toRat, hexponent, zpow_neg, zpow_natCast, Int.natAbs_neg, Int.natAbs_natCast]
    refine exists_congr fun n => ?_
    rw [← div_eq_mul_inv, div_eq_iff hpow, mul_comm]
    exact_mod_cast Iff.rfl
  unfold isWhole
  rw [Bool.or_eq_true, decide_eq_true_eq, beq_iff_eq]
  by_cases hexponent : 0 ≤ d.exponent
  · refine iff_of_true (.inl hexponent) ⟨d.signed * 10 ^ d.exponent.toNat, ?_⟩
    rw [Decimal.toRat, Int.cast_mul, Int.cast_pow, ← zpow_natCast, Int.toNat_of_nonneg hexponent]
    rfl
  · have hcoefficient : d.signed.natAbs = d.coefficient := by
      unfold Decimal.signed
      split <;> simp
    rw [hdiv (not_le.mp hexponent), ← Int.natAbs_dvd_natAbs, hcoefficient, Int.natAbs_pow,
      Nat.dvd_iff_mod_eq_zero, or_iff_right hexponent]
    rfl

/-- An integer is a number without a fraction, and no truth value. -/
theorem integer_has_iff : integer.has v = true ↔
    (¬ ∃ b, v = .bool b) ∧ ∃ d : Decimal, v.number? = some d ∧ ∃ n : ℤ, d.toRat = n := by
  simp only [← isWhole_iff]
  cases v with
  | int n => exact iff_of_true rfl ⟨nofun, Decimal.ofInt n, rfl, rfl⟩
  | float x =>
    show ((Value.float x).number?.any isWhole) = true ↔ _
    rw [Option.any_eq_true]
    exact ⟨fun h => ⟨nofun, h⟩, fun h => h.2⟩
  | bool b => exact ⟨nofun, fun h => absurd ⟨b, rfl⟩ h.1⟩
  | _ => exact ⟨nofun, fun ⟨_, _, h, _⟩ => nomatch h⟩

end Kind

/-! ## 2. Values that are asked for -/

variable {v : Value}

/-- A text is alike to itself only. -/
theorem alike_text_iff {s t : String} : alike (.text s) (.text t) = true ↔ s = t := by
  show (s == t) = true ↔ s = t
  exact beq_iff_eq

/-- A number stands at its own place in the order. -/
theorem rank?_of_number? {d : Decimal} (h : v.number? = some d) : rank? v = some (0, d) := by
  cases v with
  | float x =>
    rw [Value.number?] at h
    split at h
    · cases h
    · rename_i hfinite
      rw [Bool.not_eq_true, Bool.or_eq_false_iff] at hfinite
      rw [rank?, hfinite.1, hfinite.2, if_neg Bool.false_ne_true, if_neg Bool.false_ne_true,
        Option.some.inj h]
  | _ => simp only [rank?, h, Option.map_some]

/-- A least number is kept by numbers that are not below it. -/
theorem least_keeps_iff {n : Int} {d : Decimal} (h : v.number? = some d) :
    Bound.least.keeps (.int n) v = true ↔ (n : ℚ) ≤ d.toRat := by
  have horder : orderOf? v (.int n) = some (d.compare (Decimal.ofInt n)) := by
    rw [orderOf?, rank?_of_number? h]
    rfl
  have hcompares := Decimal.compares_toRat d (Decimal.ofInt n)
  rw [Decimal.ofInt_toRat] at hcompares
  unfold Bound.keeps
  rw [horder]
  cases hcompare : d.compare (Decimal.ofInt n) <;> rw [hcompare] at hcompares
  · exact ⟨nofun, fun hle => absurd hcompares (not_lt.mpr hle)⟩
  · exact ⟨fun _ => le_of_eq hcompares.symm, fun _ => rfl⟩
  · exact ⟨fun _ => le_of_lt hcompares, fun _ => rfl⟩

/-! ## 3. Comparisons -/

/-- An ordinary value is compared to the end when its collections are nested less deep than the
    comparison goes. -/
theorem alikeWithin_isSome {depth : Nat} {a : Value} (h : IsOrdinary depth a) :
    ∀ {fuel : Nat} {b : Value}, depth < fuel → (alikeWithin fuel a b).isSome := by
  induction h with
  | @list depth xs _ ih =>
    rintro (_ | fuel) b hfuel
    · cases hfuel
    rw [alikeWithin, if_neg (by exact Bool.false_ne_true)]
    cases b.opened with
    | list ys =>
      show (if (xs.length == ys.length) = true then (xs.zip ys).allM _ else some false).isSome
      split
      · exact allM_isSome fun x hx => ih x.1 (List.of_mem_zip hx).1 (Nat.lt_of_succ_lt_succ hfuel)
      · rfl
    | _ => rfl
  | @map depth es _ _ ih =>
    rintro (_ | fuel) b hfuel
    · cases hfuel
    rw [alikeWithin, if_neg (by exact Bool.false_ne_true)]
    cases b.opened with
    | map ys =>
      show (if (es.length == ys.length) = true then es.allM _ else some false).isSome
      split
      · refine allM_isSome fun e he => ?_
        dsimp only
        split
        · exact ih e he (Nat.lt_of_succ_lt_succ hfuel)
        · rfl
      · rfl
    | _ => rfl
  | _ =>
    rintro (_ | fuel) b hfuel
    · cases hfuel
    · rfl

theorem areDistinct?_isSome {depth : Nat} (hdepth : depth < maxDepth) : ∀ {xs : List Value},
    (∀ x ∈ xs, IsOrdinary depth x) → (areDistinct? xs).isSome
  | [], _ => rfl
  | x :: rest, h => by
    have hany : (rest.anyM (alikeWithin maxDepth x)).isSome := anyM_isSome fun y _ =>
      alikeWithin_isSome (h x List.mem_cons_self) hdepth
    obtain ⟨b, hb⟩ := Option.isSome_iff_exists.mp hany
    rw [areDistinct?, hb]
    cases b with
    | true => rfl
    | false => exact areDistinct?_isSome hdepth fun y hy => h y (List.mem_cons_of_mem x hy)

/-- A text is looked for among texts. -/
theorem anyM_alikeWithin_texts (s : String) : ∀ {names : List String},
    (names.map Value.text).anyM (alikeWithin maxDepth (.text s)) = some (names.contains s)
  | [] => rfl
  | t :: rest => by
    have hone : alikeWithin maxDepth (.text s) (.text t) = some (s == t) := rfl
    rw [List.map_cons, List.anyM_cons, hone, anyM_alikeWithin_texts s, List.contains_cons]
    cases s == t <;> rfl

/-- Texts are distinct when none of them comes twice. -/
theorem areDistinct?_texts : ∀ {names : List String},
    areDistinct? (names.map .text) = some true ↔ names.Nodup
  | [] => iff_of_true rfl List.nodup_nil
  | s :: rest => by
    rw [List.map_cons, areDistinct?, anyM_alikeWithin_texts, List.nodup_cons,
      ← areDistinct?_texts, ← List.contains_iff_mem]
    cases rest.contains s <;> simp

/-! ## 4. Rules without parts -/

namespace Reports

variable {answers ordered p : Prop} {places inner : List Value → Prop} {refer : Referral}
  {asked : Option (List Kind)}

/-- A schema reports on what all of its rules report on. -/
theorem all {rules : List Schema}
    (h : Reports answers ordered (findingsOfAll refer (kindsAmong rules) rules v) p places) :
    Reports answers ordered (findings refer asked (.all rules) v) p places := by
  rw [findings]
  exact h

theorem noRules : Reports answers ordered (findingsOfAll refer asked [] v) True places := by
  rw [findingsOfAll]
  exact nothing trivial

/-- A rule that stands before others. -/
theorem before {q : Prop} {rule : Schema} {rest : List Schema}
    (hrule : Reports answers ordered (findings refer asked rule v) p places)
    (hrest : Reports answers ordered (findingsOfAll refer asked rest v) q places) :
    Reports answers ordered (findingsOfAll refer asked (rule :: rest) v) (p ∧ q) places := by
  rw [findingsOfAll]
  exact hrule.append hrest

section Plain

variable (hshow : answers → v.isShowable = true) (hplace : places [])

include hshow hplace

theorem kinds {ks : List Kind} : Reports answers ordered (findings refer asked (.kinds ks) v)
    (ks.any (·.has v) = true) places :=
  ofCause (fun h => List.all_eq_true.mpr fun _ hx => List.mem_singleton.mp hx ▸ hshow h) hplace

theorem kind {k : Kind} : Reports answers ordered (findings refer asked (.kinds [k]) v)
    (k.has v = true) places :=
  (kinds hshow hplace).iff (by rw [List.any_cons, List.any_nil, Bool.or_false])

theorem listed {values : List Value} (hvalues : ∀ x ∈ values, x.isShowable = true) :
    Reports answers ordered (findings refer asked (.listed values) v)
      (values.any (alike v) = true) places :=
  ofCause (fun h => List.all_eq_true.mpr fun _ hx =>
    (List.mem_cons.mp hx).elim (fun hx => hx ▸ hshow h) (hvalues _)) hplace

theorem bounded {side : Bound} {limit : Value} (hlimit : limit.isShowable = true) :
    Reports answers ordered (findings refer asked (.bounded side limit) v)
      ((!Kind.number.has v || side.keeps limit v) = true) places := by
  refine ofCause (fun h => ?_) hplace
  show (v.isShowable && (limit.isShowable && true)) = true
  rw [hshow h, hlimit]
  rfl

theorem atLeast {m : Measure} {n : Nat} : Reports answers ordered
    (findings refer asked (.atLeast m n) v) (∀ k, lengthBy? m v = some k → n ≤ k) places := by
  have hcause : Reports answers ordered
      (ofCauses asked v (if (lengthBy? m v).all (n ≤ ·) then [] else [.tooFew m n]))
      ((lengthBy? m v).all (n ≤ ·) = true) places :=
    ofCause (fun h => List.all_eq_true.mpr fun _ hx => List.mem_singleton.mp hx ▸ hshow h) hplace
  have heq : findings refer asked (.atLeast m n) v =
      ofCauses asked v (if (lengthBy? m v).all (n ≤ ·) then [] else [.tooFew m n]) := by
    show ofCauses asked v (if (lengthBy? m v).any (· < n) then [.tooFew m n] else []) = _
    cases lengthBy? m v with
    | none => rfl
    | some k =>
      by_cases hk : k < n
      · simp [hk, not_le.mpr hk]
      · simp [hk, not_lt.mp hk]
  rw [heq]
  refine hcause.iff ?_
  rw [Option.all_eq_true]
  simp only [decide_eq_true_eq]

/-- No value comes twice, when the comparisons come to their end. -/
theorem distinct (hends : answers → (areDistinct? v.itemsOf).isSome) :
    Reports answers ordered (findings refer asked .distinct v) (areDistinct? v.itemsOf = some true)
      places := by
  show Reports answers ordered (.ofExcept (ofCauses asked v <$> plainCauses .distinct v)) _ places
  cases hdistinct : areDistinct? v.itemsOf with
  | none =>
    have hcheck : plainCauses .distinct v = .error .endless := by rw [plainCauses, hdistinct]
    rw [hcheck]
    refine brokenOff fun ha => ?_
    have hsome := hends ha
    rw [hdistinct] at hsome
    cases hsome
  | some isDistinct =>
    have hcheck : plainCauses .distinct v = .ok (if isDistinct then [] else [.notDistinct]) := by
      rw [plainCauses, hdistinct]
    have hcause : Reports answers ordered
        (ofCauses asked v (if isDistinct then [] else [.notDistinct])) (isDistinct = true) places :=
      ofCause (fun h => List.all_eq_true.mpr fun _ hx => List.mem_singleton.mp hx ▸ hshow h) hplace
    rw [hcheck]
    exact hcause.iff (by rw [Option.some.injEq])

end Plain

/-! ## 5. Items and entries -/

theorem items {s : Schema} {holds : Value → Prop} (hplaces : v.entriesOf = [] → ∀ (n : Nat) (path),
      inner path → places (.int n :: path))
    (h : ∀ x ∈ v.itemsOf, Reports answers ordered (findings refer none s x) (holds x) inner) :
    Reports answers ordered (findings refer asked (.items 0 s) v) (∀ x ∈ v.itemsOf, holds x)
      places := by
  cases hitems : v.itemsOf with
  | nil =>
    have hnothing : findings refer asked (.items 0 s) v = {} := by
      rw [findings, hitems]
      rfl
    rw [hnothing]
    exact nothing fun _ h => absurd h List.not_mem_nil
  | cons x rest =>
    have hentries : v.entriesOf = [] := Value.entriesOf_eq_nil (hitems ▸ List.mem_cons_self)
    rw [← hitems, findings, List.drop_zero]
    exact itemFindings (hplaces hentries) h

/-- Where no patterns are looked for, the other entries are those with other keys. -/
theorem othersAmong_nil {known : List String} : ∀ {es : List (Value × Value)},
    othersAmong known [] es = .ok (es.filter fun e => !known.any fun name => e.1 == .text name)
  | [] => rfl
  | e :: rest => by
    rw [othersAmong, othersAmong_nil]
    cases hknown : known.any fun name => e.1 == .text name with
    | true => rw [if_pos rfl, List.filter_cons_of_neg (by simp [hknown])]
    | false =>
      rw [if_neg Bool.false_ne_true, List.filter_cons_of_pos (by simp [hknown])]
      rfl

theorem otherProperties {s : Schema} {holds : Value → Prop}
    (hplaces : ∀ e ∈ v.entriesOf, ∀ path, inner path → places (e.1 :: path))
    (h : ∀ e ∈ v.entriesOf, Reports answers ordered (findings refer none s e.2) (holds e.2) inner) :
    Reports answers ordered (findings refer asked (.otherProperties [] [] s) v)
      (∀ e ∈ v.entriesOf, holds e.2) places := by
  have hothers : otherEntries [] [] v = .ok v.entriesOf := by
    rw [otherEntries, othersAmong_nil]
    exact congrArg Except.ok (List.filter_eq_self.mpr fun _ _ => rfl)
  rw [findings, hothers]
  exact entryFindings hplaces h

/-- **Keys that are not known** are told all at once. -/
theorem noOtherProperties {known : List String} (hshow : answers → v.isShowable = true)
    (hplace : places []) :
    Reports answers ordered (findings refer asked (.noOtherProperties known none) v)
      (∀ e ∈ v.entriesOf, ∃ name ∈ known, (e.1 == .text name) = true) places := by
  let others := v.entriesOf.filter fun e => !known.any fun name => e.1 == .text name
  have hothers : otherEntries known [] v = .ok others := othersAmong_nil
  have hiff : others.isEmpty = true ↔
      ∀ e ∈ v.entriesOf, ∃ name ∈ known, (e.1 == .text name) = true := by
    simp only [others, List.isEmpty_iff, List.filter_eq_nil_iff, Bool.not_eq_true', Bool.not_eq_false,
      List.any_eq_true]
  have hcause : Reports answers ordered (ofCauses asked v
      (if others.isEmpty then [] else [.otherNames (inOrder (others.map (·.1)))]))
      (others.isEmpty = true) places := by
    refine ofCause (fun h => List.all_eq_true.mpr fun name hname => ?_) hplace
    have hmem : name ∈ others.map (·.1) := List.mem_mergeSort.mp hname
    obtain ⟨e, he, rfl⟩ := List.mem_map.mp hmem
    exact (Value.isShowable_of_mem_entriesOf (hshow h) (List.mem_of_mem_filter he)).1
  have heq : findings refer asked (.noOtherProperties known none) v = ofCauses asked v
      (if others.isEmpty then [] else [.otherNames (inOrder (others.map (·.1)))]) := by
    simp only [findings, plainCauses, Option.getD_none, hothers]
    cases others with
    | nil => rfl
    | cons e rest => rfl
  rw [heq]
  exact hcause.iff hiff

end Reports

end Schema

end Reconcile
