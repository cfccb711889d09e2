import Reconcile.Proofs.Document.Showable
import Reconcile.Proofs.Traversal
import Reconcile.Schema.Check

/-!
# What findings report

A check of a value reports on a condition: it finds nothing exactly when the condition holds, unless
a message cannot be made and the check breaks off. Where the failures are is known as well, so that
they can be compared. Both are followed rule by rule.

* `Sortable`, `mostRelevant?_some`, `narrowed?_some`: failures that can be compared;
* `told_eq_ok_none_iff`, **`told_of_sortable`**: the failure that is told of findings;
* `Reports`, `Reports.append`, `Reports.ofCause`, `Reports.ofEach`: findings that report on a
  condition, put together;
* `Reports.itemFindings`, `Reports.entryFindings`, **`Reports.properties`**, **`Reports.oneOf`**: the
  rules with schemas for parts.
-/

namespace Reconcile.Schema

open Reconcile.Document

/-! ## 1. Failures that can be compared -/

namespace Failure

/-- Failures whose paths have an order among each other, down to the last alternative. -/
inductive Sortable : List Failure → Prop where
  | mk {fs : List Failure}
      (paths : ∀ f ∈ fs, ∀ g ∈ fs, ∃ o, pathOrder? f.path g.path = some o)
      (alternatives : ∀ f ∈ fs, Sortable f.alternatives) : Sortable fs

theorem Sortable.paths {fs : List Failure} (h : Sortable fs) :
    ∀ f ∈ fs, ∀ g ∈ fs, ∃ o, pathOrder? f.path g.path = some o := by
  cases h with
  | mk paths _ => exact paths

theorem Sortable.alternatives {fs : List Failure} (h : Sortable fs) :
    ∀ f ∈ fs, Sortable f.alternatives := by
  cases h with
  | mk _ alternatives => exact alternatives

theorem Sortable.nil : Sortable [] :=
  .mk (fun _ h => absurd h List.not_mem_nil) fun _ h => absurd h List.not_mem_nil

/-- Failures have an order when their paths do. -/
theorem order?_some {f g : Failure} (h : ∃ o, pathOrder? f.path g.path = some o) :
    ∃ o, order? f g = some o := by
  obtain ⟨o, h⟩ := h
  unfold order?
  by_cases hdepth : (compare g.path.length f.path.length != .eq) = true
  · rw [if_pos hdepth]
    exact ⟨_, rfl⟩
  · rw [if_neg hdepth, h]
    exact ⟨_, rfl⟩

/-- What one of the first two is kept of, and the rest. -/
theorem mem_of_mem_kept {α : Type} {f g kept a : α} {rest : List α} (hkept : kept ∈ [f, g])
    (ha : a ∈ kept :: rest) : a ∈ f :: g :: rest := by
  simp only [List.mem_cons, List.not_mem_nil, or_false] at hkept ha ⊢
  rcases ha with rfl | ha
  · exact hkept.elim .inl fun hk => .inr (.inl hk)
  · exact .inr (.inr ha)

/-- Among failures that can be compared there is a most relevant one. -/
theorem mostRelevant?_some : ∀ {rest : List Failure} {f : Failure},
    (∀ a ∈ f :: rest, ∀ b ∈ f :: rest, ∃ o, pathOrder? a.path b.path = some o) →
      ∃ best ∈ f :: rest, mostRelevant? f rest = some best
  | [], f, _ => ⟨f, List.mem_singleton_self f, rfl⟩
  | g :: rest, f, h => by
    have hg : g ∈ f :: g :: rest := List.mem_cons_of_mem f List.mem_cons_self
    obtain ⟨o, ho⟩ := order?_some (h g hg f List.mem_cons_self)
    have hkept : ∀ kept ∈ [f, g], ∃ best ∈ f :: g :: rest, mostRelevant? kept rest = some best := by
      intro kept hmem
      obtain ⟨best, hbest, heq⟩ := mostRelevant?_some (f := kept) fun a ha b hb =>
        h a (mem_of_mem_kept hmem ha) b (mem_of_mem_kept hmem hb)
      exact ⟨best, mem_of_mem_kept hmem hbest, heq⟩
    rw [mostRelevant?, ho]
    cases o with
    | gt => exact hkept g (List.mem_cons_of_mem f List.mem_cons_self)
    | lt => exact hkept f List.mem_cons_self
    | eq => exact hkept f List.mem_cons_self

/-- So there is a least relevant one. -/
theorem leastRelevant?_some {α : Type} : ∀ (rest : List (Failure × α)) (f : Failure × α)
    (only : Bool),
    (∀ a ∈ f :: rest, ∀ b ∈ f :: rest, ∃ o, pathOrder? a.1.path b.1.path = some o) →
      ∃ least ∈ f :: rest, ∃ alone, leastRelevant? f only rest = some (least, alone)
  | [], f, only, _ => ⟨f, List.mem_singleton_self f, only, rfl⟩
  | g :: rest, f, only, h => by
    have hg : g ∈ f :: g :: rest := List.mem_cons_of_mem f List.mem_cons_self
    obtain ⟨o, ho⟩ := order?_some (h g hg f List.mem_cons_self)
    have hkept : ∀ kept ∈ [f, g], ∀ only, ∃ least ∈ f :: g :: rest,
        ∃ alone, leastRelevant? kept only rest = some (least, alone) := by
      intro kept hmem only
      obtain ⟨least, hleast, alone, heq⟩ := leastRelevant?_some rest kept only
        fun a ha b hb => h a (mem_of_mem_kept hmem ha) b (mem_of_mem_kept hmem hb)
      exact ⟨least, mem_of_mem_kept hmem hleast, alone, heq⟩
    rw [leastRelevant?, ho]
    cases o with
    | lt => exact hkept g (List.mem_cons_of_mem f List.mem_cons_self) true
    | eq => exact hkept f List.mem_cons_self false
    | gt => exact hkept f List.mem_cons_self only

mutual

/-- A failure with alternatives that can be compared is narrowed down to one. -/
theorem narrowed?_some : ∀ {f : Failure}, Sortable f.alternatives → ∃ g, narrowed? f = some g
  | ⟨cause, value, path, isOfKind, alternatives⟩, h => by
    rw [narrowed?]
    cases hnarrow : alternativesNarrowed alternatives with
    | nil => exact ⟨_, rfl⟩
    | cons a rest =>
      have hall := alternativesNarrowed_some h.alternatives
      rw [hnarrow] at hall
      obtain ⟨least, hleast, alone, heq⟩ := leastRelevant?_some rest a true
        fun x hx y hy => h.paths x.1 (hall x hx).1 y.1 (hall y hy).1
      obtain ⟨g, hg⟩ := (hall least hleast).2
      obtain ⟨f', narrow⟩ := least
      simp only [heq]
      show ∃ g, (if alone = true then narrow else some _) = some g
      split
      · exact ⟨g, hg⟩
      · exact ⟨_, rfl⟩

theorem alternativesNarrowed_some : ∀ {fs : List Failure},
    (∀ f ∈ fs, Sortable f.alternatives) →
      ∀ x ∈ alternativesNarrowed fs, x.1 ∈ fs ∧ ∃ g, x.2 = some g
  | [], _, x, hx => by
    rw [alternativesNarrowed] at hx
    exact absurd hx List.not_mem_nil
  | f :: rest, h, x, hx => by
    rw [alternativesNarrowed, List.mem_cons] at hx
    rcases hx with rfl | hx
    · exact ⟨List.mem_cons_self, narrowed?_some (h f List.mem_cons_self)⟩
    · have hrest : ∀ f ∈ rest, Sortable f.alternatives := fun f hf => h f (List.mem_cons_of_mem _ hf)
      obtain ⟨hmem, hg⟩ := alternativesNarrowed_some hrest x hx
      exact ⟨List.mem_cons_of_mem f hmem, hg⟩

end

end Failure

namespace Findings

variable {found a b : Findings}

/-! ## 2. What is told -/

/-- No failure is told exactly when nothing was found. -/
theorem told_eq_ok_none_iff :
    found.told = .ok none ↔ found.failures = [] ∧ found.brokenBy = none := by
  obtain ⟨failures, brokenBy⟩ := found
  cases failures with
  | nil => cases brokenBy <;> simp [told, all, Functor.map, Except.map]
  | cons f rest =>
    refine ⟨fun h => ?_, fun h => absurd h.1 (List.cons_ne_nil f rest)⟩
    obtain ⟨best, _, h⟩ := bind_ok_iff.mp h
    obtain ⟨_, _, h⟩ := bind_ok_iff.mp h
    cases hnarrow : best.narrowed? <;> rw [hnarrow] at h <;> cases h

/-- A failure is told only where there are failures. -/
theorem failures_ne_nil_of_told {f : Failure} (h : found.told = .ok (some f)) :
    found.failures ≠ [] := by
  intro hnil
  rw [told, hnil] at h
  cases hall : found.all <;> rw [hall] at h <;> cases h

/-- **What is told** of findings that can be compared: nothing, a failure, or that the check broke
    off. -/
theorem told_of_sortable (h : Failure.Sortable found.failures) :
    (found.failures = [] ∧ found.brokenBy = none ∧ found.told = .ok none) ∨
      (found.failures ≠ [] ∧ found.brokenBy = none ∧ ∃ f, found.told = .ok (some f)) ∨
      ∃ b, found.brokenBy = some b ∧ found.told = .error b := by
  obtain ⟨failures, brokenBy⟩ := found
  cases failures with
  | nil => cases brokenBy with
    | none => exact .inl ⟨rfl, rfl, rfl⟩
    | some b => exact .inr (.inr ⟨b, rfl, rfl⟩)
  | cons f rest =>
    obtain ⟨best, hbest, hmost⟩ := Failure.mostRelevant?_some h.paths
    obtain ⟨g, hg⟩ := Failure.narrowed?_some (h.alternatives best hbest)
    cases brokenBy with
    | none =>
      refine .inr (.inl ⟨List.cons_ne_nil f rest, rfl, g, ?_⟩)
      have htold : told ⟨f :: rest, none⟩ = some <$> orUnordered best.narrowed? := by
        simp only [told, hmost]
        rfl
      rw [htold, hg]
      rfl
    | some b =>
      refine .inr (.inr ⟨b, rfl, ?_⟩)
      simp only [told, hmost]
      rfl

/-! ## 3. Findings put together -/

theorem failures_append (h : a.brokenBy = none) : (a ++ b).failures = a.failures ++ b.failures := by
  show (andThen a b).failures = _
  rw [andThen, h]

theorem brokenBy_append (h : a.brokenBy = none) : (a ++ b).brokenBy = b.brokenBy := by
  show (andThen a b).brokenBy = _
  rw [andThen, h]

theorem append_of_brokenBy {e : Breakdown} (h : a.brokenBy = some e) : a ++ b = a := by
  show andThen a b = a
  rw [andThen, h]

theorem all_of_brokenBy {e : Breakdown} (h : a.brokenBy = some e) : a.all = .error e := by
  rw [all, h]

theorem all_of_not_broken (h : a.brokenBy = none) : a.all = .ok a.failures := by
  rw [all, h]

/-- The failures of two checks are among those of the one and of the other. -/
theorem mem_failures_append {f : Failure} (h : f ∈ (a ++ b).failures) :
    f ∈ a.failures ∨ f ∈ b.failures := by
  cases hbroken : a.brokenBy with
  | none =>
    rw [failures_append hbroken] at h
    exact List.mem_append.mp h
  | some e =>
    rw [append_of_brokenBy hbroken] at h
    exact .inl h

end Findings

/-! ## 4. Reports -/

/-- What is found by a check that reports on a condition. Under `answers` the check comes to its end;
    the failures are at known places, and what they have as alternatives can be compared where keys
    have an order. -/
structure Reports (answers ordered : Prop) (found : Findings) (holds : Prop)
    (places : List Value → Prop) : Prop where
  /-- when nothing is found the condition holds -/
  sound : found.failures = [] → found.brokenBy = none → holds
  /-- when it holds no failure is found -/
  complete : holds → found.failures = []
  broken : ∀ b, found.brokenBy = some b → ¬ answers
  places : ∀ f ∈ found.failures, places f.path
  sortable : ordered → ∀ f ∈ found.failures, Failure.Sortable f.alternatives

namespace Reports

variable {answers ordered p q : Prop} {found a b : Findings} {places inner : List Value → Prop}

/-- A condition may be said in another way, and the places be known less well. -/
theorem imp (h : Reports answers ordered found p inner) (hpq : p ↔ q)
    (hplaces : ∀ path, inner path → places path) : Reports answers ordered found q places where
  sound hf hb := hpq.mp (h.sound hf hb)
  complete hq := h.complete (hpq.mpr hq)
  broken := h.broken
  places f hf := hplaces _ (h.places f hf)
  sortable := h.sortable

/-- The same places, and a condition that is said in another way. -/
theorem iff (h : Reports answers ordered found p places) (hpq : p ↔ q) :
    Reports answers ordered found q places :=
  h.imp hpq fun _ => id

/-- Who finds nothing reports on what always holds. -/
theorem nothing (hp : p) : Reports answers ordered {} p places where
  sound _ _ := hp
  complete _ := rfl
  broken _ hb := nomatch hb
  places _ hf := absurd hf List.not_mem_nil
  sortable _ _ hf := absurd hf List.not_mem_nil

/-- Two checks, one after the other, report on both of their conditions. -/
theorem append (ha : Reports answers ordered a p places)
    (hb : Reports answers ordered b q places) :
    Reports answers ordered (a ++ b) (p ∧ q) places := by
  cases hbroken : a.brokenBy with
  | some e =>
    rw [Findings.append_of_brokenBy hbroken]
    exact {
      sound := fun _ h => by rw [hbroken] at h; cases h
      complete := fun h => ha.complete h.1
      broken := ha.broken
      places := ha.places
      sortable := ha.sortable }
  | none =>
    refine {
      sound := fun hf hnone => ?_
      complete := fun h => ?_
      broken := fun e he => hb.broken e (Findings.brokenBy_append hbroken ▸ he)
      places := fun f hf => (Findings.mem_failures_append hf).elim (ha.places f) (hb.places f)
      sortable := fun ho f hf =>
        (Findings.mem_failures_append hf).elim (ha.sortable ho f) (hb.sortable ho f) }
    · rw [Findings.failures_append hbroken, List.append_eq_nil_iff] at hf
      rw [Findings.brokenBy_append hbroken] at hnone
      exact ⟨ha.sound hf.1 hbroken, hb.sound hf.2 hnone⟩
    · rw [Findings.failures_append hbroken, ha.complete h.1, hb.complete h.2]
      rfl

/-- A failure is found where a condition does not hold, when its message can be made. -/
theorem ofFailure {f : Failure} (hshow : answers → f.isShowable = true) (hplace : places f.path)
    (hsort : ordered → Failure.Sortable f.alternatives) :
    Reports answers ordered (.ofFailure f) False places := by
  unfold Findings.ofFailure
  split
  · exact {
      sound := fun hf => absurd hf (List.cons_ne_nil f [])
      complete := False.elim
      broken := fun _ hb => nomatch hb
      places := fun g hg => List.mem_singleton.mp hg ▸ hplace
      sortable := fun ho g hg => List.mem_singleton.mp hg ▸ hsort ho }
  · rename_i hlong
    exact {
      sound := fun _ hb => nomatch hb
      complete := False.elim
      broken := fun _ _ ha => hlong (hshow ha)
      places := fun _ hg => absurd hg List.not_mem_nil
      sortable := fun _ _ hg => absurd hg List.not_mem_nil }

/-- A check that breaks off reports on any condition. -/
theorem brokenOff {e : Breakdown} (he : ¬ answers) :
    Reports answers ordered (.brokenOff e) p places where
  sound _ hb := nomatch hb
  complete _ := rfl
  broken _ _ := he
  places _ hf := absurd hf List.not_mem_nil
  sortable _ _ hf := absurd hf List.not_mem_nil

variable {asked : Option (List Kind)} {v : Value} {cause : Cause}

/-- A rule without parts tells one cause, unless its test is passed. -/
theorem ofCause {test : Bool} (hshow : answers → (cause.shows v).all Value.isShowable = true)
    (hplace : places []) :
    Reports answers ordered (ofCauses asked v (if test then [] else [cause])) (test = true)
      places := by
  cases test with
  | true => exact nothing rfl
  | false =>
    have hfailure : Reports answers ordered (.ofFailure (failureOf asked v cause)) False places :=
      ofFailure hshow hplace fun _ => .nil
    exact (hfailure.append (nothing trivial)).iff ⟨fun h => h.1.elim, fun h => nomatch h⟩

theorem ofEach {α : Type} {check : α → Findings} {holds : α → Prop} : ∀ {xs : List α},
    (∀ x ∈ xs, Reports answers ordered (check x) (holds x) places) →
      Reports answers ordered (.ofEach check xs) (∀ x ∈ xs, holds x) places
  | [], _ => nothing fun _ h => absurd h List.not_mem_nil
  | x :: rest, h => by
    have hrest : ∀ x ∈ rest, Reports answers ordered (check x) (holds x) places :=
      fun x hx => h x (List.mem_cons_of_mem _ hx)
    exact ((h x List.mem_cons_self).append (ofEach hrest)).iff List.forall_mem_cons.symm

/-! ## 5. Parts -/

/-- What is found in a part of a value is at a place behind a step. -/
theorem behind (step : Value) (h : Reports answers ordered found p inner)
    (hplaces : ∀ path, inner path → places (step :: path)) :
    Reports answers ordered (found.behind step) p places where
  sound hf hb := h.sound (List.map_eq_nil_iff.mp hf) hb
  complete hp := by rw [Findings.behind, h.complete hp]; rfl
  broken := h.broken
  places f hf := by
    obtain ⟨g, hg, rfl⟩ := List.mem_map.mp hf
    exact hplaces _ (h.places g hg)
  sortable ho f hf := by
    obtain ⟨g, hg, rfl⟩ := List.mem_map.mp hf
    exact h.sortable ho g hg

theorem itemFindings {check : Value → Findings} {holds : Value → Prop}
    (hplaces : ∀ (n : Nat) (path), inner path → places (.int n :: path)) :
    ∀ {xs : List Value} {place : Nat},
      (∀ x ∈ xs, Reports answers ordered (check x) (holds x) inner) →
        Reports answers ordered (itemFindings check place xs) (∀ x ∈ xs, holds x) places
  | [], _, _ => nothing fun _ h => absurd h List.not_mem_nil
  | x :: rest, place, h => by
    have hrest : ∀ x ∈ rest, Reports answers ordered (check x) (holds x) inner :=
      fun x hx => h x (List.mem_cons_of_mem _ hx)
    have hfirst := (h x List.mem_cons_self).behind (.int place) (hplaces place)
    exact (hfirst.append (itemFindings hplaces hrest)).iff List.forall_mem_cons.symm

theorem entryFindings {check : Value → Findings} {holds : Value → Prop}
    {entries : List (Value × Value)}
    (hplaces : ∀ e ∈ entries, ∀ path, inner path → places (e.1 :: path))
    (h : ∀ e ∈ entries, Reports answers ordered (check e.2) (holds e.2) inner) :
    Reports answers ordered (entryFindings check entries) (∀ e ∈ entries, holds e.2) places :=
  ofEach fun e he => (h e he).behind e.1 (hplaces e he)

variable {refer : Referral}

/-- **The values under names** are checked one by one, each by the schema that its name has. -/
theorem properties {Inner : Value → List Value → Prop}
    {schemas : List (String × Schema)} {forms : List (String × (Value → Prop))}
    (h : List.Forall₂ (fun s f => s.1 = f.1 ∧ ∀ x, v.get? s.1 = some x →
      Reports answers ordered (findings refer none s.2 x) (f.2 x) (Inner x)) schemas forms)
    (hplaces : ∀ name x, v.get? name = some x → ∀ path, Inner x path →
      places (.text name :: path)) :
    Reports answers ordered (findingsOfProperties refer schemas v)
      (∀ f ∈ forms, ∀ x, v.get? f.1 = some x → f.2 x) places := by
  induction h with
  | nil =>
    rw [findingsOfProperties]
    exact nothing fun _ h => absurd h List.not_mem_nil
  | @cons s f schemas forms hhead _ ih =>
    obtain ⟨name, schema⟩ := s
    obtain ⟨hname, hhead⟩ := hhead
    rw [findingsOfProperties]
    refine (Reports.append ?_ ih).iff List.forall_mem_cons.symm
    rw [← hname]
    cases hget : v.get? name with
    | none => exact nothing fun x hx => nomatch hx
    | some x =>
      have hone := (hhead x hget).behind (.text name) (hplaces name x hget)
      exact hone.iff ⟨fun h y hy => Option.some.inj hy ▸ h, fun h => h x rfl⟩

/-- **One of two schemas** that do not both accept a value: what is found under the one is told only
    when something is found under the other as well. -/
theorem oneOf {s t : Schema} (shown shown' : Value)
    (hs : Reports answers ordered (findings refer none s v) p inner)
    (ht : Reports answers ordered (findings refer none t v) q inner)
    (hexclusive : p → ¬ q) (hshow : answers → v.isShowable = true) (hplace : places [])
    (hsort : ordered → ∀ x, inner x → ∀ y, inner y → ∃ o, Failure.pathOrder? x y = some o) :
    Reports answers ordered (findings refer asked (.oneOf [(shown, s), (shown', t)]) v) (p ∨ q)
      places := by
  rw [findings, findingsOfOneOf]
  cases hbroken : (findings refer none s v).brokenBy with
  | some e =>
    rw [Findings.all_of_brokenBy hbroken]
    exact brokenOff (hs.broken e hbroken)
  | none =>
    rw [Findings.all_of_not_broken hbroken]
    cases hfound : (findings refer none s v).failures with
    | nil =>
      have hp : p := hs.sound hfound hbroken
      have hothers : (findings refer none t v).failures = [] →
          ∃ e, (findings refer none t v).brokenBy = some e := fun hfound' =>
        Option.ne_none_iff_exists'.mp fun hbroken' => hexclusive hp (ht.sound hfound' hbroken')
      simp only [acceptingAmong]
      cases hfound' : (findings refer none t v).failures with
      | nil =>
        obtain ⟨e, hbroken'⟩ := hothers hfound'
        simp only [Findings.accepts, Findings.first, hfound', hbroken']
        exact brokenOff (ht.broken e hbroken')
      | cons g gs =>
        simp only [Findings.accepts, Findings.first, hfound']
        exact nothing (.inl hp)
    | cons f fs =>
      have hp : ¬ p := fun hp => List.cons_ne_nil f fs (hfound.symm.trans (hs.complete hp))
      show Reports answers ordered (findingsOfOneOf refer asked (f :: fs) [(shown', t)] v) _ _
      rw [findingsOfOneOf]
      cases hbroken' : (findings refer none t v).brokenBy with
      | some e =>
        rw [Findings.all_of_brokenBy hbroken']
        exact brokenOff (ht.broken e hbroken')
      | none =>
        rw [Findings.all_of_not_broken hbroken']
        cases hfound' : (findings refer none t v).failures with
        | nil =>
          simp only [acceptingAmong]
          exact nothing (.inr (ht.sound hfound' hbroken'))
        | cons g gs =>
          have hq : ¬ q := fun hq => List.cons_ne_nil g gs (hfound'.symm.trans (ht.complete hq))
          have hmem : ∀ x ∈ f :: fs ++ g :: gs,
              x ∈ (findings refer none s v).failures ∨ x ∈ (findings refer none t v).failures := by
            intro x hx
            rw [hfound, hfound']
            exact List.mem_append.mp hx
          have hinner : ∀ x ∈ f :: fs ++ g :: gs, inner x.path := fun x hx =>
            (hmem x hx).elim (hs.places x) (ht.places x)
          have hfailure : Reports answers ordered
              (.ofFailure (failureOf asked v (.acceptedByNone true) (f :: fs ++ g :: gs))) (p ∨ q)
              places := by
            refine (ofFailure (fun h => ?_) hplace fun ho => ?_).iff
              ⟨False.elim, fun h => h.elim hp hq⟩
            · rw [Failure.isShowable]
              exact List.all_eq_true.mpr fun x hx => List.mem_singleton.mp hx ▸ hshow h
            · exact .mk (fun x hx y hy => hsort ho _ (hinner x hx) _ (hinner y hy)) fun x hx =>
                (hmem x hx).elim (hs.sortable ho x) (ht.sortable ho x)
          simpa only [findingsOfOneOf] using hfailure

end Reports

end Reconcile.Schema
