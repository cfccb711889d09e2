import Mathlib.Data.List.Forall2

/-!
# Computations over a list

A list of computations that can fail gives results exactly when every single one does, and then
gives these results in their order.

* `bind_returns`, `bind_ok_iff`, `bind_error_iff`: two computations, one after the other;
* `map_ok_iff`, `mapError_ok_iff` and their like: results and errors that are told as others;
* **`mapM_eq_ok_iff`**: what a list of computations gives, element by element;
* `mem_mapM_ok_iff`: the results, told by membership;
* `map_eq_of_forall₂`, `mapM_congr_of_forall₂`: what lists give depends on the single elements only;
* `mapM_returns_iff`: it gives something when every computation does;
* `forM_ok_iff`: the same for checks;
* `FirstFails`, **`mapM_eq_error_iff`**: what a list of computations fails with;
  `FirstFails.filterMap_iff`: computations that cannot fail do not count;
* `all_of_mapM_ok`: a test on all results, said by the computations; `exists_of_any`: a test on one;
* `anyM_isSome`, `allM_isSome`: tests that may have no answer;
* `GivesOr`, **`GivesOr.bind`**, `GivesOr.mapM`, `GivesOr.mapError`: what is known of the results of a
  computation, or of its errors;
* `BothGive`, **`BothGive.mapM`**: computations that fail alike, or give results in a relation;
  `BothGive.error_iff`: the errors of the one are those of the other.
-/

namespace Reconcile

variable {α β ε : Type} {f : α → Except ε β}

/-- Two computations give something when the first one does, and then the second one. -/
theorem bind_returns {γ : Type} {r : Except ε α} {next : α → Except ε γ}
    (hr : ∃ a, r = .ok a) (hnext : ∀ a, ∃ c, next a = .ok c) : ∃ c, (r >>= next) = .ok c := by
  obtain ⟨a, rfl⟩ := hr
  exact hnext a

/-- What two computations give, one after the other. -/
theorem bind_ok_iff {γ : Type} {r : Except ε α} {next : α → Except ε γ} {c : γ} :
    (r >>= next) = .ok c ↔ ∃ a, r = .ok a ∧ next a = .ok c := by
  cases r with
  | error e => exact ⟨nofun, fun ⟨_, h, _⟩ => nomatch h⟩
  | ok a => exact ⟨fun h => ⟨a, rfl, h⟩, fun ⟨_, ha, h⟩ => Except.ok.inj ha ▸ h⟩

/-- Two computations fail when the first one does, or else the second one. -/
theorem bind_error_iff {γ : Type} {r : Except ε α} {next : α → Except ε γ} {e : ε} :
    (r >>= next) = .error e ↔ r = .error e ∨ ∃ a, r = .ok a ∧ next a = .error e := by
  cases r with
  | error e' =>
    exact ⟨fun h => .inl (congrArg _ (Except.error.inj h)), fun h => h.elim
      (fun h => congrArg _ (Except.error.inj h)) fun ⟨_, h, _⟩ => nomatch h⟩
  | ok a =>
    exact ⟨fun h => .inr ⟨a, rfl, h⟩, fun h => h.elim nofun fun ⟨_, ha, h⟩ => Except.ok.inj ha ▸ h⟩

section Map

variable {r : Except ε α}

theorem map_ok_iff {g : α → β} {b : β} : g <$> r = .ok b ↔ ∃ a, r = .ok a ∧ g a = b := by
  cases r <;> simp

theorem map_error_iff {g : α → β} {e : ε} : g <$> r = .error e ↔ r = .error e := by
  cases r <;> simp

/-- A computation whose errors are told as others gives what it gives. -/
theorem mapError_ok_iff {ε' : Type} {g : ε → ε'} {a : α} : r.mapError g = .ok a ↔ r = .ok a := by
  cases r <;> simp [Except.mapError]

theorem mapError_error_iff {ε' : Type} {g : ε → ε'} {e' : ε'} :
    r.mapError g = .error e' ↔ ∃ e, r = .error e ∧ g e = e' := by
  cases r <;> simp [Except.mapError]

end Map

/-- **A list of computations gives what the single ones give.** -/
theorem mapM_eq_ok_iff : ∀ {as : List α} {bs : List β},
    as.mapM f = .ok bs ↔ List.Forall₂ (fun a b => f a = .ok b) as bs
  | [], bs => by
    rw [List.mapM_nil, List.forall₂_nil_left_iff]
    exact ⟨fun h => (Except.ok.inj h).symm, fun h => congrArg Except.ok h.symm⟩
  | a :: as, bs => by
    rw [List.mapM_cons, List.forall₂_cons_left_iff]
    cases ha : f a with
    | error e => exact ⟨nofun, fun ⟨_, _, h, _⟩ => nomatch h⟩
    | ok b =>
      cases has : as.mapM f with
      | error e =>
        refine ⟨nofun, fun ⟨_, rest, _, hrest, _⟩ => ?_⟩
        rw [mapM_eq_ok_iff.mpr hrest] at has
        cases has
      | ok rest =>
        constructor
        · intro h
          exact ⟨b, rest, rfl, mapM_eq_ok_iff.mp has, (Except.ok.inj h).symm⟩
        · rintro ⟨b', rest', hb, hrest, rfl⟩
          rw [mapM_eq_ok_iff.mpr hrest] at has
          obtain rfl := Except.ok.inj hb
          obtain rfl := Except.ok.inj has
          rfl

/-- The results of a list of computations are those of the single ones. -/
theorem mem_mapM_ok_iff {as : List α} {bs : List β} (h : as.mapM f = .ok bs) {b : β} :
    b ∈ bs ↔ ∃ a ∈ as, f a = .ok b := by
  replace h := mapM_eq_ok_iff.mp h
  induction h with
  | nil => exact ⟨nofun, fun ⟨_, ha, _⟩ => absurd ha List.not_mem_nil⟩
  | cons hhead _ ih =>
    simp only [List.mem_cons, or_and_right, exists_or, exists_eq_left, hhead, Except.ok.injEq]
    exact or_congr eq_comm ih

/-- What two lists in a relation are mapped to is the same when it is for elements in relation. -/
theorem map_eq_of_forall₂ {α β γ : Type} {S : α → β → Prop} {f : α → γ} {g : β → γ}
    (hfg : ∀ a b, S a b → f a = g b) {as : List α} {bs : List β} (h : List.Forall₂ S as bs) :
    as.map f = bs.map g := by
  induction h with
  | nil => rfl
  | cons hab _ ih => rw [List.map_cons, List.map_cons, hfg _ _ hab, ih]

/-- Lists whose computations are the same one by one are computed alike. -/
theorem mapM_congr_of_forall₂ {α' : Type} {f' : α' → Except ε β} {as : List α} {as' : List α'}
    (h : List.Forall₂ (fun a a' => f a = f' a') as as') : as.mapM f = as'.mapM f' := by
  induction h with
  | nil => rw [List.mapM_nil, List.mapM_nil]
  | cons hhead _ ih => rw [List.mapM_cons, List.mapM_cons, hhead, ih]

/-- A list of computations gives something exactly when every single computation does. -/
theorem mapM_returns_iff : ∀ {as : List α},
    (∃ bs, as.mapM f = .ok bs) ↔ ∀ a ∈ as, ∃ b, f a = .ok b
  | [] => iff_of_true ⟨[], List.mapM_nil⟩ fun _ h => absurd h List.not_mem_nil
  | a :: as => by
    rw [List.forall_mem_cons, ← mapM_returns_iff]
    simp only [mapM_eq_ok_iff, List.forall₂_cons_left_iff]
    constructor
    · rintro ⟨_, b, bs, hb, hbs, rfl⟩
      exact ⟨⟨b, hb⟩, bs, hbs⟩
    · rintro ⟨⟨b, hb⟩, bs, hbs⟩
      exact ⟨b :: bs, b, bs, hb, hbs, rfl⟩

/-- A list of checks passes exactly when every single check does. -/
theorem forM_ok_iff {check : α → Except ε Unit} : ∀ {as : List α},
    as.forM check = .ok () ↔ ∀ a ∈ as, check a = .ok ()
  | [] => iff_of_true rfl fun _ h => absurd h List.not_mem_nil
  | a :: as => by
    rw [List.forall_mem_cons, ← forM_ok_iff, List.forM_eq_forM, List.forM_cons]
    cases check a with
    | error e => exact ⟨nofun, fun h => nomatch h.1⟩
    | ok _ => exact ⟨fun h => ⟨rfl, h⟩, fun h => h.2⟩

/-- The first computation of a list that fails, fails with the given error. -/
inductive FirstFails (f : α → Except ε β) (e : ε) : List α → Prop where
  | head {a : α} {as : List α} (h : f a = .error e) : FirstFails f e (a :: as)
  | tail {a : α} {as : List α} {b : β} (ha : f a = .ok b) (h : FirstFails f e as) :
    FirstFails f e (a :: as)

theorem FirstFails.cons_iff {e : ε} {a : α} {as : List α} : FirstFails f e (a :: as) ↔
    f a = .error e ∨ (∃ b, f a = .ok b) ∧ FirstFails f e as := by
  constructor
  · intro h
    cases h with
    | head h => exact .inl h
    | tail ha h => exact .inr ⟨⟨_, ha⟩, h⟩
  · rintro (h | ⟨⟨b, ha⟩, h⟩)
    · exact .head h
    · exact .tail ha h

/-- **A list of computations fails as the first one that does.** -/
theorem mapM_eq_error_iff {e : ε} : ∀ {as : List α}, as.mapM f = .error e ↔ FirstFails f e as
  | [] => ⟨nofun, nofun⟩
  | a :: as => by
    rw [List.mapM_cons, FirstFails.cons_iff, ← mapM_eq_error_iff]
    cases f a with
    | error e' =>
      refine ⟨fun h => .inl ?_, fun h => ?_⟩
      · rw [Except.error.inj h]
      · rw [Except.error.inj (h.resolve_right fun h => nomatch h.1)]
        rfl
    | ok b =>
      cases as.mapM f with
      | error e' => exact ⟨fun h => .inr ⟨⟨b, rfl⟩, h⟩, fun h => (h.resolve_left nofun).2⟩
      | ok bs => exact ⟨nofun, fun h => nomatch (h.resolve_left nofun).2⟩

/-- Computations that cannot fail, and how the others are told, do not count for what fails first. -/
theorem FirstFails.filterMap_iff {γ δ : Type} {g : γ → Except ε δ} {h : α → Option γ} {e : ε}
    (hnone : ∀ a, h a = none → ∃ b, f a = .ok b)
    (hok : ∀ a c, h a = some c → ((∃ b, f a = .ok b) ↔ ∃ d, g c = .ok d))
    (herror : ∀ a c, h a = some c → (f a = .error e ↔ g c = .error e)) :
    ∀ {as : List α}, FirstFails f e as ↔ FirstFails g e (as.filterMap h)
  | [] => ⟨nofun, nofun⟩
  | a :: as => by
    rw [FirstFails.cons_iff, FirstFails.filterMap_iff hnone hok herror]
    cases ha : h a with
    | none =>
      obtain ⟨b, hb⟩ := hnone a ha
      rw [List.filterMap_cons_none ha, hb]
      exact ⟨fun h => (h.resolve_left nofun).2, fun h => .inr ⟨⟨b, rfl⟩, h⟩⟩
    | some c =>
      rw [List.filterMap_cons_some ha, FirstFails.cons_iff, hok a c ha, herror a c ha]

/-- What a list of computations gives passes a test when every single one gives what passes it. -/
theorem all_of_mapM_ok (p : β → Bool) {as : List α} {bs : List β} (h : as.mapM f = .ok bs) :
    bs.all p = as.all fun a => (f a).toOption.any p := by
  replace h := mapM_eq_ok_iff.mp h
  induction h with
  | nil => rfl
  | cons hab _ ih =>
    rw [List.all_cons, List.all_cons, hab, ih]
    rfl

/-- A computation whose result passes a test has a result. -/
theorem exists_of_any {r : Except ε α} {p : α → Bool} (h : r.toOption.any p = true) :
    ∃ a, r = .ok a ∧ p a = true := by
  cases r with
  | error e => cases h
  | ok a => exact ⟨a, rfl, h⟩

section Tests

variable {test : α → Option Bool}

/-- Some element passes or none does, when each single test has an answer. -/
theorem anyM_isSome : ∀ {as : List α}, (∀ a ∈ as, (test a).isSome) → (as.anyM test).isSome
  | [], _ => rfl
  | a :: as, h => by
    obtain ⟨b, hb⟩ := Option.isSome_iff_exists.mp (h a List.mem_cons_self)
    rw [List.anyM_cons, hb]
    cases b with
    | true => rfl
    | false => exact anyM_isSome fun a' ha' => h a' (List.mem_cons_of_mem a ha')

theorem allM_isSome : ∀ {as : List α}, (∀ a ∈ as, (test a).isSome) → (as.allM test).isSome
  | [], _ => rfl
  | a :: as, h => by
    obtain ⟨b, hb⟩ := Option.isSome_iff_exists.mp (h a List.mem_cons_self)
    rw [List.allM_cons, hb]
    cases b with
    | true => exact allM_isSome fun a' ha' => h a' (List.mem_cons_of_mem a ha')
    | false => rfl

end Tests

/-! ## What a computation ends with -/

/-- A computation gives a result with one property, or fails with an error that has another. -/
inductive GivesOr (P : β → Prop) (Q : ε → Prop) : Except ε β → Prop where
  | ok {b : β} (h : P b) : GivesOr P Q (.ok b)
  | error {e : ε} (h : Q e) : GivesOr P Q (.error e)

namespace GivesOr

variable {P : α → Prop} {Q : ε → Prop} {R : β → Prop} {r : Except ε α}

theorem inv (h : GivesOr P Q r) : (∃ a, r = .ok a ∧ P a) ∨ ∃ e, r = .error e ∧ Q e := by
  cases h with
  | ok ha => exact .inl ⟨_, rfl, ha⟩
  | error he => exact .inr ⟨_, rfl, he⟩

/-- What is known of results and errors may be said in another way. -/
theorem imp {P' : α → Prop} {Q' : ε → Prop} (h : GivesOr P Q r) (hresult : ∀ a, P a → P' a)
    (herror : ∀ e, Q e → Q' e) : GivesOr P' Q' r := by
  cases h with
  | ok ha => exact .ok (hresult _ ha)
  | error he => exact .error (herror _ he)

/-- The errors of a computation may be told as others. -/
theorem mapError {ε' : Type} {Q' : ε' → Prop} {g : ε → ε'} (h : GivesOr P Q r)
    (herror : ∀ e, Q e → Q' (g e)) : GivesOr P Q' (r.mapError g) := by
  cases h with
  | ok ha => exact .ok ha
  | error he => exact .error (herror _ he)

/-- **A computation and one that goes on with its result** end like the second one, or with an error
    of the first one. -/
theorem bind (h : GivesOr P Q r) (hnext : ∀ a, P a → GivesOr R Q (f a)) : GivesOr R Q (r >>= f) := by
  cases h with
  | ok ha => exact hnext _ ha
  | error he => exact .error he

/-- A list of computations gives results with a property when every single one does. -/
theorem mapM : ∀ {as : List α}, (∀ a ∈ as, GivesOr R Q (f a)) →
    GivesOr (fun bs => ∀ b ∈ bs, R b) Q (as.mapM f)
  | [], _ => by
    rw [List.mapM_nil]
    exact .ok (List.forall_mem_nil R)
  | a :: as, h => by
    obtain ⟨ha, has⟩ := List.forall_mem_cons.mp h
    rw [List.mapM_cons]
    exact ha.bind fun b hb => (mapM has).bind fun bs hbs => .ok (List.forall_mem_cons.mpr ⟨hb, hbs⟩)

end GivesOr

/-! ## Computations that go alike -/

/-- Two computations fail with the same error, or give results in a relation. -/
inductive BothGive {ε β β' : Type} (R : β → β' → Prop) : Except ε β → Except ε β' → Prop where
  | error (e : ε) : BothGive R (.error e) (.error e)
  | ok {b : β} {b' : β'} : R b b' → BothGive R (.ok b) (.ok b')

namespace BothGive

variable {α' β' : Type} {R : β → β' → Prop}

theorem inv {r : Except ε β} {r' : Except ε β'} (h : BothGive R r r') :
    (∃ e, r = .error e ∧ r' = .error e) ∨ ∃ b b', r = .ok b ∧ r' = .ok b' ∧ R b b' := by
  cases h with
  | error e => exact .inl ⟨e, rfl, rfl⟩
  | ok hb => exact .inr ⟨_, _, rfl, rfl, hb⟩

/-- When one of them gives a result, so does the other. -/
theorem of_ok {r : Except ε β} {r' : Except ε β'} {b : β} (h : BothGive R r r') (hr : r = .ok b) :
    ∃ b', r' = .ok b' ∧ R b b' := by
  subst hr
  cases h with
  | ok hb => exact ⟨_, rfl, hb⟩

/-- Computations that go alike still do when what follows does for the results that they give. -/
theorem bind_of_ok {S : α → α' → Prop} {r : Except ε α} {r' : Except ε α'}
    {next' : α' → Except ε β'} (h : BothGive S r r')
    (hnext : ∀ a a', r = .ok a → r' = .ok a' → S a a' → BothGive R (f a) (next' a')) :
    BothGive R (r >>= f) (r' >>= next') := by
  cases h with
  | error e => exact .error e
  | ok ha => exact hnext _ _ rfl rfl ha

/-- Computations that go alike still do when what follows them does. -/
theorem bind {S : α → α' → Prop} {r : Except ε α} {r' : Except ε α'} {next' : α' → Except ε β'}
    (h : BothGive S r r') (hnext : ∀ a a', S a a' → BothGive R (f a) (next' a')) :
    BothGive R (r >>= f) (r' >>= next') :=
  h.bind_of_ok fun a a' _ _ => hnext a a'

/-- Two computations with the same beginning go alike when they do from there on. -/
theorem bind_same {γ γ' : Type} {S : γ → γ' → Prop} (r : Except ε α) {next : α → Except ε γ}
    {next' : α → Except ε γ'} (hnext : ∀ a, BothGive S (next a) (next' a)) :
    BothGive S (r >>= next) (r >>= next') := by
  cases r with
  | error e => exact .error e
  | ok a => exact hnext a

/-- Computations that go alike still do when their errors are told in other words. -/
theorem mapError {ε' : Type} {r : Except ε β} {r' : Except ε β'} (h : BothGive R r r')
    (tell : ε → ε') : BothGive R (r.mapError tell) (r'.mapError tell) := by
  cases h with
  | error e => exact .error (tell e)
  | ok hb => exact .ok hb

/-- An error of one of them is an error of the other. -/
theorem error_iff {r : Except ε β} {r' : Except ε β'} (h : BothGive R r r') (e : ε) :
    r = .error e ↔ r' = .error e := by
  cases h with
  | error e' =>
    exact ⟨fun he => congrArg Except.error (Except.error.inj he),
      fun he => congrArg Except.error (Except.error.inj he)⟩
  | ok hb => exact iff_of_false nofun nofun

/-- What is known of the results may be said in another way. -/
theorem imp {S : β → β' → Prop} {r : Except ε β} {r' : Except ε β'} (h : BothGive R r r')
    (hresults : ∀ b b', R b b' → S b b') : BothGive S r r' := by
  cases h with
  | error e => exact .error e
  | ok hb => exact .ok (hresults _ _ hb)

/-- A computation goes like itself. -/
theorem refl (r : Except ε β) : BothGive Eq r r := by
  cases r with
  | error e => exact .error e
  | ok b => exact .ok rfl

/-- **Lists of computations that go alike** fail alike, or give results that are in the relation one
    by one. -/
theorem mapM {f' : α' → Except ε β'} {as : List α} {as' : List α'}
    (h : List.Forall₂ (fun a a' => BothGive R (f a) (f' a')) as as') :
    BothGive (List.Forall₂ R) (as.mapM f) (as'.mapM f') := by
  induction h with
  | nil =>
    rw [List.mapM_nil, List.mapM_nil]
    exact .ok .nil
  | cons hhead _ ih =>
    rw [List.mapM_cons, List.mapM_cons]
    exact hhead.bind fun _ _ hb => ih.bind fun _ _ hbs => .ok (.cons hb hbs)

end BothGive

end Reconcile
