import Mathlib.Data.List.Basic
import Mathlib.Data.List.Infix
import Reconcile.Pattern.Matcher

/-!
# The language of a pattern

A pattern without conditions on places, references, and parts that give nothing back is regular: it
stands for a set of texts, and a text matches as a whole when it is in this set. The matcher lists
places and leaves out those that it listed before; for regular patterns nothing but the place counts,
so this loses none.

* `Node.isRegular`, `Node.Takes`: regular patterns and the texts that they stand for;
* `Reads`: a step over places that takes the texts of a language; `reads_thenEnds`, `reads_exactly`:
  steps one after the other, and a number of equal ones;
* `Reached`, `walk_walked`, `reads_walk`: a walk finds the places that repetitions lead to, though it
  goes over none twice;
* `reads_ends`, **`accepts_iff`**: what the matcher accepts.
-/

namespace Reconcile.Pattern

/-! ## 1. Regular patterns -/

/-- A text made of a number of texts of a language. -/
def Repeats (L : List Char → Prop) : Nat → List Char → Prop
  | 0, w => w = []
  | n + 1, w => ∃ u v, w = u ++ v ∧ L u ∧ Repeats L n v

namespace Node

/-- Whether a pattern is made of characters, sequences, alternatives, and repetitions that give back
    what they took. -/
def isRegular : Node → Bool
  | .empty | .one _ | .anyChar _ => true
  | .seq a b | .alt a b => a.isRegular && b.isRegular
  | .loop greed _ _ b => greed != .possessive && b.isRegular
  | .anchor _ | .group _ _ | .backref _ _ _ | .ahead _ _ | .behind _ _ _ | .atomic _
  | .given _ _ _ => false

/-- The texts that a regular pattern stands for. -/
def Takes : Node → List Char → Prop
  | .empty, w => w = []
  | .one set, w => ∃ c, w = [c] ∧ set.has c = true
  | .anyChar dotAll, w => ∃ c, w = [c] ∧ (dotAll || c != '\n') = true
  | .seq a b, w => ∃ u v, w = u ++ v ∧ a.Takes u ∧ b.Takes v
  | .alt a b, w => a.Takes w ∨ b.Takes w
  | .loop _ least most b, w =>
    ∃ more, (∀ m, most.map (· - least) = some m → more ≤ m) ∧ Repeats b.Takes (least + more) w
  | .anchor _, _ | .group _ _, _ | .backref _ _ _, _ | .ahead _ _, _ | .behind _ _ _, _
  | .atomic _, _ | .given _ _ _, _ => False

end Node

/-! ## 2. Steps over places -/

/-- A place further on in the text. -/
def Place.on (p : Place) (n : Nat) : Place := { p with pos := p.pos + n }

theorem Place.on_zero (p : Place) : p.on 0 = p := rfl

theorem Place.on_on (p : Place) (m n : Nat) : (p.on m).on n = p.on (m + n) := by
  rw [Place.on, Place.on, Place.on, Nat.add_assoc]

theorem mem_distinct {ps : List Place} {q : Place} : q ∈ distinct ps ↔ q ∈ ps := by
  have hfold : ∀ (ps acc : List Place),
      q ∈ ps.foldl (fun acc p => if acc.contains p then acc else p :: acc) acc ↔
        q ∈ acc ∨ q ∈ ps := by
    intro ps
    induction ps with
    | nil => simp
    | cons p ps ih =>
      intro acc
      rw [List.foldl_cons, ih, List.mem_cons]
      split
      · next h =>
        have hp := List.contains_iff_mem.mp h
        constructor
        · rintro (h | h)
          · exact .inl h
          · exact .inr (.inr h)
        · rintro (h | rfl | h)
          · exact .inl h
          · exact .inl hp
          · exact .inr h
      · rw [List.mem_cons, or_assoc, or_left_comm]
  rw [distinct, List.mem_reverse, hfold]
  simp

theorem mem_thenEnds {ps : List Place} {step : Place → List Place} {q : Place} :
    q ∈ thenEnds ps step ↔ ∃ p ∈ ps, q ∈ step p := by
  unfold thenEnds
  split
  · simp
  · rw [mem_distinct, List.mem_flatMap]

/-- A text stands at the front of another when its first part does, and the rest behind it. -/
theorem append_prefix_iff {u v l : List Char} :
    u ++ v <+: l ↔ u <+: l ∧ v <+: l.drop u.length := by
  constructor
  · rintro ⟨t, rfl⟩
    rw [List.append_assoc, List.drop_left]
    exact ⟨List.prefix_append _ _, List.prefix_append _ _⟩
  · rintro ⟨⟨t, rfl⟩, h⟩
    rw [List.drop_left] at h
    exact (List.prefix_append_right_inj u).mpr h

/-- A step that takes the texts of a language, wherever they stand. -/
def Reads (text : Array Char) (step : Place → List Place) (L : List Char → Prop) : Prop :=
  ∀ p q : Place, p.pos ≤ text.size →
    (q ∈ step p ↔ ∃ w, w <+: text.toList.drop p.pos ∧ L w ∧ q = p.on w.length)

section Steps

variable {text : Array Char} {step next : Place → List Place} {L M : List Char → Prop}

theorem pos_le_of_isPrefix {p : Place} {w : List Char} (hp : p.pos ≤ text.size)
    (h : w <+: text.toList.drop p.pos) : (p.on w.length).pos ≤ text.size := by
  have hlength := h.length_le
  rw [List.length_drop] at hlength
  have hsize : text.toList.length = text.size := rfl
  show p.pos + w.length ≤ text.size
  omega

/-- **Two steps, one after the other**, take a text of the first language and then one of the
    second. -/
theorem reads_thenEnds (h : Reads text step L) (hnext : Reads text next M) :
    Reads text (fun p => thenEnds (step p) next) fun w => ∃ u v, w = u ++ v ∧ L u ∧ M v := by
  intro p r hp
  rw [mem_thenEnds]
  constructor
  · rintro ⟨q, hq, hr⟩
    obtain ⟨u, hu, hL, rfl⟩ := (h p q hp).mp hq
    obtain ⟨v, hv, hM, rfl⟩ := (hnext _ r (pos_le_of_isPrefix hp hu)).mp hr
    refine ⟨u ++ v, append_prefix_iff.mpr ⟨hu, ?_⟩, ⟨u, v, rfl, hL, hM⟩, ?_⟩
    · rw [List.drop_drop]
      exact hv
    · rw [List.length_append, Place.on_on]
  · rintro ⟨_, hw, ⟨u, v, rfl, hL, hM⟩, rfl⟩
    obtain ⟨hu, hv⟩ := append_prefix_iff.mp hw
    rw [List.drop_drop] at hv
    refine ⟨p.on u.length, (h p _ hp).mpr ⟨u, hu, hL, rfl⟩,
      (hnext _ _ (pos_le_of_isPrefix hp hu)).mpr ⟨v, hv, hM, ?_⟩⟩
    rw [List.length_append, Place.on_on]

theorem reads_here (text : Array Char) : Reads text (fun p => [p]) fun w => w = [] := by
  intro p q _
  rw [List.mem_singleton]
  constructor
  · rintro rfl
    exact ⟨[], List.nil_prefix, rfl, rfl⟩
  · rintro ⟨_, _, rfl, rfl⟩
    rfl

theorem reads_oneEnd (text : Array Char) (test : Char → Bool) :
    Reads text (oneEnd text test) fun w => ∃ c, w = [c] ∧ test c = true := by
  intro p q hp
  have hchar : ∀ c, [c] <+: text.toList.drop p.pos ↔ text[p.pos]? = some c := fun c => by
    rw [← Array.getElem?_toList, ← List.head?_drop]
    cases text.toList.drop p.pos with
    | nil => simp
    | cons d rest => simp [eq_comm]
  unfold oneEnd
  constructor
  · intro hq
    cases hc : text[p.pos]? with
    | none =>
      rw [hc] at hq
      cases hq
    | some c =>
      rw [hc] at hq
      dsimp only at hq
      split at hq
      · next htest =>
        exact ⟨[c], (hchar c).mpr hc, ⟨c, rfl, htest⟩, List.mem_singleton.mp hq⟩
      · cases hq
  · rintro ⟨_, hw, ⟨c, rfl, htest⟩, rfl⟩
    rw [(hchar c).mp hw]
    dsimp only
    rw [if_pos htest]
    exact List.mem_singleton_self _

/-! ## 3. Repetitions -/

/-- A count that stops early stops where it would go on in the same places. -/
theorem exactly_eq_iterate (step : Place → List Place) : ∀ (n : Nat) (ps : List Place),
    exactly step n ps = (fun qs => thenEnds qs step)^[n] ps
  | 0, _ => rfl
  | n + 1, ps => by
    have hstay : ∀ (n : Nat) {qs : List Place}, thenEnds qs step = qs →
        (fun qs => thenEnds qs step)^[n] qs = qs := fun n qs h => Function.iterate_fixed h n
    rw [exactly, Function.iterate_succ_apply]
    split
    · next h => rw [eq_of_beq h, hstay n (eq_of_beq h)]
    · split
      · next h =>
        rw [List.isEmpty_iff.mp h, hstay n rfl]
      · exact exactly_eq_iterate step n _

theorem repeats_succ_iff : ∀ {n : Nat} {w : List Char},
    Repeats L (n + 1) w ↔ ∃ u v, w = u ++ v ∧ Repeats L n u ∧ L v
  | 0, w => by
    constructor
    · rintro ⟨u, v, rfl, hu, hv⟩
      exact ⟨[], u, by rw [show v = [] from hv, List.append_nil, List.nil_append], rfl, hu⟩
    · rintro ⟨u, v, rfl, hu, hv⟩
      exact ⟨v, [], by rw [show u = [] from hu, List.append_nil, List.nil_append], hv, rfl⟩
  | n + 1, w => by
    constructor
    · rintro ⟨u, v, rfl, hu, hv⟩
      obtain ⟨x, y, rfl, hx, hy⟩ := repeats_succ_iff.mp hv
      exact ⟨u ++ x, y, (List.append_assoc _ _ _).symm, ⟨u, x, rfl, hu, hx⟩, hy⟩
    · rintro ⟨_, y, rfl, ⟨u, x, rfl, hu, hx⟩, hy⟩
      exact ⟨u, x ++ y, List.append_assoc _ _ _, hu, repeats_succ_iff.mpr ⟨x, y, rfl, hx, hy⟩⟩

/-- **A number of equal steps** takes as many texts of the language. -/
theorem reads_exactly (h : Reads text step L) : ∀ n : Nat,
    Reads text (fun p => exactly step n [p]) (Repeats L n)
  | 0 => reads_here text
  | n + 1 => by
    intro p q hp
    have ih := reads_exactly h n
    simp only [exactly_eq_iterate, repeats_succ_iff] at ih ⊢
    rw [Function.iterate_succ_apply']
    exact reads_thenEnds ih h p q hp

/-! ## 4. Walks -/

/-- The places that repetitions lead to, at most the given number of them, each of which goes on. -/
inductive Reached (step : Place → List Place) : Option Nat → Place → Place → Prop where
  | here (left : Option Nat) (p : Place) : Reached step left p p
  | more {left : Option Nat} {p q r : Place} (hleft : left ≠ some 0) (hq : q ∈ step p)
    (hmoves : q.pos ≠ p.pos) (h : Reached step (fewer left) q r) : Reached step left p r

/-- A step within a text that goes nowhere or forwards. -/
def GoesOn (text : Array Char) (step : Place → List Place) : Prop :=
  ∀ p, p.pos ≤ text.size → ∀ q ∈ step p, p.pos ≤ q.pos ∧ q.pos ≤ text.size ∧ (q.pos = p.pos → q = p)

theorem Reads.goesOn (h : Reads text step L) : GoesOn text step := by
  intro p hp q hq
  obtain ⟨w, hw, _, rfl⟩ := (h p q hp).mp hq
  refine ⟨Nat.le_add_right _ _, pos_le_of_isPrefix hp hw, fun hstay => ?_⟩
  have hnone : w.length = 0 := Nat.add_eq_left.mp hstay
  rw [hnone, Place.on_zero]

/-- What has to hold of the places that a walk has seen, from a position on: it found all that they
    lead to. -/
def Settled (step : Place → List Place) (pos : Nat) (w : Walk) : Prop :=
  ∀ x ∈ w.seen, pos ≤ x.1.pos → ∀ r, Reached step x.2 x.1 r → r ∈ w.found

/-- What a walk from a place adds to another one: all the places that are reached from it, and only
    these. -/
structure Walked (step : Place → List Place) (left : Option Nat) (p : Place) (w w' : Walk) :
    Prop where
  kept : ∀ r ∈ w.found, r ∈ w'.found
  reached : ∀ r, Reached step left p r → r ∈ w'.found
  sound : ∀ r ∈ w'.found, r ∈ w.found ∨ Reached step left p r
  seen : ∀ x ∈ w'.seen, x ∈ w.seen ∨ p.pos ≤ x.1.pos
  settled : Settled step p.pos w'

theorem mem_emit {w : Walk} {p r : Place} : r ∈ (w.emit p).found ↔ r = p ∨ r ∈ w.found := by
  unfold Walk.emit
  split
  · next h =>
    constructor
    · exact .inr
    · rintro (rfl | hr)
      · exact List.contains_iff_mem.mp h
      · exact hr
  · exact List.mem_cons

theorem emit_seen (w : Walk) (p : Place) : (w.emit p).seen = w.seen := by
  unfold Walk.emit
  split <;> rfl

variable {left : Option Nat} {p : Place}

/-- A walk from a place that has gone on from some of the places behind it. The place itself is seen
    but not settled: what it leads to is found when all of them were gone on from. -/
structure Passing (step : Place → List Place) (left : Option Nat) (p : Place) (w : Walk)
    (done : List Place) (w' : Walk) : Prop where
  kept : ∀ r ∈ w.found, r ∈ w'.found
  reached : ∀ q ∈ done, q.pos ≠ p.pos → ∀ r, Reached step (fewer left) q r → r ∈ w'.found
  sound : ∀ r ∈ w'.found, r ∈ w.found ∨ Reached step left p r
  seen : ∀ x ∈ w'.seen, x ∈ w.seen ∨ p.pos ≤ x.1.pos
  settled : ∀ x ∈ w'.seen, p.pos ≤ x.1.pos →
    x = (p, left) ∨ ∀ r, Reached step x.2 x.1 r → r ∈ w'.found

/-- A walk may list its own place at any time. -/
theorem Passing.emit {w w' : Walk} {done : List Place} (h : Passing step left p w done w') :
    Passing step left p w done (w'.emit p) where
  kept r hr := mem_emit.mpr (.inr (h.kept r hr))
  reached q hq hmoves r hr := mem_emit.mpr (.inr (h.reached q hq hmoves r hr))
  sound r hr := by
    rcases mem_emit.mp hr with rfl | hr
    · exact .inr (.here left r)
    · exact h.sound r hr
  seen x hx := h.seen x (emit_seen w' p ▸ hx)
  settled x hx hpos := (h.settled x (emit_seen w' p ▸ hx) hpos).imp_right
    fun hall r hr => mem_emit.mpr (.inr (hall r hr))

/-- A place behind that goes on is walked from; nothing seen so far that is as far is unsettled, as
    positions only grow on the way here. -/
theorem Passing.settled_behind {w w' : Walk} {done : List Place}
    (h : Passing step left p w done w') {q : Place} (hforward : p.pos < q.pos) :
    Settled step q.pos w' := by
  intro x hx hpos
  refine (h.settled x hx (by omega)).resolve_left ?_
  rintro rfl
  exact absurd hpos (Nat.not_le.mpr hforward)

/-- One more place behind is gone on from. -/
theorem Passing.behind {w w' w'' : Walk} {done : List Place} {q : Place}
    (h : Passing step left p w done w') (hleft : left ≠ some 0) (hq : q ∈ step p)
    (hforward : p.pos < q.pos) (hwalked : Walked step (fewer left) q w' w'') :
    Passing step left p w (done ++ [q]) w'' where
  kept r hr := hwalked.kept r (h.kept r hr)
  reached x hx hmoves r hr := by
    rcases List.mem_append.mp hx with hx | hx
    · exact hwalked.kept r (h.reached x hx hmoves r hr)
    · obtain rfl := List.mem_singleton.mp hx
      exact hwalked.reached r hr
  sound r hr := by
    rcases hwalked.sound r hr with hr | hr
    · exact h.sound r hr
    · exact .inr (.more hleft hq hforward.ne' hr)
  seen x hx := by
    rcases hwalked.seen x hx with hx | hx
    · exact h.seen x hx
    · exact .inr (by omega)
  settled x hx hpos := by
    by_cases hbehind : q.pos ≤ x.1.pos
    · exact .inr (hwalked.settled x hx hbehind)
    · have hbefore := (hwalked.seen x hx).resolve_right hbehind
      exact (h.settled x hbefore hpos).imp_right fun hall r hr => hwalked.kept r (hall r hr)

/-- A place behind that is this one again adds nothing but itself. -/
theorem Passing.again {w w' : Walk} {done : List Place} (h : Passing step left p w done w') :
    Passing step left p w (done ++ [p]) (w'.emit p) where
  kept := h.emit.kept
  reached q hq hmoves := by
    rcases List.mem_append.mp hq with hq | hq
    · exact h.emit.reached q hq hmoves
    · exact absurd (congrArg Place.pos (List.mem_singleton.mp hq)) hmoves
  sound := h.emit.sound
  seen := h.emit.seen
  settled := h.emit.settled

/-- All places behind are gone on from, one by one. -/
theorem Passing.fold (hstep : GoesOn text step) (hp : p.pos ≤ text.size) (hleft : left ≠ some 0)
    {next : Place → Walk → Walk} (hnext : ∀ (q : Place) (w : Walk), p.pos < q.pos →
      q.pos ≤ text.size → Settled step q.pos w → Walked step (fewer left) q w (next q w))
    {w : Walk} : ∀ {qs done : List Place} {w' : Walk}, (∀ q ∈ qs, q ∈ step p) →
      Passing step left p w done w' → Passing step left p w (done ++ qs)
        (qs.foldl (fun w q => if q.pos == p.pos then w.emit q else next q w) w')
  | [], _, _, _, h => by rwa [List.append_nil]
  | q :: qs, _, w', hqs, h => by
    obtain ⟨hq, hqs⟩ := List.forall_mem_cons.mp hqs
    obtain ⟨hforward, hin, hstay⟩ := hstep p hp q hq
    rw [List.append_cons, List.foldl_cons]
    refine Passing.fold hstep hp hleft hnext hqs ?_
    by_cases hsame : q.pos = p.pos
    · obtain rfl := hstay hsame
      rw [if_pos (beq_self_eq_true _)]
      exact h.again
    · have hlt : p.pos < q.pos := by omega
      rw [if_neg (beq_iff_eq.not.mpr hsame)]
      exact h.behind hleft hq hlt (hnext q w' hlt hin (h.settled_behind hlt))

theorem Passing.start {w : Walk} (hsettled : Settled step p.pos w) :
    Passing step left p w [] { w with seen := (p, left) :: w.seen } where
  kept _ hr := hr
  reached _ hq := absurd hq List.not_mem_nil
  sound _ hr := .inl hr
  seen x hx := by
    rcases List.mem_cons.mp hx with rfl | hx
    · exact .inr (Nat.le_refl _)
    · exact .inl hx
  settled x hx hpos := by
    rcases List.mem_cons.mp hx with rfl | hx
    · exact .inl rfl
    · exact .inr (hsettled x hx hpos)

/-- The same walk, seen from where it is. -/
theorem Passing.here {w w' : Walk} {done : List Place} (h : Passing step left p w done w') :
    Passing step left p w' done w' :=
  ⟨fun _ hr => hr, h.reached, fun _ hr => .inl hr, fun _ hx => .inl hx, h.settled⟩

/-- When all places behind were gone on from and the place itself is listed, it is settled as well. -/
theorem Passing.finish {w w' : Walk} {done : List Place} (h : Passing step left p w done w')
    (hall : left ≠ some 0 → done = step p) (hp : p ∈ w'.found) : Walked step left p w w' := by
  have hreached : ∀ r, Reached step left p r → r ∈ w'.found := fun r hr => by
    cases hr with
    | here => exact hp
    | more hleft hq hmoves hr => exact h.reached _ (hall hleft ▸ hq) hmoves r hr
  refine ⟨h.kept, hreached, h.sound, h.seen, fun x hx hpos => ?_⟩
  rcases h.settled x hx hpos with rfl | hx
  · exact hreached
  · exact hx

/-- **A walk finds what its place leads to**, when the places seen before are settled as far on as it
    is. -/
theorem walk_walked (hstep : GoesOn text step) (lazy : Bool) : ∀ (fuel : Nat) (left : Option Nat)
    (p : Place) (w : Walk), p.pos ≤ text.size → text.size < fuel + p.pos → Settled step p.pos w →
    Walked step left p w (walk step lazy fuel left p w)
  | 0, _, _, _, hp, hfuel, _ => absurd hfuel (by omega)
  | fuel + 1, left, p, w, hp, hfuel, hsettled => by
    have hnext : ∀ (q : Place) (w : Walk), p.pos < q.pos → q.pos ≤ text.size →
        Settled step q.pos w →
        Walked step (fewer left) q w (walk step lazy fuel (fewer left) q w) := fun q w hq hin =>
      walk_walked hstep lazy fuel _ q w hin (by omega)
    have hgone : ∀ w₀ w', Passing step left p w₀ [] w' →
        Passing step left p w₀ (if left == some 0 then [] else step p) (if left == some 0 then w'
          else (step p).foldl (fun w q =>
            if q.pos == p.pos then w.emit q else walk step lazy fuel (fewer left) q w) w') := by
      intro w₀ w' h
      split
      · exact h
      · next hleft => exact h.fold hstep hp (beq_iff_eq.not.mp hleft) hnext fun _ hq => hq
    have hall : left ≠ some 0 → (if left == some 0 then [] else step p) = step p := fun hleft =>
      if_neg (beq_iff_eq.not.mpr hleft)
    unfold walk
    split
    · next hseen =>
      have hp := hsettled _ (List.contains_iff_mem.mp hseen) (Nat.le_refl _)
      exact ⟨fun _ hr => hr, hp, fun _ hr => .inl hr, fun _ hx => .inl hx, hsettled⟩
    · cases lazy with
      | true =>
        have h : Passing step left p w [] _ := (Passing.start hsettled).emit
        exact (hgone _ _ h).finish hall ((hgone _ _ h.here).kept p (mem_emit.mpr (.inl rfl)))
      | false =>
        exact (hgone _ _ (Passing.start hsettled)).emit.finish hall (mem_emit.mpr (.inl rfl))

/-- The places that are reached are those that texts of the language lead to. -/
theorem reached_iff (h : Reads text step L) : ∀ {left : Option Nat} {p r : Place},
    p.pos ≤ text.size → (Reached step left p r ↔ ∃ w, w <+: text.toList.drop p.pos ∧
      (∃ n, (∀ m, left = some m → n ≤ m) ∧ Repeats L n w) ∧ r = p.on w.length) := by
  intro left p r hp
  constructor
  · intro hreached
    induction hreached with
    | here left p => exact ⟨[], List.nil_prefix, ⟨0, fun _ _ => Nat.zero_le _, rfl⟩, rfl⟩
    | @more left p q r hleft hq hmoves _ ih =>
      obtain ⟨u, hu, hL, rfl⟩ := (h p q hp).mp hq
      obtain ⟨v, hv, ⟨n, hn, hrepeats⟩, rfl⟩ := ih (pos_le_of_isPrefix hp hu)
      refine ⟨u ++ v, append_prefix_iff.mpr ⟨hu, ?_⟩, ⟨n + 1, ?_, u, v, rfl, hL, hrepeats⟩, ?_⟩
      · rw [List.drop_drop]
        exact hv
      · rintro m rfl
        have hm := hn (m - 1) rfl
        have hne : m ≠ 0 := fun h => hleft (congrArg some h)
        omega
      · rw [List.length_append, Place.on_on]
  · rintro ⟨w, hw, ⟨n, hn, hrepeats⟩, rfl⟩
    induction n generalizing left p w with
    | zero =>
      obtain rfl : w = [] := hrepeats
      exact .here left p
    | succ n ih =>
      obtain ⟨u, v, rfl, hL, hrepeats⟩ := hrepeats
      obtain ⟨hu, hv⟩ := append_prefix_iff.mp hw
      rw [List.drop_drop] at hv
      by_cases hempty : u = []
      · subst hempty
        exact ih hp v hw (fun m hm => Nat.le_of_succ_le (hn m hm)) hrepeats
      · have hlength : u.length ≠ 0 := List.length_eq_zero_iff.not.mpr hempty
        have hleft : left ≠ some 0 := fun h0 => absurd (hn 0 h0) (Nat.not_succ_le_zero n)
        refine .more hleft ((h p _ hp).mpr ⟨u, hu, hL, rfl⟩) (Nat.add_eq_left.not.mpr hlength) ?_
        rw [List.length_append, ← Place.on_on]
        refine ih (pos_le_of_isPrefix hp hu) v hv (fun m hm => ?_) hrepeats
        obtain ⟨k, rfl, rfl⟩ := Option.map_eq_some_iff.mp hm
        have := hn k rfl
        omega

/-- **A walk takes up to the given number of texts** of the language, in whatever order. -/
theorem reads_walk (h : Reads text step L) (lazy : Bool) (left : Option Nat) :
    Reads text (fun p => (walk step lazy (text.size + 1 - p.pos) left p ⟨[], []⟩).found.reverse)
      fun w => ∃ n, (∀ m, left = some m → n ≤ m) ∧ Repeats L n w := by
  intro p r hp
  have hwalked := walk_walked h.goesOn lazy (text.size + 1 - p.pos) left p ⟨[], []⟩ hp (by omega)
    fun _ hx => absurd hx List.not_mem_nil
  rw [List.mem_reverse, ← reached_iff h hp]
  exact ⟨fun hr => (hwalked.sound r hr).resolve_left List.not_mem_nil, hwalked.reached r⟩

end Steps

/-! ## 5. Patterns -/

theorem repeats_add {L : List Char → Prop} : ∀ {m n : Nat} {w : List Char},
    Repeats L (m + n) w ↔ ∃ u v, w = u ++ v ∧ Repeats L m u ∧ Repeats L n v
  | 0, n, w => by
    rw [Nat.zero_add]
    constructor
    · exact fun h => ⟨[], w, rfl, rfl, h⟩
    · rintro ⟨u, v, rfl, hu, hv⟩
      rwa [show u = [] from hu, List.nil_append]
  | m + 1, n, w => by
    rw [Nat.succ_add]
    constructor
    · rintro ⟨u, v, rfl, hu, hv⟩
      obtain ⟨x, y, rfl, hx, hy⟩ := repeats_add.mp hv
      exact ⟨u ++ x, y, (List.append_assoc _ _ _).symm, ⟨u, x, rfl, hu, hx⟩, hy⟩
    · rintro ⟨_, y, rfl, ⟨u, x, rfl, hu, hx⟩, hy⟩
      exact ⟨u, x ++ y, List.append_assoc _ _ _, hu, repeats_add.mpr ⟨x, y, rfl, hx, hy⟩⟩

theorem takes_loop_iff {greed : Greed} {least : Nat} {most : Option Nat} {n : Node}
    {w : List Char} : (Node.loop greed least most n).Takes w ↔ ∃ u v, w = u ++ v ∧
      Repeats n.Takes least u ∧
        ∃ k, (∀ m, most.map (· - least) = some m → k ≤ m) ∧ Repeats n.Takes k v := by
  constructor
  · rintro ⟨k, hk, hrepeats⟩
    obtain ⟨u, v, rfl, hu, hv⟩ := repeats_add.mp hrepeats
    exact ⟨u, v, rfl, hu, k, hk, hv⟩
  · rintro ⟨u, v, rfl, hu, k, hk, hv⟩
    exact ⟨k, hk, repeats_add.mpr ⟨u, v, rfl, hu, hv⟩⟩

/-- A repeated part takes its texts as often as it may. -/
theorem reads_loop {text : Array Char} {n : Node} {greed : Greed} (hgreed : greed ≠ .possessive)
    (least : Nat) (most : Option Nat) (h : Reads text (ends text n) n.Takes) :
    Reads text (ends text (.loop greed least most n)) (Node.loop greed least most n).Takes := by
  have hends : ∀ p, ends text (.loop greed least most n) p =
      thenEnds (exactly (ends text n) least [p]) fun q => (walk (ends text n) (greed == .lazy)
        (text.size + 1 - q.pos) (most.map (· - least)) q ⟨[], []⟩).found.reverse := by
    intro p
    cases greed with
    | greedy => rfl
    | lazy => rfl
    | possessive => exact absurd rfl hgreed
  intro p q hp
  simp only [hends, takes_loop_iff]
  exact reads_thenEnds (reads_exactly h least) (reads_walk h (greed == .lazy) _) p q hp

/-- **A regular pattern ends where one of its texts does.** -/
theorem reads_ends (text : Array Char) : ∀ n : Node, n.isRegular = true →
    Reads text (ends text n) n.Takes
  | .empty, _ => reads_here text
  | .one set, _ => reads_oneEnd text set.has
  | .anyChar dotAll, _ => reads_oneEnd text fun c => dotAll || c != '\n'
  | .seq a b, h => by
    rw [Node.isRegular, Bool.and_eq_true] at h
    exact reads_thenEnds (reads_ends text a h.1) (reads_ends text b h.2)
  | .alt a b, h => by
    rw [Node.isRegular, Bool.and_eq_true] at h
    intro p q hp
    rw [ends, mem_distinct, List.mem_append, reads_ends text a h.1 p q hp,
      reads_ends text b h.2 p q hp, ← exists_or]
    refine exists_congr fun w => ?_
    rw [← and_or_left, ← or_and_right]
    rfl
  | .loop greed least most n, h => by
    rw [Node.isRegular, Bool.and_eq_true, bne_iff_ne] at h
    exact reads_loop h.1 least most (reads_ends text n h.2)

/-- **A regular pattern accepts the texts that it stands for.** -/
theorem accepts_iff {n : Node} (h : n.isRegular = true) (s : String) :
    n.accepts s = true ↔ n.Takes s.toList := by
  have hreads := reads_ends s.toList.toArray n h
  show (ends s.toList.toArray n Place.origin).any (·.pos == s.toList.toArray.size) = true ↔ _
  rw [List.any_eq_true]
  constructor
  · rintro ⟨q, hq, hend⟩
    obtain ⟨w, hw, htakes, rfl⟩ := (hreads _ q (Nat.zero_le _)).mp hq
    have hlength : w.length = s.toList.length := by simpa [Place.on, Place.origin] using hend
    have hwhole : w = s.toList := hw.eq_of_length hlength
    rwa [hwhole] at htakes
  · intro htakes
    refine ⟨Place.origin.on s.toList.length, (hreads _ _ (Nat.zero_le _)).mpr
      ⟨s.toList, List.prefix_rfl, htakes, rfl⟩, ?_⟩
    simp [Place.on, Place.origin]

/-! ## 6. Sequences -/

theorem takes_sequence_cons {n : Node} {ns : List Node} {w : List Char} :
    (Node.sequence (n :: ns)).Takes w ↔
      ∃ u v, w = u ++ v ∧ n.Takes u ∧ (Node.sequence ns).Takes v := by
  cases ns with
  | nil =>
    constructor
    · exact fun h => ⟨w, [], (List.append_nil w).symm, h, rfl⟩
    · rintro ⟨u, v, rfl, hu, hv⟩
      rwa [show v = [] from hv, List.append_nil]
  | cons m ns => exact Iff.rfl

/-- **A sequence takes a text for its first parts and one for the others.** -/
theorem takes_sequence_append : ∀ {ns ms : List Node} {w : List Char},
    (Node.sequence (ns ++ ms)).Takes w ↔ ∃ u v, w = u ++ v ∧ (Node.sequence ns).Takes u ∧
      (Node.sequence ms).Takes v
  | [], ms, w => by
    constructor
    · exact fun h => ⟨[], w, rfl, rfl, h⟩
    · rintro ⟨u, v, rfl, hu, hv⟩
      rwa [show u = [] from hu, List.nil_append]
  | n :: ns, ms, w => by
    rw [List.cons_append, takes_sequence_cons]
    constructor
    · rintro ⟨u, v, rfl, hu, hv⟩
      obtain ⟨x, y, rfl, hx, hy⟩ := takes_sequence_append.mp hv
      exact ⟨u ++ x, y, (List.append_assoc _ _ _).symm, takes_sequence_cons.mpr ⟨u, x, rfl, hu, hx⟩, hy⟩
    · rintro ⟨_, y, rfl, hux, hy⟩
      obtain ⟨u, x, rfl, hu, hx⟩ := takes_sequence_cons.mp hux
      exact ⟨u, x ++ y, List.append_assoc _ _ _, hu, takes_sequence_append.mpr ⟨x, y, rfl, hx, hy⟩⟩

theorem isRegular_sequence : ∀ {ns : List Node},
    (Node.sequence ns).isRegular = true ↔ ∀ n ∈ ns, n.isRegular = true
  | [] => by simp [Node.sequence, Node.isRegular]
  | [n] => by simp [Node.sequence]
  | n :: m :: ns => by
    show (n.isRegular && (Node.sequence (m :: ns)).isRegular) = true ↔ _
    rw [Bool.and_eq_true, isRegular_sequence, List.forall_mem_cons (a := n)]

theorem isRegular_alternatives : ∀ {ns : List Node},
    (Node.alternatives ns).isRegular = true ↔ ∀ n ∈ ns, n.isRegular = true
  | [] => by simp [Node.alternatives, Node.isRegular]
  | [n] => by simp [Node.alternatives]
  | n :: m :: ns => by
    show (n.isRegular && (Node.alternatives (m :: ns)).isRegular) = true ↔ _
    rw [Bool.and_eq_true, isRegular_alternatives, List.forall_mem_cons (a := n)]

theorem takes_literal {c : Char} {w : List Char} : (Node.literal c).Takes w ↔ w = [c] := by
  have hhas : ∀ d : Char, CharSet.has { items := [.code c.toNat] } d = true ↔ d = c := fun d => by
    rw [← Char.toNat_inj]
    simp [CharSet.has, Item.has, eq_comm]
  constructor
  · rintro ⟨d, rfl, hd⟩
    rw [(hhas d).mp hd]
  · rintro rfl
    exact ⟨c, rfl, (hhas c).mpr rfl⟩

/-- The characters of a text, one after the other, take this text. -/
theorem takes_literals : ∀ {cs w : List Char},
    (Node.sequence (cs.map Node.literal)).Takes w ↔ w = cs
  | [], w => Iff.rfl
  | c :: cs, w => by
    rw [List.map_cons, takes_sequence_cons]
    simp only [takes_literal, takes_literals]
    constructor
    · rintro ⟨_, _, rfl, rfl, rfl⟩
      rfl
    · rintro rfl
      exact ⟨[c], cs, rfl, rfl, rfl⟩

end Reconcile.Pattern
