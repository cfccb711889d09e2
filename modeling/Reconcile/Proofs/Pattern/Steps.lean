import Mathlib.Data.List.Basic
import Reconcile.Proofs.Pattern.Marks
import Reconcile.Proofs.Pattern.Moves

/-!
# Steps of the reader of patterns

A step of the reader that leads on within a regular pattern is a move on its stack. It is told by the
options and the tokens alone which one, so the same step is made in any other state that has them,
with any more tokens behind, as long as no mark is joined with these.

* `NoMark`: nothing first that belongs to a repetition mark; `Makes`, `MovesTo`: readers that move;
* `repeatPart_moves`, `readExtension_moves`: repetition marks and brackets;
* `not_sound_of_readNameExtension`, `not_quiet_of_readCondition`, `not_sound_of_global`: what a
  regular pattern does not have;
* `Fit`: the states that a regular pattern is read through; `set_movesTo`, `open_movesTo`,
  `count_movesTo`, **`readChar_movesTo`**: characters;
* **`step_moves`**: all steps.
-/

namespace Reconcile.Pattern

open Reconcile.Text

/-! ## 1. Readers that make a move -/

/-- No mark stands first that a repetition mark before it would take. -/
structure NoMark (more : List Sign) : Prop where
  question : more.head? ≠ some (.plain '?')
  plus : more.head? ≠ some (.plain '+')

/-- A reader makes the move wherever it can be made, and leaves the given tokens. -/
def Makes (m : Move) (options : Options) (left : List Token)
    (reader : State → Except Fault State) : Prop :=
  ∀ s, s.options = options → Quiet s → (∃ ls, m.on s.levels = some ls) →
    ∃ next, reader s = .ok next ∧ Moved left m s next

/-- How a repetition mark is followed by one that says how to repeat. -/
def readGreed (left : List Token) : Except Fault (Greed × List Token) :=
  accept? '?' left >>= fun
    | some more => .ok (.lazy, more)
    | none => accept? '+' left >>= fun
      | some more => .ok (.possessive, more)
      | none => .ok (.greedy, left)

theorem carries_greed {left rest : List Token} {greed : Greed}
    (h : readGreed left = .ok (greed, rest)) :
    Carries left rest (fun more => left = [] → NoMark more)
      fun l r => readGreed l = .ok (greed, r) := by
  obtain ⟨lazy, hlazy, h⟩ := bind_ok_iff.mp h
  cases lazy with
  | some more =>
    obtain ⟨rfl, rfl⟩ := Prod.mk.inj (Except.ok.inj h)
    refine (carries_accept hlazy).imp (fun _ _ => trivial) fun l r hr => ?_
    rw [readGreed, hr]
    rfl
  | none =>
    obtain ⟨possessive, hpossessive, h⟩ := bind_ok_iff.mp h
    cases possessive with
    | some more =>
      obtain ⟨rfl, rfl⟩ := Prod.mk.inj (Except.ok.inj h)
      refine (carries_refuse hlazy).andThen (carries_accept hpossessive)
        (fun _ h => ⟨fun hnil => (h hnil).question, trivial⟩) ?_
      rintro l _ r ⟨hrefuse, rfl⟩ hr
      simp only [readGreed, hrefuse, hr, bind, Except.bind]
    | none =>
      obtain ⟨rfl, rfl⟩ := Prod.mk.inj (Except.ok.inj h)
      refine (carries_refuse hlazy).andThen (carries_refuse hpossessive)
        (fun _ h => ⟨fun hnil => (h hnil).question, fun hnil => (h hnil).plus⟩) ?_
      rintro l _ _ ⟨hlazy, rfl⟩ ⟨hpossessive, rfl⟩
      simp only [readGreed, hlazy, hpossessive, bind, Except.bind]

/-- The words of the fault that a repetition mark in a template is. -/
def repeatName : Greed → String
  | .greedy => "MAX_REPEAT"
  | .lazy => "MIN_REPEAT"
  | .possessive => "POSSESSIVE_REPEAT"

theorem repeatPart_eq {s : State} {n : Node} {parts : List Part} (hparts : s.parts = .other n :: parts)
    (pos : Nat) (count : Count) (left : List Token) :
    repeatPart s pos count left = readGreed left >>= fun (greed, left) =>
      .ok { (if s.options.template then s.noteLate (.templateRepeat (repeatName greed)) else s) with
        parts := .loop (.loop greed count.least count.most n) :: parts, left } := by
  rw [repeatPart, hparts, readGreed]
  cases accept? '?' left with
  | error e => rfl
  | ok lazy =>
    cases lazy with
    | some more => rfl
    | none =>
      simp only [bind, Except.bind, pure, Except.pure]
      cases accept? '+' left with
      | error e => rfl
      | ok possessive => cases possessive <;> rfl

/-- **A repetition mark** makes a move, which the mark behind it belongs to. -/
theorem repeatPart_moves {s next : State} {pos : Nat} {count : Count} {left : List Token}
    (h : repeatPart s pos count left = .ok next) (hquiet : Quiet next) :
    ∃ m, Moved next.left m s next ∧ Carries left next.left (fun more => left = [] → NoMark more)
      fun l r => ∀ pos', Makes m s.options r fun s' => repeatPart s' pos' count l := by
  have hparts : ∃ n parts, s.parts = .other n :: parts := by
    unfold repeatPart at h
    split at h
    · cases h
    · cases h
    · cases h
    · next n parts hparts => exact ⟨n, parts, hparts⟩
  obtain ⟨n, parts, hparts⟩ := hparts
  rw [repeatPart_eq hparts] at h
  obtain ⟨⟨greed, rest⟩, hgreed, h⟩ := bind_ok_iff.mp h
  obtain rfl := Except.ok.inj h
  -- in a template the repetition would have been noted as a late fault
  have htemplate : s.options.template = false := by
    by_contra htemplate
    rw [Bool.not_eq_false] at htemplate
    have hlate := hquiet.late
    simp only [htemplate, if_true, State.noteLate] at hlate
    cases hold : s.late <;> simp [hold] at hlate
  refine ⟨.repeat greed count.least count.most, ?_, (carries_greed hgreed).imp (fun _ h => h) ?_⟩
  · simp only [htemplate, Bool.false_eq_true, if_false]
    exact .repeat greed count.least count.most hparts
  · rintro l r hr pos' s' hoptions hquiet' ⟨ls, hls⟩
    obtain ⟨n', parts', hparts'⟩ := parts_of_repeat hls
    refine ⟨_, ?_, .repeat greed count.least count.most hparts'⟩
    show repeatPart s' pos' count l = _
    rw [repeatPart_eq hparts', hr]
    simp only [bind, Except.bind, hoptions, htemplate, Bool.false_eq_true, if_false]

/-! ## 2. Brackets -/

theorem openCapture_none (size : Nat) (s : State) (start : Nat) (left : List Token) :
    openCapture size s none start left =
      .ok ({ s with groups := { s.groups with widths := s.groups.widths ++ [none] } }.open'
        (.capture (s.groups.widths.length + 1)) start s.options left) := rfl

theorem names_of_openCapture {size : Nat} {s next : State} {name : String} {start : Nat}
    {left : List Token} (h : openCapture size s (some name) start left = .ok next) :
    next.groups.names ≠ [] := by
  unfold openCapture at h
  cases hold : s.groups.names.lookup name with
  | some old =>
    simp only [hold] at h
    cases h
  | none =>
    simp only [hold] at h
    obtain rfl := Except.ok.inj h
    exact List.cons_ne_nil _ _

theorem not_quiet_open {s : State} {opening : Opening} {start : Nat} {options : Options}
    {left : List Token} (h : opening.isOrdinary = false) :
    ¬ Quiet (s.open' opening start options left) := fun hquiet => by
  have hordinary := hquiet.ordinary _ List.mem_cons_self
  rw [h] at hordinary
  cases hordinary

theorem not_quiet_openLook {s : State} {behind negated : Bool} {start : Nat} {left : List Token} :
    ¬ Quiet (openLook s behind negated start left) := by
  unfold openLook
  split <;> exact not_quiet_open rfl

theorem not_quiet_of_readCondition {size : Nat} {s next : State} {start : Nat} {left : List Token}
    (h : readCondition size s start left = .ok next) : ¬ Quiet next := by
  unfold readCondition at h
  obtain ⟨⟨name, rest⟩, _, h⟩ := bind_ok_iff.mp h
  have hopened : ∀ x : Nat × List (Nat × Nat),
      (do s.groups.checkLookBehind x.1 (tell size rest)
          return { s with asked := x.2 }.open' (.present x.1) start s.options rest) = .ok next →
      ¬ Quiet next := fun x h => by
    obtain ⟨_, _, h⟩ := bind_ok_iff.mp h
    obtain rfl := Except.ok.inj h
    exact not_quiet_open rfl
  dsimp only at h
  split at h
  · split at h
    · cases h
    · exact hopened _ h
  · split at h
    · cases h
    · split at h
      · cases h
      · split at h
        · cases h
        · split at h
          · cases h
          · exact hopened _ h

theorem isRegular_of_add {s : State} {p : Part} {left : List Token}
    (h : Sound (s.add p left).levels) : p.node.bare.isRegular = true := by
  rw [← Part.node_bare]
  exact h.head.parts _ List.mem_cons_self

theorem isRegular_of_addNode {s : State} {n : Node} {left : List Token}
    (h : Sound (s.addNode n left).levels) : n.bare.isRegular = true :=
  isRegular_of_add h

/-- A group with a name, or a reference to one, is nothing that a regular pattern has. -/
theorem not_sound_of_readNameExtension {size : Nat} {s next : State} {start : Nat}
    {left : List Token} (h : readNameExtension size s start left = .ok next) (hquiet : Quiet next) :
    ¬ Sound next.levels := by
  unfold readNameExtension at h
  obtain ⟨angle, _, h⟩ := bind_ok_iff.mp h
  cases angle with
  | some rest =>
    obtain ⟨⟨name, rest⟩, _, h⟩ := bind_ok_iff.mp h
    dsimp only at h
    split at h
    · cases h
    · exact absurd hquiet.names (names_of_openCapture h)
  | none =>
    obtain ⟨equals, _, h⟩ := bind_ok_iff.mp h
    cases equals with
    | some rest =>
      obtain ⟨⟨name, rest⟩, _, h⟩ := bind_ok_iff.mp h
      dsimp only at h
      split at h
      · cases h
      · split at h
        · cases h
        · split at h
          · cases h
          · obtain ⟨_, _, h⟩ := bind_ok_iff.mp h
            obtain rfl := Except.ok.inj h
            intro hsound
            have hregular : (Node.backref _ _ _).bare.isRegular = true := isRegular_of_addNode hsound
            cases hregular
    | none =>
      dsimp only at h
      split at h
      · cases h
      · obtain ⟨_, _, h⟩ := bind_ok_iff.mp h
        cases h

theorem flagLetters_eq : flagLetters = ['i', 'L', 'm', 's', 'x', 'a', 't', 'u'] := by decide

/-- Options for the whole pattern leave a trace in the state. -/
theorem with_traced {o : Options} {on : List Char} {c : Char} (hc : c ∈ on)
    (hflag : c ∈ flagLetters) (hlocale : c ≠ 'L') (hascii : on.contains 'a' = false)
    (hunicode : on.contains 'u' = false) : o.with on ≠ {} := by
  have hon : on.contains c = true := List.contains_iff_mem.mpr hc
  intro h
  rw [flagLetters_eq] at hflag
  simp only [Options.with, Options.mk.injEq, Bool.or_eq_false_iff] at h
  simp only [List.mem_cons, List.not_mem_nil, or_false] at hflag
  rcases hflag with rfl | rfl | rfl | rfl | rfl | rfl | rfl | rfl
  · rw [hon] at h
    cases h.1.2
  · exact hlocale rfl
  all_goals simp_all

/-- Options for the whole pattern are nothing that a sound state comes from. -/
theorem not_sound_of_global {size : Nat} {s : State} {c : Char} {on : List Char}
    {left rest : List Token} (h : readFlags size c left = .ok (.global on rest))
    (hflag : (flagLetters.contains c || c == '-') = true) (hframes : s.frames = [])
    (hquiet : Quiet { s with
      left := rest, options := s.options.with on, asciiSet := s.asciiSet || on.contains 'a',
      unicodeSet := s.unicodeSet || on.contains 'u' }) :
    ¬ Sound (State.levels { s with
      left := rest, options := s.options.with on, asciiSet := s.asciiSet || on.contains 'a',
      unicodeSet := s.unicodeSet || on.contains 'u' }) := by
  obtain ⟨hon, hlocale, hminus⟩ := mem_of_global h
  intro hsound
  rw [State.levels, hframes] at hsound
  obtain ⟨_, _, hoptions⟩ := hsound
  have hletter : c ∈ flagLetters := by simpa [hminus] using hflag
  exact with_traced hon hletter hlocale (Bool.or_eq_false_iff.mp hquiet.ascii).2
    (Bool.or_eq_false_iff.mp hquiet.unicode).2 hoptions

/-- **What stands behind an opening bracket and a question mark** makes a move. -/
theorem readExtension_moves {size : Nat} {s next : State} {start : Nat} {left : List Token}
    (h : readExtension size s start left = .ok next) (hquiet : Quiet next)
    (hsound : Sound next.levels) (size' : Nat) :
    ∃ m, Moved next.left m s next ∧ Carries left next.left Anything
      fun l r => ∀ start', Makes m s.options r fun s' => readExtension size' s' start' l := by
  cases left with
  | nil => cases h
  | cons t left =>
    unfold readExtension at h
    obtain ⟨_, hsettle, h⟩ := bind_ok_iff.mp h
    obtain ⟨hclear, rfl⟩ := settle_eq_ok_iff.mp hsettle
    dsimp only at h
    split at h
    · next c hc =>
      split at h
      · exact absurd hsound (not_sound_of_readNameExtension h hquiet)
      · obtain rfl := Except.ok.inj h
        refine ⟨_, .begin s start s.options, (carries_token hclear).imp (fun _ h => h) ?_⟩
        rintro _ r ⟨t', rfl, hsign, hsettle⟩ start' s' hoptions _ _
        rw [← hoptions]
        refine ⟨_, ?_, .begin s' start' s'.options⟩
        simp only [readExtension, hsettle, hsign, hc]
        rfl
      · obtain ⟨rest, hcomment, h⟩ := bind_ok_iff.mp h
        obtain rfl := Except.ok.inj h
        refine ⟨_, .skip s, (carries_token hclear).andThen (carries_comment hcomment)
          (fun _ h => ⟨h, h⟩) ?_⟩
        rintro _ l r ⟨t', rfl, hsign, hsettle⟩ hr start' s' _ _ _
        refine ⟨_, ?_, .skip s'⟩
        simp only [readExtension, hsettle, hsign, hc, bind, Except.bind, hr]
        rfl
      · obtain rfl := Except.ok.inj h
        exact absurd hquiet not_quiet_openLook
      · obtain rfl := Except.ok.inj h
        exact absurd hquiet not_quiet_openLook
      · obtain rfl := Except.ok.inj h
        exact absurd hquiet (not_quiet_open rfl)
      · exact absurd hquiet (not_quiet_of_readCondition h)
      · split at h
        · cases h
        · obtain ⟨_, _, h⟩ := bind_ok_iff.mp h
          split at h
          · obtain rfl := Except.ok.inj h
            exact absurd hquiet not_quiet_openLook
          · split at h
            · obtain rfl := Except.ok.inj h
              exact absurd hquiet not_quiet_openLook
            · cases h
      · split at h
        · next hflag =>
          obtain ⟨flags, hflags, h⟩ := bind_ok_iff.mp h
          rcases flags with ⟨on, rest⟩ | ⟨on, off, rest⟩
          · dsimp only at h
            split at h
            · next hempty =>
              obtain rfl := Except.ok.inj h
              simp only [Bool.and_eq_true, List.isEmpty_iff] at hempty
              exact absurd hsound (not_sound_of_global hflags hflag hempty.1.1 hquiet)
            · cases h
          · obtain rfl := Except.ok.inj h
            refine ⟨_, .begin s start _, (carries_token hclear).andThen (carries_flags size' hflags)
              (fun _ h => ⟨h, h⟩) ?_⟩
            rintro _ l r ⟨t', rfl, hsign, hsettle⟩ hr start' s' hoptions _ _
            rw [← hoptions]
            refine ⟨_, ?_, .begin s' start' _⟩
            unfold readExtension
            simp only [hsettle, hsign, hc, hflag, if_true, bind, Except.bind, hr]
            rfl
        · cases h
    · cases h

/-! ## 3. Characters -/

/-- Whether a set is a complement. -/
def readNegation (left : List Token) : Except Fault (Bool × List Token) :=
  accept? '^' left >>= fun
    | some more => .ok (true, more)
    | none => .ok (false, left)

theorem readChar_set (size : Nat) (s : State) (pos : Nat) (left : List Token) :
    readChar size s '[' pos left = readNegation left >>= fun (negated, left) =>
      readSet size pos (left.length + 1) [] left >>= fun (items, left) =>
        .ok (s.addNode (s.set items negated) left) := by
  have hblank : isVerboseBlank '[' = false := by decide
  have hhash : ('[' == '#') = false := by decide
  unfold readChar readNegation
  simp only [hblank, hhash, Bool.and_false, Bool.false_eq_true, if_false]
  cases accept? '^' left with
  | error e => rfl
  | ok negation => cases negation <;> rfl

theorem readChar_count (size : Nat) (s : State) (pos : Nat) (left : List Token) :
    readChar size s '{' pos left =
      if next? left = some (.plain '}') then .ok (s.addNode (s.set [.code 123] false) left)
      else readBraces left >>= fun
        | some (count, left) => repeatPart s pos count left
        | none => .ok (s.addNode (s.set [.code 123] false) left) := by
  have hblank : isVerboseBlank '{' = false := by decide
  have hhash : ('{' == '#') = false := by decide
  unfold readChar
  simp only [hblank, hhash, Bool.and_false, Bool.false_eq_true, if_false]
  split
  · rfl
  · next hnot =>
    have hnext : next? left ≠ some (.plain '}') := by
      intro hnext
      rcases left with _ | ⟨⟨pos, sign⟩, left⟩
      · cases hnext
      · obtain rfl := Option.some.inj hnext
        exact hnot pos left rfl
    rw [if_neg hnext]
    rfl

theorem readChar_open (size : Nat) (s : State) (pos : Nat) (left : List Token) :
    readChar size s '(' pos left = accept? '?' left >>= fun
      | some more => readExtension size s pos more
      | none => openCapture size s none pos left := by
  have hblank : (s.options.verbose && isVerboseBlank '(') = false := Bool.and_false _
  have hhash : (s.options.verbose && '(' == '#') = false := Bool.and_false _
  unfold readChar
  exact (if_neg (hblank ▸ Bool.false_ne_true)).trans
    ((if_neg (hhash ▸ Bool.false_ne_true)).trans rfl)

theorem carries_negation {left rest : List Token} {negated : Bool}
    (h : readNegation left = .ok (negated, rest)) (hrest : rest ≠ []) :
    Carries left rest Anything fun l r => readNegation l = .ok (negated, r) := by
  obtain ⟨caret, hcaret, h⟩ := bind_ok_iff.mp h
  cases caret with
  | some more =>
    obtain ⟨rfl, rfl⟩ := Prod.mk.inj (Except.ok.inj h)
    refine (carries_accept hcaret).imp (fun _ h => h) fun l r hr => ?_
    rw [readNegation, hr]
    rfl
  | none =>
    obtain ⟨rfl, rfl⟩ := Prod.mk.inj (Except.ok.inj h)
    refine (carries_refuse hcaret).imp (fun _ _ hnil => absurd hnil hrest) ?_
    rintro l _ ⟨hr, rfl⟩
    rw [readNegation, hr]
    rfl

/-- What has to hold of a state that a regular pattern is read through: no bracket is open where all
    was read, and no backslash ends the text. -/
structure Fit (s : State) : Prop where
  quiet : Quiet s
  sound : Sound s.levels
  ends : s.left = [] → s.frames = []
  whole : .dangling ∉ s.left.map Token.sign

/-- At the end no option is left. -/
theorem Fit.options {s : State} (h : Fit s) (hleft : s.left = []) : s.options = {} := by
  have hsound := h.sound
  rw [State.levels, h.ends hleft] at hsound
  exact hsound.2.2

/-- What a reader does is a move, and it makes the same move wherever it can be made. -/
def MovesTo (s next : State) (left : List Token) (stops : List Sign → Prop)
    (reader : Nat → List Token → State → Except Fault State) : Prop :=
  ∃ m, Moved next.left m s next ∧
    Carries left next.left stops fun l r => ∀ pos, Makes m s.options r (reader pos l)

/-- A node is read without looking further. -/
theorem add_movesTo (s : State) (n : Node) (left : List Token) {stops : List Sign → Prop}
    {reader : Nat → List Token → State → Except Fault State}
    (h : ∀ pos l s', s'.options = s.options → reader pos l s' = .ok (s'.addNode n l)) :
    MovesTo s (s.addNode n left) left stops reader := by
  refine ⟨_, .add s n, (Carries.refl left stops).imp (fun _ h => h) ?_⟩
  rintro l _ rfl pos s' hoptions _ _
  exact ⟨_, h pos l s' hoptions, .add s' n⟩

/-- A repetition mark looks at the one behind it. -/
theorem repeat_movesTo {s next : State} {pos : Nat} {count : Count} {left : List Token}
    (h : repeatPart s pos count left = .ok next) (hquiet : Quiet next) {stops : List Sign → Prop}
    (hstops : ∀ more, stops more → NoMark more)
    {reader : Nat → List Token → State → Except Fault State}
    (hreader : ∀ pos l s', s'.options = s.options → reader pos l s' = repeatPart s' pos count l) :
    MovesTo s next left stops reader := by
  obtain ⟨m, hmoved, hcarries⟩ := repeatPart_moves h hquiet
  refine ⟨m, hmoved, hcarries.imp (fun more h _ => hstops more h) ?_⟩
  intro l r hmakes pos' s' hoptions hs hls
  rw [hreader pos' l s' hoptions]
  exact hmakes pos' s' hoptions hs hls

theorem set_movesTo {size : Nat} {s next : State} {pos : Nat} {left : List Token}
    (h : readChar size s '[' pos left = .ok next) (size' : Nat) {stops : List Sign → Prop} :
    MovesTo s next left stops fun pos' l s' => readChar size' s' '[' pos' l := by
  rw [readChar_set] at h
  obtain ⟨⟨negated, mid⟩, hnegation, h⟩ := bind_ok_iff.mp h
  obtain ⟨⟨items, rest⟩, hset, h⟩ := bind_ok_iff.mp h
  obtain rfl := Except.ok.inj h
  have hmid : mid ≠ [] := by
    rintro rfl
    rw [readSet] at hset
    cases hset
  refine ⟨_, .add s _, (carries_negation hnegation hmid).andThen (carries_set size' hset).longer
    (fun _ _ => ⟨trivial, trivial⟩) ?_⟩
  rintro l m r hnegation' ⟨hset', hlength⟩ pos' s' hoptions _ _
  refine ⟨_, ?_, .add s' _⟩
  show readChar size' s' '[' pos' l = _
  rw [readChar_set, hnegation']
  simp only [bind, Except.bind, hset' pos' _ (Nat.succ_le_succ hlength), State.set, hoptions]

theorem open_movesTo {size : Nat} {s next : State} {pos : Nat} {left : List Token}
    (h : readChar size s '(' pos left = .ok next) (hnext : Fit next) (size' : Nat) :
    MovesTo s next left NoMark fun pos' l s' => readChar size' s' '(' pos' l := by
  rw [readChar_open] at h
  obtain ⟨extension, hextension, h⟩ := bind_ok_iff.mp h
  cases extension with
  | some more =>
    obtain ⟨m, hmoved, hcarries⟩ := readExtension_moves h hnext.quiet hnext.sound size'
    refine ⟨m, hmoved, (carries_accept hextension).andThen hcarries
      (fun _ _ => ⟨trivial, trivial⟩) ?_⟩
    rintro l m r hextension' hmakes pos' s' hoptions hquiet hls
    obtain ⟨next', hnext', hmoved'⟩ := hmakes pos' s' hoptions hquiet hls
    refine ⟨next', ?_, hmoved'⟩
    show readChar size' s' '(' pos' l = _
    rw [readChar_open, hextension']
    exact hnext'
  | none =>
    rw [openCapture_none] at h
    obtain rfl := Except.ok.inj h
    refine ⟨_, .capture s pos, (carries_refuse hextension).imp (fun _ h _ => h.question) ?_⟩
    rintro l _ ⟨hextension', rfl⟩ pos' s' hoptions _ _
    rw [← hoptions]
    refine ⟨_, ?_, .capture s' pos'⟩
    show readChar size' s' '(' pos' l = _
    rw [readChar_open, hextension']
    rfl

theorem count_movesTo {size : Nat} {s next : State} {pos : Nat} {left : List Token}
    (h : readChar size s '{' pos left = .ok next) (hnext : Fit next) (size' : Nat) :
    MovesTo s next left
      (fun more => NoMark more ∧ ¬ Joined (.plain '{' :: left.map Token.sign) more)
      fun pos' l s' => readChar size' s' '{' pos' l := by
  rw [readChar_count] at h
  split at h
  · next hclosed =>
    obtain rfl := Except.ok.inj h
    have hne : left ≠ [] := by
      rintro rfl
      cases hclosed
    refine ⟨_, .add s _, ((Carries.refl left _).sameNext hne).imp (fun _ h => h) ?_⟩
    rintro l _ ⟨rfl, hnext'⟩ pos' s' hoptions _ _
    refine ⟨_, ?_, .add s' _⟩
    show readChar size' s' '{' pos' l = _
    rw [readChar_count, hnext', if_pos hclosed, State.set, hoptions]
    rfl
  · next hopen =>
    obtain ⟨counted, hcounted, h⟩ := bind_ok_iff.mp h
    cases counted with
    | none =>
      obtain rfl := Except.ok.inj h
      refine ⟨_, .add s _, .none left, fun more left' hmore hleft hstop =>
        ⟨left', fun pos' s' hoptions _ _ => ⟨_, ?_, .add s' _⟩, hleft⟩⟩
      show readChar size' s' '{' pos' left' = _
      rw [readChar_count, State.set, hoptions]
      split
      · rfl
      · next hopen' =>
        rw [braces_none_continues hcounted hnext.whole hmore hleft hopen' hstop.2]
        rfl
    | some x =>
      obtain ⟨count, mid⟩ := x
      have hne : left ≠ [] := by
        rintro rfl
        cases hcounted
      obtain ⟨m, hmoved, hcarries⟩ := repeatPart_moves h hnext.quiet
      refine ⟨m, hmoved, ((carries_braces hcounted).sameNext hne).andThen hcarries
        (fun _ h => ⟨trivial, fun _ => h.1⟩) ?_⟩
      rintro l m r ⟨hcounted', hnext'⟩ hmakes pos' s' hoptions hquiet hls
      obtain ⟨next', hrepeat, hmoved'⟩ := hmakes pos' s' hoptions hquiet hls
      refine ⟨next', ?_, hmoved'⟩
      show readChar size' s' '{' pos' l = _
      rw [readChar_count, hnext', if_neg hopen, hcounted']
      exact hrepeat

theorem not_sound_add_anchor {s : State} {a : Anchor} {left : List Token} :
    ¬ Sound (s.add (.anchor (.anchor a)) left).levels := fun h => by
  have hregular : (Node.anchor a).bare.isRegular = true := isRegular_of_add h
  cases hregular

/-- **A character outside of sets and escapes** makes a move. -/
theorem readChar_movesTo {size : Nat} {s next : State} {c : Char} {pos : Nat} {left : List Token}
    (h : readChar size s c pos left = .ok next) (hnext : Fit next) (size' : Nat) :
    MovesTo s next left
      (fun more => NoMark more ∧ ¬ Joined (.plain c :: left.map Token.sign) more)
      fun pos' l s' => readChar size' s' c pos' l := by
  have hchar := h
  unfold readChar at h
  split at h
  · next hblank =>
    obtain rfl := Except.ok.inj h
    refine ⟨_, .skip s, (Carries.refl left _).imp (fun _ h => h) ?_⟩
    rintro l _ rfl pos' s' hoptions _ _
    refine ⟨_, ?_, .skip s'⟩
    show readChar size' s' c pos' l = _
    unfold readChar
    simp only [hoptions, hblank, if_true]
    rfl
  · next hblank =>
    split at h
    · next hhash =>
      obtain ⟨rest, hline, h⟩ := bind_ok_iff.mp h
      obtain rfl := Except.ok.inj h
      have hrest : rest ≠ [] := by
        rintro rfl
        have hoptions := hnext.options rfl
        rw [show s.options = {} from hoptions] at hhash
        cases hhash
      refine ⟨_, .skip s, (carries_line hline).imp (fun _ _ => hrest) ?_⟩
      rintro l r hr pos' s' hoptions _ _
      refine ⟨_, ?_, .skip s'⟩
      show readChar size' s' c pos' l = _
      unfold readChar
      simp only [hoptions, hblank, hhash, if_true, Bool.false_eq_true, if_false, hr, bind,
        Except.bind]
      rfl
    · next hhash =>
      split at h
      · obtain rfl := Except.ok.inj h
        refine add_movesTo s _ left fun pos' l s' hoptions => ?_
        unfold readChar
        simp only [hoptions, hblank, hhash, Bool.false_eq_true, if_false]
        rfl
      · obtain rfl := Except.ok.inj h
        exact absurd hnext.sound not_sound_add_anchor
      · obtain rfl := Except.ok.inj h
        exact absurd hnext.sound not_sound_add_anchor
      · exact repeat_movesTo h hnext.quiet (fun _ h => h.1) fun pos' l s' hoptions => by
          unfold readChar
          simp only [hoptions, hblank, hhash, Bool.false_eq_true, if_false]
      · exact repeat_movesTo h hnext.quiet (fun _ h => h.1) fun pos' l s' hoptions => by
          unfold readChar
          simp only [hoptions, hblank, hhash, Bool.false_eq_true, if_false]
      · exact repeat_movesTo h hnext.quiet (fun _ h => h.1) fun pos' l s' hoptions => by
          unfold readChar
          simp only [hoptions, hblank, hhash, Bool.false_eq_true, if_false]
      · exact count_movesTo hchar hnext size'
      · exact set_movesTo hchar size'
      · obtain ⟨m, hmoved, hcarries⟩ := open_movesTo hchar hnext size'
        exact ⟨m, hmoved, hcarries.imp (fun _ h => h.1) fun _ _ h => h⟩
      · next hdot hcaret hdollar hstar hplus hquestion hbrace hbracket hopen =>
        obtain rfl := Except.ok.inj h
        refine add_movesTo s _ left fun pos' l s' hoptions => ?_
        unfold readChar
        simp only [hoptions, hblank, hhash, Bool.false_eq_true, if_false]
        rw [State.set, hoptions]
        rfl

/-! ## 4. Steps -/

theorem nextBranch_ordinary {s : State} {f : Frame} {frames : List Frame}
    (hframes : s.frames = f :: frames) (hf : f.opening.isOrdinary = true) (pos : Nat)
    (left : List Token) : nextBranch s pos left =
      .ok { s with left, parts := [], branches := s.branch :: s.branches } := by
  obtain ⟨opening, start, parts, branches, options⟩ := f
  rw [nextBranch, hframes]
  cases opening with
  | plain | capture => rfl
  | atomic | ahead | behind | present | absent => cases hf

/-- A bar in brackets that are not ordinary leaves them open, or begins the other part of a
    condition. -/
theorem ordinary_of_nextBranch {s next : State} {f : Frame} {frames : List Frame} {pos : Nat}
    {left : List Token} (h : nextBranch s pos left = .ok next) (hquiet : Quiet next)
    (hframes : s.frames = f :: frames) : f.opening.isOrdinary = true := by
  obtain ⟨opening, start, parts, branches, options⟩ := f
  rw [nextBranch, hframes] at h
  have hordinary := hquiet.ordinary
  cases opening with
  | plain | capture => rfl
  | absent => cases h
  | present | atomic | ahead | behind =>
    obtain rfl := Except.ok.inj h
    cases hordinary _ List.mem_cons_self

theorem nextBranch_movesTo {s next : State} {pos : Nat} {left : List Token}
    (h : nextBranch s pos left = .ok next) (hnext : Fit next) {stops : List Sign → Prop} :
    MovesTo s next left stops fun pos' l s' => nextBranch s' pos' l := by
  cases hframes : s.frames with
  | nil =>
    -- the outermost level would have a branch
    rw [nextBranch, hframes] at h
    obtain rfl := Except.ok.inj h
    have hsound := hnext.sound
    cases hsound.2.1
  | cons f frames =>
    have hf := ordinary_of_nextBranch h hnext.quiet hframes
    rw [nextBranch_ordinary hframes hf] at h
    obtain rfl := Except.ok.inj h
    refine ⟨_, .bar hframes hf, (Carries.refl left _).imp (fun _ h => h) ?_⟩
    rintro l _ rfl pos' s' _ hquiet' ⟨ls, hls⟩
    obtain ⟨f', frames', hframes'⟩ := frames_of_on rfl hls
    have hf' := hquiet'.ordinary f' (hframes' ▸ List.mem_cons_self)
    exact ⟨_, nextBranch_ordinary hframes' hf' pos' l, .bar hframes' hf'⟩

/-- A bracket that is not ordinary becomes a node that is not regular. -/
theorem ordinary_of_closeFrame {s : State} {f : Frame} {frames : List Frame} {left : List Token}
    (hsound : Sound (closeFrame s f frames left).levels) : f.opening.isOrdinary = true := by
  obtain ⟨opening, start, parts, branches, options⟩ := f
  have hregular := hsound.head.parts
  cases opening with
  | plain | capture => rfl
  | atomic | ahead | behind | present | absent =>
    cases hregular _ List.mem_cons_self

/-- The node of an escape depends on the options only. -/
theorem pieceNode_congr {s s' : State} (h : s'.options = s.options) (x : Piece) :
    pieceNode s' x = pieceNode s x := by
  unfold pieceNode
  simp only [State.set, h]

theorem pieceNode_anchor (s : State) (k : Char) : ∃ a, pieceNode s (.anchor k) = .anchor a := by
  unfold pieceNode
  split <;> simp_all

theorem step_escaped {size : Nat} {s : State} {t : Token} {c : Char} (ht : t.sign = .escaped c)
    (left : List Token) : step size s t left =
      readEscape s.groups size t.pos c left >>= fun (x, left) => .ok (some (match x with
        | .anchor _ => s.add (.anchor (pieceNode s x)) left
        | _ => s.addNode (pieceNode s x) left)) := by
  rw [step, ht]
  rfl

theorem step_bar {size : Nat} {s : State} {t : Token} (ht : t.sign = .plain '|')
    (left : List Token) : step size s t left = some <$> nextBranch s t.pos left := by
  rw [step, ht]
  rfl

theorem step_close {size : Nat} {s : State} {t : Token} {f : Frame} {frames : List Frame}
    (ht : t.sign = .plain ')') (hframes : s.frames = f :: frames) (left : List Token) :
    step size s t left = .ok (some (closeFrame s f frames left)) := by
  rw [step, ht]
  simp only [hframes]
  rfl

theorem step_plain {size : Nat} {s : State} {t : Token} {c : Char} (ht : t.sign = .plain c)
    (hbar : c ≠ '|') (hclose : c ≠ ')') (left : List Token) :
    step size s t left = some <$> readChar size s c t.pos left := by
  rw [step, ht]
  split
  · next h => cases h
  · next h => cases h
  · next h => exact absurd (Sign.plain.inj h) hbar
  · next h => exact absurd (Sign.plain.inj h) hclose
  · next h => rw [Sign.plain.inj h]

/-- A step that makes the move wherever it can be made. -/
def StepMakes (size : Nat) (sign : Sign) (m : Move) (o : Options) (l r : List Token) : Prop :=
  ∀ t : Token, t.sign = sign → ∀ s, s.options = o → Quiet s → (∃ ls, m.on s.levels = some ls) →
    ∃ next, step size s t l = .ok (some next) ∧ Moved r m s next

/-- An escape that a regular pattern can have stands for a character or a class of them. -/
theorem exists_add_of_escaped {size : Nat} {s next : State} {t : Token} {c : Char}
    {left : List Token} (ht : t.sign = .escaped c) (h : step size s t left = .ok (some next))
    (hsound : Sound next.levels) : ∃ x rest, readEscape s.groups size t.pos c left = .ok (x, rest) ∧
      (∀ k, x ≠ .anchor k) ∧ (∀ i, x ≠ .reference i) ∧ next = s.addNode (pieceNode s x) rest := by
  rw [step_escaped ht] at h
  obtain ⟨⟨x, rest⟩, hescape, h⟩ := bind_ok_iff.mp h
  obtain rfl := Option.some.inj (Except.ok.inj h)
  cases x with
  | anchor k =>
    obtain ⟨a, ha⟩ := pieceNode_anchor s k
    dsimp only at hsound
    rw [ha] at hsound
    exact absurd hsound not_sound_add_anchor
  | reference i =>
    have hregular : (Node.backref _ _ _).bare.isRegular = true := isRegular_of_addNode hsound
    cases hregular
  | code n => exact ⟨_, _, hescape, nofun, nofun, rfl⟩
  | named k negated => exact ⟨_, _, hescape, nofun, nofun, rfl⟩

theorem step_escaped_add {size : Nat} {s : State} {t : Token} {c : Char} {left rest : List Token}
    {x : Piece} (ht : t.sign = .escaped c)
    (h : readEscape s.groups size t.pos c left = .ok (x, rest)) (hx : ∀ k, x ≠ .anchor k) :
    step size s t left = .ok (some (s.addNode (pieceNode s x) rest)) := by
  rw [step_escaped ht, h]
  cases x with
  | anchor k => exact absurd rfl (hx k)
  | code | named | reference => rfl

/-- A step that is taken by a reader makes the move that the reader makes. -/
theorem MovesTo.step {s next : State} {left : List Token} {stops : List Sign → Prop}
    {reader : Nat → List Token → State → Except Fault State} (h : MovesTo s next left stops reader)
    {size' : Nat} {sign : Sign} (hstep : ∀ (t' : Token) l s', t'.sign = sign →
      step size' s' t' l = some <$> reader t'.pos l s') :
    ∃ m, Moved next.left m s next ∧
      Carries left next.left stops (StepMakes size' sign m s.options) := by
  obtain ⟨m, hmoved, hcarries⟩ := h
  refine ⟨m, hmoved, hcarries.imp (fun _ h => h) fun l r hmakes t' hsign s' hoptions hs hls => ?_⟩
  obtain ⟨next', hnext', hmoved'⟩ := hmakes t'.pos s' hoptions hs hls
  refine ⟨next', ?_, hmoved'⟩
  rw [hstep t' l s' hsign, hnext']
  rfl

/-- **A step that a regular pattern can make is a move**, and makes the same move wherever it can be
    made. -/
theorem step_moves {size : Nat} {s next : State} {t : Token} {left : List Token}
    (h : step size s t left = .ok (some next)) (hnext : Fit next) (size' : Nat) :
    ∃ m, Moved next.left m s next ∧ Carries left next.left
      (fun more => NoMark more ∧ ¬ Joined (t.sign :: left.map Token.sign) more)
      (StepMakes size' t.sign m s.options) := by
  cases hsign : t.sign with
  | dangling =>
    rw [step, hsign] at h
    cases h
  | escaped c =>
    obtain ⟨x, rest, hescape, hanchor, hreference, rfl⟩ :=
      exists_add_of_escaped hsign h hnext.sound
    refine ⟨_, .add s _, (carries_escape hescape hreference size').imp (fun _ h => h.2) ?_⟩
    rintro l r hr t' hsign' s' hoptions _ _
    refine ⟨_, step_escaped_add hsign' (hr s'.groups t'.pos) hanchor, ?_⟩
    rw [pieceNode_congr hoptions]
    exact .add s' _
  | plain c =>
    by_cases hbar : c = '|'
    · subst hbar
      rw [step_bar hsign] at h
      obtain ⟨_, hbranch, hsome⟩ := map_ok_iff.mp h
      obtain rfl := Option.some.inj hsome
      exact (nextBranch_movesTo hbranch hnext).step fun t' l s' ht' => step_bar ht' l
    · by_cases hclose : c = ')'
      · subst hclose
        cases hframes : s.frames with
        | nil =>
          rw [step, hsign] at h
          simp only [hframes] at h
          cases h
        | cons f frames =>
          rw [step_close hsign hframes] at h
          obtain rfl := Option.some.inj (Except.ok.inj h)
          have hmoved : Moved left .close s _ := .close hframes (ordinary_of_closeFrame hnext.sound)
          rw [hmoved.left_eq]
          refine ⟨_, hmoved, (Carries.refl left _).imp (fun _ h => h) ?_⟩
          rintro l _ rfl t' hsign' s' _ hquiet' ⟨ls, hls⟩
          obtain ⟨f', frames', hframes'⟩ := frames_of_on rfl hls
          have hf' := hquiet'.ordinary f' (hframes' ▸ List.mem_cons_self)
          exact ⟨_, step_close hsign' hframes' l, .close hframes' hf'⟩
      · rw [step_plain hsign hbar hclose] at h
        obtain ⟨_, hchar, hsome⟩ := map_ok_iff.mp h
        obtain rfl := Option.some.inj hsome
        exact (readChar_movesTo hchar hnext size').step
          fun t' l s' ht' => step_plain ht' hbar hclose l

end Reconcile.Pattern
