import Mathlib.Data.List.Basic
import Reconcile.Proofs.Pattern.Steps

/-!
# Patterns within patterns

A text that is a regular pattern for itself can stand within another one: the reader goes through it
as through the pattern alone, and ends with its nodes behind those that it read before. An escaped
text becomes a node for each of its characters.

* `Leads`: runs without fuel; `Extends`; **`run_extends`**: a run over a regular pattern goes on in
  the same way within another one;
* `signs`, `signs_append`, `signs_escape`: texts as signs;
* `Stands`: the nodes that were read; **`Stands.literal`**: a literal text adds its characters;
* `Fragment`: patterns that can stand within others; **`Stands.fragment`**: they add their nodes;
* `read_of_leads`: the pattern of all nodes.
-/

namespace Reconcile.Pattern

/-! ## 1. Runs -/

/-- Steps that lead from a state to another one, each of which takes a token. -/
inductive Leads (size : Nat) : State → State → Prop where
  | refl (s : State) : Leads size s s
  | step {s next last : State} {t : Token} {rest : List Token} (hleft : s.left = t :: rest)
    (hopen : (t.sign == .plain ')' && s.frames.isEmpty) = false) (hclear : Clear rest)
    (hstep : step size s t rest = .ok (some next)) (hless : next.left.length < s.left.length)
    (h : Leads size next last) : Leads size s last

namespace Leads

variable {size : Nat} {s next last : State}

theorem trans (h : Leads size s next) (h' : Leads size next last) : Leads size s last := by
  induction h with
  | refl => exact h'
  | step hleft hopen hclear hstep hless _ ih => exact .step hleft hopen hclear hstep hless (ih h')

/-- A run with a fuel that suffices goes to where all was read. -/
theorem run_eq (h : Leads size s last) (hlast : last.left = []) : ∀ {fuel : Nat},
    s.left.length < fuel → run size fuel s = .ok last := by
  induction h with
  | refl s =>
    intro fuel hfuel
    cases fuel with
    | zero => cases hfuel
    | succ fuel =>
      rw [run, hlast]
  | @step s next last t rest hleft hopen hclear hstep hless _ ih =>
    intro fuel hfuel
    cases fuel with
    | zero => cases hfuel
    | succ fuel =>
      rw [run, hleft]
      simp only [hopen, settle_eq_ok_iff.mpr ⟨hclear, rfl⟩, bind, Except.bind, hstep,
        Bool.false_eq_true, if_false]
      exact ih hlast (by omega)

end Leads

/-- The same was read of what is left of both, with more behind it in one of them, where something
    was read before. -/
structure Extends (before : List Part) (more : List Sign) (s s' : State) : Prop where
  quiet : Quiet s'
  levels : s'.levels = upon before s.levels
  left : Continues more s.left s'.left

namespace Extends

variable {before : List Part} {more : List Sign} {s s' : State}

theorem options (h : Extends before more s s') : s'.options = s.options := by
  have hlevels := h.levels
  rw [State.levels, State.levels] at hlevels
  cases hframes : s.frames with
  | nil =>
    rw [hframes] at hlevels
    exact congrArg Level.options (List.cons.inj hlevels).1
  | cons f frames =>
    rw [hframes] at hlevels
    exact congrArg Level.options (List.cons.inj hlevels).1

theorem isEmpty_frames (h : Extends before more s s') :
    s'.frames.isEmpty = s.frames.isEmpty := by
  have hlength := congrArg List.length h.levels
  rw [length_upon] at hlength
  simp only [State.levels, List.length_cons, List.length_map, Nat.add_right_cancel_iff] at hlength
  rw [Bool.eq_iff_iff, List.isEmpty_iff_length_eq_zero, List.isEmpty_iff_length_eq_zero, hlength]

end Extends

/-- **A run over a regular pattern** goes on in the same way where something was read before and more
    stands behind. -/
theorem run_extends {size : Nat} {last : State} (hlast : Fit last) (hend : last.left = [])
    (size' : Nat) : ∀ {fuel : Nat} {s : State}, run size fuel s = .ok last →
    Fit s ∧ ∀ {before : List Part} {more : List Sign} {s' : State}, .dangling ∉ more →
      NoMark more → ¬ Joined (s.left.map Token.sign) more → Extends before more s s' →
        ∃ last', Leads size' s' last' ∧ Extends before more last last' := by
  have hdone : Fit last ∧ ∀ {before : List Part} {more : List Sign} {s' : State},
      .dangling ∉ more → NoMark more → ¬ Joined (last.left.map Token.sign) more →
      Extends before more last s' →
        ∃ last', Leads size' s' last' ∧ Extends before more last last' :=
    ⟨hlast, fun _ _ _ h => ⟨_, .refl _, h⟩⟩
  intro fuel
  induction fuel with
  | zero =>
    intro s h
    obtain rfl := Except.ok.inj h
    exact hdone
  | succ fuel ih =>
    intro s h
    cases hleft : s.left with
    | nil =>
      rw [run, hleft] at h
      obtain rfl := Except.ok.inj h
      rw [← hleft]
      exact hdone
    | cons t rest =>
      have hne : s ≠ last := by
        rintro rfl
        rw [hleft] at hend
        cases hend
      rw [run, hleft] at h
      dsimp only at h
      split at h
      · exact absurd (Except.ok.inj h) hne
      · next hopen =>
        obtain ⟨_, hsettle, h⟩ := bind_ok_iff.mp h
        obtain ⟨hrest, rfl⟩ := settle_eq_ok_iff.mp hsettle
        obtain ⟨next, hstep, h⟩ := bind_ok_iff.mp h
        cases next with
        | none => exact absurd (Except.ok.inj h) hne
        | some next =>
          obtain ⟨hnext, hgo⟩ := ih h
          obtain ⟨m, hmoved, hcarries⟩ := step_moves hstep hnext size'
          have hclear : Clear (t :: rest) := fun hsign => by
            rw [step, Option.some.inj hsign] at hstep
            cases hstep
          refine ⟨⟨hmoved.quiet.mp hnext.quiet, Move.sound_of_on hmoved.levels hnext.sound, ?_, ?_⟩,
            fun {before more s'} hmore hmark hjoined hs' => ?_⟩
          · intro hnil
            rw [hleft] at hnil
            cases hnil
          · rw [hleft]
            exact (Taken.one hrest hcarries.taken).whole hclear hnext.whole
          · have hcontinues := hs'.left
            rw [hleft] at hcontinues
            obtain ⟨t', rest', hleft', hsign, hrest'⟩ := hcontinues.cons
            obtain ⟨left, hmakes, hnextleft⟩ := hcarries.go hmore hrest' ⟨hmark, hjoined⟩
            have hon := Move.on_upon before hmoved.levels
            rw [← hs'.levels] at hon
            obtain ⟨next', hstep', hmoved'⟩ := hmakes t' hsign s' hs'.options hs'.quiet ⟨_, hon⟩
            have hnext' : Extends before more next next' := by
              refine ⟨hmoved'.quiet.mpr hs'.quiet, ?_, hmoved'.left_eq ▸ hnextleft⟩
              exact Option.some.inj (hmoved'.levels.symm.trans hon)
            have hsuffix := hcarries.taken.suffix
            obtain ⟨last', hleads, hlast'⟩ := hgo hmore hmark (fun hjoin => hjoined
              (hjoin.of_suffix ((hsuffix.trans (List.suffix_cons t rest)).map Token.sign))) hnext'
            refine ⟨last', .step hleft' ?_ (hrest'.clear hmore hrest) hstep' ?_ hleads, hlast'⟩
            · rw [hsign, hs'.isEmpty_frames]
              exact Bool.not_eq_true _ ▸ hopen
            · have hlength := congrArg List.length hrest'
              have hlength' := congrArg List.length hnextleft
              have hle := hsuffix.length_le
              rw [hleft', hmoved'.left_eq]
              simp only [List.length_map, List.length_append, List.length_cons] at *
              omega

/-! ## 2. Signs of a text -/

/-- What a text is made of, without places. -/
def signs (text : List Char) : List Sign := (tokens text).map Token.sign

theorem tokensFrom_plain {c : Char} (hc : c ≠ '\\') (n : Nat) (rest : List Char) :
    tokensFrom n (c :: rest) = ⟨n, .plain c⟩ :: tokensFrom (n + 1) rest := by
  rw [tokensFrom]
  · exact fun h _ => hc h
  · exact fun _ _ h _ => hc h

theorem signs_tokensFrom : ∀ (n m : Nat) (text : List Char),
    (tokensFrom n text).map Token.sign = (tokensFrom m text).map Token.sign
  | _, _, [] => rfl
  | n, m, [c] => by
    by_cases hc : c = '\\'
    · subst hc
      rfl
    · rw [tokensFrom_plain hc, tokensFrom_plain hc]
      rfl
  | n, m, c :: d :: rest => by
    by_cases hc : c = '\\'
    · subst hc
      exact congrArg (List.cons _) (signs_tokensFrom (n + 2) (m + 2) rest)
    · rw [tokensFrom_plain hc, tokensFrom_plain hc]
      exact congrArg (List.cons _) (signs_tokensFrom (n + 1) (m + 1) (d :: rest))

theorem signs_escaped (c : Char) (rest : List Char) :
    signs ('\\' :: c :: rest) = .escaped c :: signs rest :=
  congrArg (List.cons _) (signs_tokensFrom 2 0 rest)

theorem signs_plain {c : Char} (hc : c ≠ '\\') (rest : List Char) :
    signs (c :: rest) = .plain c :: signs rest := by
  rw [signs, tokens, tokensFrom_plain hc]
  exact congrArg (List.cons _) (signs_tokensFrom 1 0 rest)

/-- The signs of two texts, of which the first one does not end within an escape. -/
theorem signs_append : ∀ {a : List Char} (b : List Char), .dangling ∉ signs a →
    signs (a ++ b) = signs a ++ signs b
  | [], _, _ => rfl
  | [c], b, h => by
    by_cases hc : c = '\\'
    · subst hc
      exact absurd List.mem_cons_self h
    · rw [signs_plain hc, List.singleton_append, signs_plain hc]
      rfl
  | c :: d :: rest, b, h => by
    by_cases hc : c = '\\'
    · subst hc
      rw [signs_escaped] at h ⊢
      rw [List.cons_append, List.cons_append, signs_escaped,
        signs_append b fun hrest => h (List.mem_cons_of_mem _ hrest), List.cons_append]
    · rw [signs_plain hc] at h ⊢
      rw [List.cons_append, signs_plain hc,
        signs_append b fun hrest => h (List.mem_cons_of_mem _ hrest), List.cons_append]

/-- A literal character as a sign. -/
def literalSign (c : Char) : Sign := if specialChars.contains c then .escaped c else .plain c

theorem specialChars_eq : specialChars = ['(', ')', '[', ']', '{', '}', '?', '*', '+', '-', '|', '^',
    '$', '\\', '.', '&', '~', '#', ' ', '\t', '\n', '\r', '\x0b', '\x0c'] := by decide

/-- An escaped text has a sign for each character. -/
theorem signs_escape : ∀ text : List Char, signs (escape text) = text.map literalSign
  | [] => rfl
  | c :: rest => by
    rw [escape, List.map_cons, literalSign, ← signs_escape rest]
    split
    · exact signs_escaped c (escape rest)
    · next hc =>
      refine signs_plain ?_ (escape rest)
      rintro rfl
      exact hc (by decide)

theorem not_dangling_literals (text : List Char) : .dangling ∉ text.map literalSign := by
  rw [List.mem_map]
  rintro ⟨c, _, hc⟩
  unfold literalSign at hc
  split at hc <;> cases hc

/-- No character that means something stands for itself. -/
theorem literalSign_ne {c d : Char} (hd : d ∈ specialChars) : literalSign c ≠ .plain d := by
  unfold literalSign
  split
  · exact nofun
  · next hc =>
    rintro h
    rw [Sign.plain.inj h] at hc
    exact hc (List.contains_iff_mem.mpr hd)

theorem noMark_nil : NoMark [] := ⟨nofun, nofun⟩

theorem noMark_literals (text : List Char) {more : List Sign} (hmore : NoMark more) :
    NoMark (text.map literalSign ++ more) := by
  cases text with
  | nil => exact hmore
  | cons c text =>
    exact ⟨fun h => literalSign_ne (by decide) (Option.some.inj h),
      fun h => literalSign_ne (by decide) (Option.some.inj h)⟩

/-! ## 3. Literal texts -/

theorem readEscape_special {c : Char} (hc : c ∈ specialChars) (g : Groups) (size start : Nat)
    (left : List Token) : readEscape g size start c left = .ok (.code c.toNat, left) := by
  rw [specialChars_eq] at hc
  simp only [List.mem_cons, List.not_mem_nil, or_false] at hc
  rcases hc with rfl | rfl | rfl | rfl | rfl | rfl | rfl | rfl | rfl | rfl | rfl | rfl | rfl | rfl |
    rfl | rfl | rfl | rfl | rfl | rfl | rfl | rfl | rfl | rfl <;> rfl

/-- **A literal character** is read as itself where no option is set. -/
theorem step_literal {size : Nat} {s : State} {t : Token} {c : Char} (ht : t.sign = literalSign c)
    (hoptions : s.options = {}) (left : List Token) :
    step size s t left = .ok (some (s.addNode (Node.literal c) left)) := by
  have hset : s.set [.code c.toNat] false = Node.literal c := by
    rw [State.set, hoptions]
    rfl
  unfold literalSign at ht
  split at ht
  · next hc =>
    rw [step_escaped ht, readEscape_special (List.contains_iff_mem.mp hc), ← hset]
    rfl
  · next hc =>
    have hne : ∀ d ∈ specialChars, c ≠ d := by
      rintro d hd rfl
      exact hc (List.contains_iff_mem.mpr hd)
    rw [step_plain ht (hne '|' (by decide)) (hne ')' (by decide))]
    unfold readChar
    simp only [hoptions, Bool.false_and, Bool.false_eq_true, if_false]
    split
    · exact absurd rfl (hne '.' (by decide))
    · exact absurd rfl (hne '^' (by decide))
    · exact absurd rfl (hne '$' (by decide))
    · exact absurd rfl (hne '*' (by decide))
    · exact absurd rfl (hne '+' (by decide))
    · exact absurd rfl (hne '?' (by decide))
    · exact absurd rfl (hne '{' (by decide))
    · exact absurd rfl (hne '[' (by decide))
    · exact absurd rfl (hne '(' (by decide))
    · rw [hset]
      rfl

/-- The nodes that were read, in their order, with no bracket open. -/
structure Stands (ns : List Node) (s : State) : Prop where
  quiet : Quiet s
  levels : ∃ parts, s.levels = [⟨parts, [], {}⟩] ∧ (parts.map Part.node).reverse = ns

namespace Stands

variable {ns : List Node} {s : State}

theorem options (h : Stands ns s) : s.options = {} := by
  obtain ⟨parts, hlevels, _⟩ := h.levels
  exact congrArg Level.options (List.cons.inj hlevels).1

theorem frames (h : Stands ns s) : s.frames = [] := by
  obtain ⟨parts, hlevels, _⟩ := h.levels
  exact List.map_eq_nil_iff.mp (List.cons.inj hlevels).2

theorem addNode (h : Stands ns s) (n : Node) (left : List Token) :
    Stands (ns ++ [n.bare]) (s.addNode n left) := by
  obtain ⟨parts, hlevels, hns⟩ := h.levels
  have hmoved : Moved left (.add n.bare) s (s.addNode n left) := .add s n
  have hon := hmoved.levels
  rw [hlevels] at hon
  refine ⟨hmoved.quiet.mpr h.quiet, _, (Option.some.inj hon).symm, ?_⟩
  rw [← hns]
  simp [Part.node]

/-- **A literal text** is read character by character. -/
theorem literal (size : Nat) {more : List Sign} (hmore : .dangling ∉ more) : ∀ {text : List Char}
    {ns : List Node} {s : State}, Stands ns s → s.left.map Token.sign = text.map literalSign ++ more →
    ∃ last, Leads size s last ∧ Stands (ns ++ text.map Node.literal) last ∧
      last.left.map Token.sign = more
  | [], ns, s, h, hleft => ⟨s, .refl s, by rwa [List.map_nil, List.append_nil], hleft⟩
  | c :: text, ns, s, h, hleft => by
    obtain ⟨t, rest, hcons, ht, hrest⟩ := List.map_eq_cons_iff.mp hleft
    replace hrest : rest.map Token.sign = text.map literalSign ++ more := hrest
    have hwhole : .dangling ∉ rest.map Token.sign := by
      rw [hrest, List.mem_append, not_or]
      exact ⟨not_dangling_literals text, hmore⟩
    obtain ⟨last, hleads, hlast, hend⟩ :=
      literal size hmore (h.addNode (Node.literal c) rest) hrest
    refine ⟨last, .step hcons ?_ (clear_of_not_mem hwhole) (step_literal ht h.options rest) ?_ hleads,
      ?_, hend⟩
    · rw [ht, beq_eq_false_iff_ne.mpr (literalSign_ne (by decide)), Bool.false_and]
    · rw [hcons]
      exact Nat.lt_succ_self _
    · rwa [List.append_assoc] at hlast

end Stands

/-! ## 4. Fragments -/

/-- What is read of a pattern, before it is looked at as a whole. -/
def reading (text : List Char) : Except Fault State := do
  let ts ← settle (tokens text)
  run text.length (ts.length + 1) { left := ts }

/-- What a pattern is, when nothing is wrong with it as a whole. -/
def finish (size : Nat) (s : State) : Except Fault Node :=
  match s.frames with
  | f :: _ => fault .unterminatedGroup f.start
  | [] => do
    if s.asciiSet && s.unicodeSet then throw .asciiAndUnicode
    if !s.left.isEmpty then fault .unbalanced (tell size s.left)
    match s.asked.find? (·.1 > s.groups.widths.length) with
    | some (i, pos) => fault (.invalidGroup i) pos
    | none =>
      match s.late with
      | some f => throw f
      | none =>
        if s.farLookBehind then throw .wideLookBehind
        let root := s.whole
        return root.keepGroups root.lookedUp

theorem read_eq (text : List Char) : read text = reading text >>= finish text.length := by
  unfold read reading
  cases settle (tokens text) with
  | error e => rfl
  | ok ts => rfl

/-- When nothing is wrong with a pattern as a whole, all of it was read. -/
theorem finish_eq_ok {size : Nat} {s : State} {n : Node} (h : finish size s = .ok n) :
    s.frames = [] ∧ s.left = [] ∧ s.late = none ∧ s.farLookBehind = false ∧
      n = s.whole.keepGroups s.whole.lookedUp := by
  unfold finish at h
  cases hframes : s.frames with
  | cons f frames =>
    simp only [hframes] at h
    cases h
  | nil =>
    simp only [hframes] at h
    split at h
    · cases h
    · split at h
      · cases h
      · next hleft =>
        split at h
        · cases h
        · split at h
          · cases h
          · next hlate =>
            split at h
            · cases h
            · next hnear =>
              have hnil : s.left = [] := by simpa using hleft
              exact ⟨rfl, hnil, hlate, Bool.not_eq_true _ ▸ hnear, (Except.ok.inj h).symm⟩

/-- Nothing is wrong with a quiet pattern as a whole. -/
theorem finish_of_quiet {size : Nat} {s : State} (h : Quiet s) (hframes : s.frames = [])
    (hleft : s.left = []) : finish size s = .ok (s.whole.keepGroups s.whole.lookedUp) := by
  unfold finish
  simp only [hframes, hleft, h.ascii, h.unicode, h.asked, h.late, h.near]
  rfl

/-- What was read of a fragment leaves the pattern around it alone: there is no bar outside of
    brackets, no group that is named or asked for, and no option for the whole pattern. -/
structure Standalone (s : State) : Prop where
  unbarred : s.branches = []
  unnamed : s.groups.names = []
  unasked : s.asked = []
  plain : s.options = {}
  ascii : s.asciiSet = false
  unicode : s.unicodeSet = false

/-- A text that is a regular pattern for itself, and leaves a pattern around it alone. -/
structure Fragment (text : List Char) (n : Node) : Prop where
  read : read text = .ok n
  regular : n.isRegular = true
  standalone : ∃ s, reading text = .ok s ∧ Standalone s

namespace Fragment

variable {text : List Char} {n : Node}

/-- A fragment is read to a state that holds its nodes. -/
theorem exists_run (h : Fragment text n) : Clear (tokens text) ∧ ∃ last parts,
    run text.length ((tokens text).length + 1) { left := tokens text } = .ok last ∧
    last.left = [] ∧ Fit last ∧ last.levels = [⟨parts, [], {}⟩] ∧
    n = Node.sequence (parts.map Part.node).reverse := by
  obtain ⟨last, hreading, hlast⟩ := h.standalone
  have hread := h.read
  rw [read_eq, hreading] at hread
  obtain ⟨hframes, hleft, hlate, hnear, rfl⟩ := finish_eq_ok hread
  obtain ⟨_, hsettle, hrun⟩ := bind_ok_iff.mp hreading
  obtain ⟨hclear, rfl⟩ := settle_eq_ok_iff.mp hsettle
  have hwhole : last.level.bare.whole = last.whole.keepGroups last.whole.lookedUp := by
    rw [Level.whole_bare, Node.keepGroups_of_isRegular h.regular]
    rfl
  have hlevel : last.level.bare = ⟨last.parts.map Part.bare, [], {}⟩ := by
    rw [Level.bare, State.level, hlast.unbarred, hlast.plain]
    rfl
  have hlevels : last.levels = [⟨last.parts.map Part.bare, [], {}⟩] := by
    rw [State.levels, hframes, hlevel]
    rfl
  have hregular : last.level.bare.Regular := Level.regular_iff.mpr (hwhole ▸ h.regular)
  refine ⟨hclear, last, _, hrun, hleft, ⟨?_, ?_, fun _ => hframes, ?_⟩, hlevels, ?_⟩
  · refine ⟨hlast.unnamed, hlast.unasked, hlast.ascii, hlast.unicode, hlate, hnear, fun f hf => ?_⟩
    rw [hframes] at hf
    cases hf
  · rw [hlevels]
    exact ⟨hlevel ▸ hregular, rfl, rfl⟩
  · rw [hleft]
    exact List.not_mem_nil
  · rw [← hwhole, hlevel]
    rfl

theorem not_dangling (h : Fragment text n) : .dangling ∉ signs text := by
  obtain ⟨_, last, _, hrun, hleft, hfit, _⟩ := h.exists_run
  exact (run_extends hfit hleft 0 hrun).1.whole

/-- A fragment does not begin with a repetition mark, which would have nothing to repeat. -/
theorem noMark (h : Fragment text n) {more : List Sign} (hmore : NoMark more) :
    NoMark (signs text ++ more) := by
  obtain ⟨_, last, _, hrun, _⟩ := h.exists_run
  unfold signs
  cases hts : tokens text with
  | nil => exact hmore
  | cons t rest =>
    rw [hts] at hrun
    have hfirst : ∀ c ∈ ['?', '+'], t.sign ≠ .plain c := by
      intro c hc hsign
      have hopen : (t.sign == .plain ')') = false := by
        rw [hsign, beq_eq_false_iff_ne]
        rintro h
        rw [Sign.plain.inj h] at hc
        revert hc
        decide
      rw [run] at hrun
      simp only [hopen, Bool.false_and, Bool.false_eq_true, if_false] at hrun
      obtain ⟨left, _, hrun⟩ := bind_ok_iff.mp hrun
      obtain ⟨_, hstep, _⟩ := bind_ok_iff.mp hrun
      rcases List.mem_pair.mp hc with rfl | rfl
      · rw [step_plain hsign (by decide) (by decide)] at hstep
        cases hstep
      · rw [step_plain hsign (by decide) (by decide)] at hstep
        cases hstep
    constructor
    · exact fun hhead => hfirst '?' (by decide) (Option.some.inj hhead)
    · exact fun hhead => hfirst '+' (by decide) (Option.some.inj hhead)

end Fragment

/-- **A fragment within a pattern** is read as for itself, where nothing joins it with what stands
    behind. -/
theorem Stands.fragment {text : List Char} {n : Node} (hfragment : Fragment text n) (size : Nat)
    {ns : List Node} {s : State} {more : List Sign} (h : Stands ns s)
    (hleft : s.left.map Token.sign = signs text ++ more) (hmore : .dangling ∉ more)
    (hmark : NoMark more) (hjoined : ¬ Joined (signs text) more) :
    ∃ last ms, Leads size s last ∧ Stands (ns ++ ms) last ∧ n = Node.sequence ms ∧
      last.left.map Token.sign = more := by
  obtain ⟨hclear, last, parts, hrun, hend, hfit, hlevels, hn⟩ := hfragment.exists_run
  obtain ⟨before, hbefore, hns⟩ := h.levels
  have hextends : Extends before more { left := tokens text } s :=
    ⟨h.quiet, hbefore, hleft⟩
  obtain ⟨last', hleads, hlast'⟩ :=
    (run_extends hfit hend size hrun).2 hmore hmark hjoined hextends
  refine ⟨last', _, hleads, ⟨hlast'.quiet, parts ++ before, ?_, ?_⟩, hn, ?_⟩
  · rw [hlast'.levels, hlevels]
    rfl
  · rw [List.map_append, List.reverse_append, hns]
  · have hcontinues := hlast'.left
    rw [hend] at hcontinues
    exact hcontinues.nil

/-- **A text that was read to the end** is the sequence of its nodes. -/
theorem read_of_leads {text : List Char} {ns : List Node} {last : State}
    (hclear : Clear (tokens text)) (hleads : Leads text.length { left := tokens text } last)
    (hlast : Stands ns last) (hend : last.left = []) (hregular : ∀ n ∈ ns, n.isRegular = true) :
    read text = .ok (Node.sequence ns) := by
  obtain ⟨parts, hlevels, hns⟩ := hlast.levels
  have hwhole : last.whole.bare = Node.sequence ns := by
    rw [show last.whole = last.level.whole from rfl, ← Level.whole_bare, (List.cons.inj hlevels).1,
      ← hns]
    rfl
  have hnone : last.whole.lookedUp = [] := Node.lookedUp_eq_nil (by
    rw [hwhole]
    exact isRegular_sequence.mpr hregular)
  rw [read_eq, reading, settle_eq_ok_iff.mpr ⟨hclear, rfl⟩]
  simp only [bind, Except.bind, hleads.run_eq hend (Nat.lt_succ_self _),
    finish_of_quiet hlast.quiet hlast.frames hend, hnone]
  exact congrArg Except.ok hwhole

end Reconcile.Pattern
