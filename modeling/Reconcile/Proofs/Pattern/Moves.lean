import Mathlib.Data.List.Basic
import Mathlib.Tactic.MkIffOfInductiveProp
import Reconcile.Pattern.Reader
import Reconcile.Proofs.Pattern.Language

/-!
# Moves of the reader of patterns

The reader keeps a stack: what was read of the pattern, and of every part in brackets that is open.
For a regular pattern each of its steps is one of a few moves on this stack, and no move looks at
what was read before the pattern began.

* `Node.bare`: a pattern without its groups; `keepGroups_of_isRegular`, `lookedUp_eq_nil`: a regular
  one keeps none and looks none up;
* `Level`, `Sound`, `upon`: the levels of the stack, those of a regular pattern, and those that have
  something below them;
* `Move.on`; **`Move.on_upon`**: a move does not look at what is below; **`Move.sound_of_on`**: it
  comes from sound levels when it leads to sound ones;
* `Moved`, `Moved.levels`: the moves of the reader itself; `Quiet`: what no move changes.
-/

namespace Reconcile.Pattern

/-! ## 1. Groups that are not kept -/

namespace Node

theorem keepGroups_sequence (keep : List Nat) : ∀ ns : List Node,
    (sequence ns).keepGroups keep = sequence (ns.map (keepGroups keep))
  | [] => rfl
  | [_] => rfl
  | n :: m :: ns => congrArg (seq (n.keepGroups keep)) (keepGroups_sequence keep (m :: ns))

theorem keepGroups_alternatives (keep : List Nat) : ∀ ns : List Node,
    (alternatives ns).keepGroups keep = alternatives (ns.map (keepGroups keep))
  | [] => rfl
  | [_] => rfl
  | n :: m :: ns => congrArg (alt (n.keepGroups keep)) (keepGroups_alternatives keep (m :: ns))

/-- A pattern without any group. -/
def bare (n : Node) : Node := n.keepGroups []

/-- A pattern that is regular with the groups it keeps keeps none. -/
theorem keepGroups_of_isRegular {keep : List Nat} : ∀ {n : Node},
    (n.keepGroups keep).isRegular = true → n.keepGroups keep = n.bare
  | .empty, _ | .one _, _ | .anyChar _, _ => rfl
  | .seq a b, h => by
    simp only [keepGroups, isRegular, Bool.and_eq_true] at h
    exact congrArg₂ seq (keepGroups_of_isRegular h.1) (keepGroups_of_isRegular h.2)
  | .alt a b, h => by
    simp only [keepGroups, isRegular, Bool.and_eq_true] at h
    exact congrArg₂ alt (keepGroups_of_isRegular h.1) (keepGroups_of_isRegular h.2)
  | .loop greed least most b, h => by
    simp only [keepGroups, isRegular, Bool.and_eq_true] at h
    exact congrArg (loop greed least most) (keepGroups_of_isRegular h.2)
  | .group i b, h => by
    simp only [keepGroups] at h ⊢
    split at h
    · cases h
    · next hkeep =>
      rw [if_neg hkeep]
      exact keepGroups_of_isRegular h

/-- A pattern that is regular without its groups looks none of them up. -/
theorem lookedUp_eq_nil : ∀ {n : Node}, n.bare.isRegular = true → n.lookedUp = []
  | .empty, _ | .one _, _ | .anyChar _, _ => rfl
  | .seq a b, h | .alt a b, h => by
    simp only [bare, keepGroups, isRegular, Bool.and_eq_true] at h
    rw [lookedUp, lookedUp_eq_nil h.1, lookedUp_eq_nil h.2]
    rfl
  | .loop greed least most b, h => by
    simp only [bare, keepGroups, isRegular, Bool.and_eq_true] at h
    exact lookedUp_eq_nil (n := b) h.2
  | .group i b, h => lookedUp_eq_nil (n := b) h

end Node

/-! ## 2. Levels -/

/-- What was read of the pattern or of a part in brackets. -/
structure Level where
  parts : List Part
  branches : List Node
  options : Options

def Part.bare : Part → Part
  | .anchor n => .anchor n.bare
  | .loop n => .loop n.bare
  | .other n => .other n.bare

theorem Part.node_bare (p : Part) : p.bare.node = p.node.bare := by
  cases p <;> rfl

namespace Level

def branch (l : Level) : Node := Node.sequence (l.parts.map Part.node).reverse

def whole (l : Level) : Node := Node.alternatives (l.branch :: l.branches).reverse

/-- The level without the groups that stand in it. -/
def bare (l : Level) : Level :=
  { l with parts := l.parts.map Part.bare, branches := l.branches.map Node.bare }

theorem branch_bare (l : Level) : l.bare.branch = l.branch.bare := by
  rw [branch, branch, Node.bare, Node.keepGroups_sequence, List.map_reverse, List.map_map]
  simp only [bare, List.map_map]
  refine congrArg (fun ns => Node.sequence (List.reverse ns)) (List.map_congr_left fun p _ => ?_)
  exact p.node_bare

theorem whole_bare (l : Level) : l.bare.whole = l.whole.bare := by
  rw [whole, whole, Node.bare, Node.keepGroups_alternatives, List.map_reverse, List.map_cons,
    branch_bare]
  rfl

/-- Everything in the level is regular. -/
structure Regular (l : Level) : Prop where
  parts : ∀ p ∈ l.parts, p.node.isRegular = true
  branches : ∀ b ∈ l.branches, b.isRegular = true

theorem regular_iff {l : Level} : l.Regular ↔ l.whole.isRegular = true := by
  rw [whole, isRegular_alternatives, branch]
  simp only [List.mem_reverse, List.forall_mem_cons, isRegular_sequence, List.forall_mem_map]
  exact ⟨fun h => ⟨h.parts, h.branches⟩, fun h => ⟨h.1, h.2⟩⟩

end Level

/-- The innermost level stands first. At the outermost one there is no bar and no option, and all
    is regular. -/
def Sound : List Level → Prop
  | [] => False
  | [l] => l.Regular ∧ l.branches = [] ∧ l.options = {}
  | l :: below => l.Regular ∧ Sound below

theorem Sound.head {l : Level} {ls : List Level} (h : Sound (l :: ls)) : l.Regular := by
  cases ls with
  | nil => exact h.1
  | cons => exact h.1

/-- Other regular parts may stand at the innermost level. -/
theorem Sound.replace {l l' : Level} {ls : List Level} (h : Sound (l :: ls)) (hl : l'.Regular)
    (hbranches : l'.branches = l.branches) (hoptions : l'.options = l.options) :
    Sound (l' :: ls) := by
  cases ls with
  | nil => exact ⟨hl, hbranches.trans h.2.1, hoptions.trans h.2.2⟩
  | cons => exact ⟨hl, h.2⟩

/-- What was read before, below the outermost level. -/
def upon (before : List Part) : List Level → List Level
  | [] => []
  | [l] => [{ l with parts := l.parts ++ before }]
  | l :: below => l :: upon before below

theorem length_upon (before : List Part) : ∀ ls, (upon before ls).length = ls.length
  | [] => rfl
  | [_] => rfl
  | _ :: l :: ls => congrArg Nat.succ (length_upon before (l :: ls))

/-! ## 3. Moves -/

/-- What a step does to the levels. -/
inductive Move where
  | skip
  | add (n : Node)
  | repeat (greed : Greed) (least : Nat) (most : Option Nat)
  | begin (options : Options)
  | close
  | bar

namespace Move

/-- The levels after a move, where it can be made. -/
def on : Move → List Level → Option (List Level)
  | skip, ls => some ls
  | add n, l :: ls => some ({ l with parts := .other n :: l.parts } :: ls)
  | .repeat greed least most, ⟨.other n :: parts, branches, options⟩ :: ls =>
    some (⟨.loop (.loop greed least most n) :: parts, branches, options⟩ :: ls)
  | begin options, l :: below => some (⟨[], [], options⟩ :: l :: below)
  | close, l :: f :: ls => some ({ f with parts := .other l.whole :: f.parts } :: ls)
  | bar, l :: f :: ls => some (⟨[], l.branch :: l.branches, l.options⟩ :: f :: ls)
  | _, _ => none

/-- **A move does not look at what was read before.** -/
theorem on_upon (before : List Part) : ∀ {m : Move} {ls ls' : List Level},
    m.on ls = some ls' → m.on (upon before ls) = some (upon before ls')
  | skip, ls, _, h => by
    obtain rfl := Option.some.inj h
    rfl
  | add n, [l], _, h | add n, l :: f :: below, _, h => by
    obtain rfl := Option.some.inj h
    rfl
  | .repeat greed least most, [⟨.other n :: parts, _, _⟩], _, h
  | .repeat greed least most, ⟨.other n :: parts, _, _⟩ :: f :: below, _, h => by
    obtain rfl := Option.some.inj h
    rfl
  | begin options, [l], _, h | begin options, l :: f :: below, _, h => by
    obtain rfl := Option.some.inj h
    rfl
  | close, [l, f], _, h | close, l :: f :: g :: below, _, h => by
    obtain rfl := Option.some.inj h
    rfl
  | bar, [l, f], _, h | bar, l :: f :: g :: below, _, h => by
    obtain rfl := Option.some.inj h
    rfl

/-- **What is sound after a move was so before.** -/
theorem sound_of_on : ∀ {m : Move} {ls ls' : List Level}, m.on ls = some ls' → Sound ls' → Sound ls
  | skip, ls, _, h, hsound => by
    obtain rfl := Option.some.inj h
    exact hsound
  | add n, l :: below, _, h, hsound => by
    obtain rfl := Option.some.inj h
    have hregular := hsound.head
    exact hsound.replace ⟨(List.forall_mem_cons.mp hregular.parts).2, hregular.branches⟩ rfl rfl
  | .repeat greed least most, ⟨.other n :: parts, _, _⟩ :: below, _, h, hsound => by
    obtain rfl := Option.some.inj h
    have hregular := hsound.head
    obtain ⟨hloop, hparts⟩ := List.forall_mem_cons.mp hregular.parts
    have hn : n.isRegular = true := ((Bool.and_eq_true _ _).mp hloop).2
    exact hsound.replace ⟨List.forall_mem_cons.mpr ⟨hn, hparts⟩, hregular.branches⟩ rfl rfl
  | begin options, l :: below, _, h, hsound => by
    obtain rfl := Option.some.inj h
    exact hsound.2
  | close, l :: f :: below, _, h, hsound => by
    obtain rfl := Option.some.inj h
    have hregular := hsound.head
    obtain ⟨hl, hparts⟩ := List.forall_mem_cons.mp hregular.parts
    exact ⟨Level.regular_iff.mpr hl, hsound.replace ⟨hparts, hregular.branches⟩ rfl rfl⟩
  | bar, l :: f :: below, _, h, hsound => by
    obtain rfl := Option.some.inj h
    obtain ⟨hl, hbranches⟩ := List.forall_mem_cons.mp hsound.head.branches
    refine ⟨⟨?_, hbranches⟩, hsound.2⟩
    simpa only [Level.branch, isRegular_sequence, List.mem_reverse, List.forall_mem_map] using hl

end Move

/-! ## 4. Moves of states -/

def State.level (s : State) : Level := ⟨s.parts, s.branches, s.options⟩

def Frame.level (f : Frame) : Level := ⟨f.parts, f.branches, f.options⟩

/-- The levels of a state, from the innermost one on, without groups. -/
def State.levels (s : State) : List Level := s.level.bare :: s.frames.map fun f => f.level.bare

/-- Whether a bracket does no more than hold a part together, or keep its text. -/
def Opening.isOrdinary : Opening → Bool
  | .plain | .capture _ => true
  | .atomic | .ahead _ | .behind _ _ | .present _ | .absent _ _ => false

/-- Nothing was read that the rest of the pattern, or what is wrong with it, depends on. -/
@[mk_iff]
structure Quiet (s : State) : Prop where
  names : s.groups.names = []
  asked : s.asked = []
  ascii : s.asciiSet = false
  unicode : s.unicodeSet = false
  late : s.late = none
  near : s.farLookBehind = false
  ordinary : ∀ f ∈ s.frames, f.opening.isOrdinary = true

/-- A state after a move, with what is left. -/
inductive Moved (left : List Token) : Move → State → State → Prop where
  | skip (s : State) : Moved left .skip s { s with left }
  | add (s : State) (n : Node) : Moved left (.add n.bare) s (s.addNode n left)
  | repeat {s : State} {n : Node} {parts : List Part} (greed : Greed) (least : Nat)
    (most : Option Nat) (h : s.parts = .other n :: parts) :
    Moved left (.repeat greed least most) s
      { s with parts := .loop (.loop greed least most n) :: parts, left }
  | begin (s : State) (start : Nat) (options : Options) :
    Moved left (.begin options) s (s.open' .plain start options left)
  | capture (s : State) (start : Nat) :
    Moved left (.begin s.options) s
      ({ s with groups := { s.groups with widths := s.groups.widths ++ [none] } }.open'
        (.capture (s.groups.widths.length + 1)) start s.options left)
  | close {s : State} {f : Frame} {frames : List Frame} (h : s.frames = f :: frames)
    (hf : f.opening.isOrdinary = true) : Moved left .close s (closeFrame s f frames left)
  | bar {s : State} {f : Frame} {frames : List Frame} (h : s.frames = f :: frames)
    (hf : f.opening.isOrdinary = true) :
    Moved left .bar s { s with left, parts := [], branches := s.branch :: s.branches }

namespace Moved

variable {left : List Token} {m : Move} {s next : State}

theorem left_eq (h : Moved left m s next) : next.left = left := by
  cases h with
  | @close _ f _ hframes hf =>
    obtain ⟨opening, start, parts, branches, options⟩ := f
    cases opening <;> rfl
  | _ => rfl

theorem quiet (h : Moved left m s next) : Quiet next ↔ Quiet s := by
  cases h with
  | skip | add | «repeat» | bar => simp only [quiet_iff, State.addNode, State.add]
  | begin | capture => simp [quiet_iff, State.open', Opening.isOrdinary]
  | @close _ f _ hframes hf =>
    obtain ⟨opening, start, parts, branches, options⟩ := f
    cases opening <;> simp_all [quiet_iff, closeFrame, State.close, Opening.isOrdinary]

theorem levels (h : Moved left m s next) : m.on s.levels = some next.levels := by
  cases h with
  | @close _ f _ hframes hf =>
    obtain ⟨opening, start, parts, branches, options⟩ := f
    rw [State.levels, hframes, List.map_cons, Move.on, Level.whole_bare]
    cases opening with
    | plain | capture => rfl
    | atomic | ahead | behind | present | absent => cases hf
  | bar hframes hf =>
    rw [State.levels, hframes, List.map_cons, Move.on, Level.branch_bare, State.levels]
    rfl
  | «repeat» greed least most h =>
    rw [State.levels, State.level, h]
    rfl
  | _ => rfl

end Moved

theorem parts_of_repeat {s : State} {greed : Greed} {least : Nat} {most : Option Nat}
    {ls : List Level} (h : (Move.repeat greed least most).on s.levels = some ls) :
    ∃ n parts, s.parts = .other n :: parts := by
  rw [State.levels, State.level] at h
  rcases hparts : s.parts with _ | ⟨p, parts⟩
  · rw [hparts] at h
    cases h
  · rw [hparts] at h
    cases p with
    | other n => exact ⟨n, parts, rfl⟩
    | anchor n => cases h
    | loop n => cases h

/-- A move that the outermost level alone does not allow is made within brackets. -/
theorem frames_of_on {m : Move} {s : State} {ls : List Level} (hm : m.on [s.level.bare] = none)
    (h : m.on s.levels = some ls) : ∃ f frames, s.frames = f :: frames := by
  refine List.exists_cons_of_ne_nil fun hnil => ?_
  rw [State.levels, hnil, List.map_nil, hm] at h
  cases h

end Reconcile.Pattern
