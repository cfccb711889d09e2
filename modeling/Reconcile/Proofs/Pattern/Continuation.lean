import Mathlib.Data.List.Basic
import Mathlib.Data.List.Infix
import Reconcile.Pattern.Reader
import Reconcile.Proofs.Traversal

/-!
# Readers of a text that goes on

What stands at the front of a pattern is read in the same way when more stands behind it, wherever
the whole stands. A reader looks at the next token at most, so this could only fail at the end of
what is there: where a reader stops there, it has to be known that it would stop before what is more.

* `Continues`: the tokens of a text that goes on; `Taken`: tokens taken one by one;
* **`Carries`**: a reader that does the same in a text that goes on; `carries_token`, `Carries.trans`:
  one token, and two readers, one after the other;
* `carries_accept`, `carries_refuse`, `carries_chars`, `carries_name`: the parts of all readers;
* `carries_hex`, `carries_named`, `carries_setEscape`, `carries_set`: escapes and sets;
* `carries_comment`, `carries_line`, `carries_flags`: comments and options.
-/

namespace Reconcile.Pattern

/-! ## 1. Tokens with more behind them -/

/-- The given tokens, perhaps at other positions, and more behind them. -/
def Continues (more : List Sign) (left left' : List Token) : Prop :=
  left'.map Token.sign = left.map Token.sign ++ more

/-- The sign that comes next. -/
def next? (left : List Token) : Option Sign := (left.map Token.sign).head?

/-- What comes next is no backslash at the end of the text. -/
def Clear (left : List Token) : Prop := next? left ≠ some .dangling

/-- Tokens that were taken one by one, each seen to have none behind it that cannot be taken. -/
inductive Taken : List Token → List Token → Prop where
  | none (left : List Token) : Taken left left
  | one {t : Token} {rest left : List Token} (h : Clear rest) (htaken : Taken rest left) :
    Taken (t :: rest) left

theorem settle_eq_ok_iff {rest left : List Token} :
    settle rest = .ok left ↔ Clear rest ∧ rest = left := by
  rcases rest with _ | ⟨⟨pos, sign⟩, rest⟩
  · simp [settle, Clear, next?]
  · cases sign <;> simp [settle, fault, Clear, next?]

namespace Taken

theorem trans {first second third : List Token} (h : Taken first second)
    (h' : Taken second third) : Taken first third := by
  induction h with
  | none => exact h'
  | one hclear _ ih => exact .one hclear (ih h')

theorem of_nil {left : List Token} (h : Taken [] left) : left = [] := by
  cases h
  rfl

theorem suffix {first second : List Token} (h : Taken first second) : second <:+ first := by
  induction h with
  | none => exact List.suffix_rfl
  | one _ _ ih => exact ih.trans (List.suffix_cons _ _)

/-- When nothing that is left ends with a backslash, nothing that was taken does. -/
theorem whole {first second : List Token} (h : Taken first second) (hclear : Clear first)
    (hsecond : .dangling ∉ second.map Token.sign) : .dangling ∉ first.map Token.sign := by
  induction h with
  | none => exact hsecond
  | one hrest _ ih =>
    rw [List.map_cons, List.mem_cons, not_or]
    exact ⟨fun hsign => hclear (congrArg some hsign.symm), ih hrest hsecond⟩

end Taken

section

variable {more : List Sign} {left left' : List Token} {t : Token}

theorem Continues.nil (h : Continues more [] left') : left'.map Token.sign = more := h

theorem Continues.cons (h : Continues more (t :: left) left') :
    ∃ t' rest, left' = t' :: rest ∧ t'.sign = t.sign ∧ Continues more left rest := by
  cases left' with
  | nil => cases h
  | cons t' rest =>
    obtain ⟨hsign, hrest⟩ := List.cons.inj h
    exact ⟨t', rest, rfl, hsign, hrest⟩

/-- What comes next is the same, or what more begins with at the end. -/
theorem Continues.next? (h : Continues more left left') :
    next? left' = if left = [] then more.head? else next? left := by
  rw [Pattern.next?, h]
  cases left with
  | nil => simp
  | cons t left => simp [Pattern.next?]

theorem Continues.clear (h : Continues more left left') (hmore : .dangling ∉ more)
    (hclear : Clear left) : Clear left' := by
  rw [Clear, h.next?]
  split
  · exact fun hhead => hmore (List.mem_of_mem_head? hhead)
  · exact hclear

end

/-- A reader took some tokens and left others. With more behind them, wherever they stand, it does
    the same and leaves as much with more behind -- as long as it would stop before what is more. -/
structure Carries (left rest : List Token) (stops : List Sign → Prop)
    (gives : List Token → List Token → Prop) : Prop where
  taken : Taken left rest
  go : ∀ ⦃more : List Sign⦄ ⦃left' : List Token⦄, .dangling ∉ more → Continues more left left' →
    stops more → ∃ rest', gives left' rest' ∧ Continues more rest rest'

namespace Carries

variable {left mid rest : List Token} {stops stops' : List Sign → Prop}
  {gives gives' : List Token → List Token → Prop}

theorem refl (left : List Token) (stops : List Sign → Prop) : Carries left left stops Eq :=
  ⟨.none left, fun _ left' _ h _ => ⟨left', rfl, h⟩⟩

theorem imp (h : Carries left rest stops gives) (hstops : ∀ more, stops' more → stops more)
    (hgives : ∀ l r, gives l r → gives' l r) : Carries left rest stops' gives' :=
  ⟨h.taken, fun more _ hmore hleft hstop =>
    let ⟨rest', hrest, hleft⟩ := h.go hmore hleft (hstops more hstop)
    ⟨rest', hgives _ _ hrest, hleft⟩⟩

/-- Two readers, one after the other. -/
theorem trans (h : Carries left mid stops gives) (h' : Carries mid rest stops' gives') :
    Carries left rest (fun more => stops more ∧ stops' more)
      fun l r => ∃ m, gives l m ∧ gives' m r := by
  refine ⟨h.taken.trans h'.taken, fun more left' hmore hleft hstop => ?_⟩
  obtain ⟨mid', hmid, hleft⟩ := h.go hmore hleft hstop.1
  obtain ⟨rest', hrest, hleft⟩ := h'.go hmore hleft hstop.2
  exact ⟨rest', ⟨mid', hmid, hrest⟩, hleft⟩

theorem andThen {ends : List Sign → Prop} {makes : List Token → List Token → Prop}
    (h : Carries left mid stops gives) (h' : Carries mid rest stops' gives')
    (hstops : ∀ more, ends more → stops more ∧ stops' more)
    (hgives : ∀ l m r, gives l m → gives' m r → makes l r) : Carries left rest ends makes :=
  (h.trans h').imp hstops fun l r ⟨m, hm, hr⟩ => hgives l m r hm hr

/-- With more behind them there are at least as many tokens. -/
theorem longer (h : Carries left rest stops gives) :
    Carries left rest stops fun l r => gives l r ∧ left.length ≤ l.length := by
  refine ⟨h.taken, fun more left' hmore hleft hstop => ?_⟩
  obtain ⟨rest', hrest, hrest'⟩ := h.go hmore hleft hstop
  have hlength := congrArg List.length hleft
  rw [List.length_map, List.length_append, List.length_map] at hlength
  exact ⟨rest', ⟨hrest, by omega⟩, hrest'⟩

/-- Where something is left, the same comes next. -/
theorem sameNext (h : Carries left rest stops gives) (hne : left ≠ []) :
    Carries left rest stops fun l r => gives l r ∧ next? l = next? left := by
  refine ⟨h.taken, fun more left' hmore hleft hstop => ?_⟩
  obtain ⟨rest', hrest, hrest'⟩ := h.go hmore hleft hstop
  exact ⟨rest', ⟨hrest, hleft.next?.trans (if_neg hne)⟩, hrest'⟩

end Carries

/-- No condition on what is more. -/
def Anything (_ : List Sign) : Prop := True

/-- A token that was taken. -/
theorem carries_token {t : Token} {rest : List Token} (hclear : Clear rest) :
    Carries (t :: rest) rest Anything
      fun l r => ∃ t', l = t' :: r ∧ t'.sign = t.sign ∧ settle r = .ok r := by
  refine ⟨.one hclear (.none rest), fun more left' hmore hleft _ => ?_⟩
  obtain ⟨t', rest', rfl, hsign, hrest⟩ := hleft.cons
  exact ⟨rest', ⟨t', rfl, hsign, settle_eq_ok_iff.mpr ⟨hrest.clear hmore hclear, rfl⟩⟩, hrest⟩

/-! ## 2. Characters and names -/

theorem accept?_eq (c : Char) (left : List Token) : accept? c left =
    if next? left = some (.plain c) then some <$> settle left.tail else .ok none := by
  rcases left with _ | ⟨⟨pos, sign⟩, left⟩
  · simp [accept?, next?]
  · cases sign <;> simp [accept?, next?]

theorem accept?_eq_some_iff {c : Char} {left rest : List Token} :
    accept? c left = .ok (some rest) ↔ ∃ t, left = t :: rest ∧ t.sign = .plain c ∧ Clear rest := by
  rw [accept?_eq]
  rcases left with _ | ⟨t, left⟩
  · simp [next?]
  · by_cases h : t.sign = .plain c
    · simp [next?, h, map_ok_iff, settle_eq_ok_iff]
      grind
    · simp [next?, h]

theorem accept?_eq_none_iff {c : Char} {left : List Token} :
    accept? c left = .ok none ↔ next? left ≠ some (.plain c) := by
  rw [accept?_eq]
  split
  · next h => simp [h, map_ok_iff]
  · next h => simp [h]

theorem carries_accept {c : Char} {left rest : List Token}
    (h : accept? c left = .ok (some rest)) :
    Carries left rest Anything fun l r => accept? c l = .ok (some r) := by
  obtain ⟨t, rfl, hsign, hclear⟩ := accept?_eq_some_iff.mp h
  refine (carries_token hclear).imp (fun _ h => h) ?_
  rintro _ r ⟨t', rfl, hsign', hsettle⟩
  exact accept?_eq_some_iff.mpr ⟨t', rfl, hsign'.trans hsign, (settle_eq_ok_iff.mp hsettle).1⟩

/-- A character that does not come next does not come next with more behind either, unless it is
    what more begins with. -/
theorem carries_refuse {c : Char} {left : List Token} (h : accept? c left = .ok none) :
    Carries left left (fun more => left = [] → more.head? ≠ some (.plain c))
      fun l r => accept? c l = .ok none ∧ l = r := by
  refine ⟨.none left, fun more left' _ hleft hstop => ⟨left', ⟨?_, rfl⟩, hleft⟩⟩
  rw [accept?_eq_none_iff, hleft.next?]
  split
  · next hnil => exact hstop hnil
  · exact accept?_eq_none_iff.mp h

/-- A character that passes a test comes next, or none does. -/
theorem passes_or_stops (test : Char → Bool) (left : List Token) :
    (∃ t rest c, left = t :: rest ∧ t.sign = .plain c ∧ test c = true) ∨
      ∀ c, next? left = some (.plain c) → test c = false := by
  by_cases hnext : ∃ c, next? left = some (.plain c) ∧ test c = true
  · obtain ⟨c, hc, htest⟩ := hnext
    cases left with
    | nil => cases hc
    | cons t rest => exact .inl ⟨t, rest, c, rfl, Option.some.inj hc, htest⟩
  · exact .inr fun c hc => Bool.not_eq_true _ ▸ fun htest => hnext ⟨c, hc, htest⟩

theorem takeChars_stays {test : Char → Bool} {left : List Token} (n : Nat)
    (h : ∀ c, next? left = some (.plain c) → test c = false) :
    takeChars test n left = .ok ([], left) := by
  cases n with
  | zero => rfl
  | succ n =>
    rcases left with _ | ⟨⟨pos, sign⟩, left⟩
    · rfl
    · cases sign with
      | plain c => simp [takeChars, h c rfl]
      | escaped c => rfl
      | dangling => rfl

theorem takeChars_goes {test : Char → Bool} {t : Token} {c : Char} (n : Nat) (rest : List Token)
    (hsign : t.sign = .plain c) (htest : test c = true) : takeChars test (n + 1) (t :: rest) =
      (do let (cs, left) ← takeChars test n (← settle rest)
          return (c :: cs, left)) := by
  obtain ⟨pos, sign⟩ := t
  obtain rfl : sign = .plain c := hsign
  rw [takeChars, if_pos htest]

/-- Fewer characters than asked for are taken only where one comes next that does not pass. -/
theorem carries_chars (test : Char → Bool) : ∀ {n : Nat} {left rest : List Token} {cs : List Char},
    takeChars test n left = .ok (cs, rest) →
    Carries left rest (fun more => rest = [] → cs.length < n →
        ∀ c, more.head? = some (.plain c) → test c = false)
      fun l r => takeChars test n l = .ok (cs, r)
  | 0, left, rest, cs, h => by
    obtain ⟨rfl, rfl⟩ := Prod.mk.inj (Except.ok.inj h)
    refine (Carries.refl left Anything).imp (fun _ _ => trivial) ?_
    rintro l _ rfl
    rfl
  | n + 1, left, rest, cs, h => by
    obtain ⟨t, left, c, rfl, hsign, htest⟩ | hstays := passes_or_stops test left
    · rw [takeChars_goes n left hsign htest] at h
      obtain ⟨_, hsettle, h⟩ := bind_ok_iff.mp h
      obtain ⟨hclear, rfl⟩ := settle_eq_ok_iff.mp hsettle
      obtain ⟨⟨cs', _⟩, hchars, h⟩ := bind_ok_iff.mp h
      obtain ⟨rfl, rfl⟩ := Prod.mk.inj (Except.ok.inj h)
      refine (carries_token hclear).andThen (carries_chars test hchars) ?_ ?_
      · exact fun more hstop => ⟨trivial, fun hnil hlength => hstop hnil (Nat.succ_lt_succ hlength)⟩
      · rintro _ l r ⟨t', rfl, hsign', hsettle⟩ hr
        rw [takeChars_goes n l (hsign'.trans hsign) htest, hsettle]
        simp only [bind, Except.bind, hr, pure, Except.pure]
    · rw [takeChars_stays (n + 1) hstays] at h
      obtain ⟨rfl, rfl⟩ := Prod.mk.inj (Except.ok.inj h)
      refine ⟨.none left, fun more left' _ hleft hstop => ⟨left', takeChars_stays _ ?_, hleft⟩⟩
      rw [hleft.next?]
      split
      · next hnil => exact hstop hnil (Nat.succ_pos n)
      · exact hstays

/-- A name ends with its terminator, so nothing that is more is looked at. -/
theorem carries_name (size size' : Nat) (terminator : Char) (what : String) :
    ∀ {left rest : List Token} {acc name : List Char},
    takeName size terminator what acc left = .ok (name, rest) →
    Carries left rest Anything fun l r => takeName size' terminator what acc l = .ok (name, r)
  | [], rest, acc, name, h => by
    unfold takeName at h
    split at h <;> cases h
  | t :: left, rest, acc, name, h => by
    unfold takeName at h
    obtain ⟨_, hsettle, h⟩ := bind_ok_iff.mp h
    obtain ⟨hclear, rfl⟩ := settle_eq_ok_iff.mp hsettle
    split at h
    · next hend =>
      split at h
      · cases h
      · next hacc =>
        obtain ⟨rfl, rfl⟩ := Prod.mk.inj (Except.ok.inj h)
        refine (carries_token hclear).imp (fun _ h => h) ?_
        rintro _ r ⟨t', rfl, hsign, hsettle⟩
        rw [takeName, hsettle]
        simp only [bind, Except.bind, hsign, hend, if_true, hacc, Bool.false_eq_true, if_false]
        rfl
    · next hend =>
      refine (carries_token hclear).andThen
        (carries_name size size' terminator what h) (fun _ h => ⟨h, h⟩) ?_
      rintro _ l r ⟨t', rfl, hsign, hsettle⟩ hr
      have hchars : t'.chars = t.chars := by rw [Token.chars, Token.chars, hsign]
      rw [takeName, hsettle]
      simp only [bind, Except.bind, hsign, hend, hchars, Bool.false_eq_true, if_false, hr]

/-! ## 3. Escapes and sets of characters -/

section

variable {size start : Nat} (size' : Nat) {c : Char} {left rest : List Token} {x : Piece}

theorem carries_hex {count : Nat} (h : readHex count start c left = .ok (x, rest)) :
    Carries left rest Anything fun l r => ∀ start', readHex count start' c l = .ok (x, r) := by
  obtain ⟨⟨ds, rest⟩, hchars, h⟩ := bind_ok_iff.mp h
  dsimp only at h
  by_cases hlength : ds.length = count
  · rw [if_neg (not_not.mpr hlength)] at h
    split at h
    · cases h
    · next hcode =>
      obtain ⟨rfl, rfl⟩ := Prod.mk.inj (Except.ok.inj h)
      refine (carries_chars _ hchars).imp (fun _ _ _ hfewer => ?_) fun l r hr start' => ?_
      · exact absurd hlength (Nat.ne_of_lt hfewer)
      · simp only [readHex, hr, bind, Except.bind, if_neg (not_not.mpr hlength), if_neg hcode]
        rfl
  · rw [if_pos hlength] at h
    cases h

theorem carries_named (h : readNamed size left = .ok (x, rest)) :
    Carries left rest Anything fun l r => readNamed size' l = .ok (x, r) := by
  obtain ⟨brace, hbrace, h⟩ := bind_ok_iff.mp h
  cases brace with
  | none => cases h
  | some mid =>
    obtain ⟨⟨name, after⟩, hname, h⟩ := bind_ok_iff.mp h
    dsimp only at h
    split at h
    · next n hn =>
      obtain ⟨rfl, rfl⟩ := Prod.mk.inj (Except.ok.inj h)
      refine (carries_accept hbrace).andThen (carries_name size size' _ _ hname)
        (fun _ h => ⟨h, h⟩) fun l m r hm hr => ?_
      simp only [readNamed, hm, bind, Except.bind, hr, hn]
      rfl
    · cases h

theorem carries_plainEscape (h : readPlainEscape start c left = .ok (x, rest)) :
    Carries left rest Anything fun l r => ∀ start', readPlainEscape start' c l = .ok (x, r) := by
  unfold readPlainEscape at h
  split at h
  · cases h
  · next hletter =>
    obtain ⟨rfl, rfl⟩ := Prod.mk.inj (Except.ok.inj h)
    refine (Carries.refl left _).imp (fun _ h => h) ?_
    rintro l _ rfl start'
    rw [readPlainEscape, if_neg hletter]

theorem carries_setEscape (h : readSetEscape size start c left = .ok (x, rest)) :
    Carries left rest
      (fun more => rest = [] → ∀ d, more.head? = some (.plain d) → isOctal d = false)
      fun l r => ∀ start', readSetEscape size' start' c l = .ok (x, r) := by
  unfold readSetEscape at h
  split at h
  · next piece hpiece =>
    obtain ⟨rfl, rfl⟩ := Prod.mk.inj (Except.ok.inj h)
    refine (Carries.refl left Anything).imp (fun _ _ => trivial) ?_
    rintro l _ rfl start'
    simp only [readSetEscape, hpiece]
    rfl
  · next hpiece =>
    split at h
    · next count hcount =>
      refine (carries_hex h).imp (fun _ _ => trivial) fun l r hr start' => ?_
      simp only [readSetEscape, hpiece, hcount]
      exact hr start'
    · next hcount =>
      split at h
      · next hname =>
        refine (carries_named size' h).imp (fun _ _ => trivial) fun l r hr start' => ?_
        simp only [readSetEscape, hpiece, hcount, hname, if_true]
        exact hr
      · next hname =>
        split at h
        · next hoctal =>
          obtain ⟨⟨ds, rest⟩, hchars, h⟩ := bind_ok_iff.mp h
          dsimp only at h
          split at h
          · cases h
          · next hcode =>
            obtain ⟨rfl, rfl⟩ := Prod.mk.inj (Except.ok.inj h)
            refine (carries_chars _ hchars).imp (fun _ hstop hnil _ => hstop hnil)
              fun l r hr start' => ?_
            simp only [readSetEscape, hpiece, hcount, hname, hoctal, hr, if_true, bind, Except.bind,
              if_neg hcode, Bool.false_eq_true, if_false]
            rfl
        · next hoctal =>
          refine (carries_plainEscape h).imp (fun _ _ => trivial) fun l r hr start' => ?_
          simp only [readSetEscape, hpiece, hcount, hname, hoctal, Bool.false_eq_true, if_false]
          exact hr start'

theorem carries_member {t : Token} (h : readMember size t left = .ok (x, rest)) :
    Carries left rest
      (fun more => rest = [] → ∀ d, more.head? = some (.plain d) → isOctal d = false)
      fun l r => ∀ t' : Token, t'.sign = t.sign → readMember size' t' l = .ok (x, r) := by
  unfold readMember at h
  split at h
  · next c hc =>
    obtain ⟨rfl, rfl⟩ := Prod.mk.inj (Except.ok.inj h)
    refine (Carries.refl left Anything).imp (fun _ _ => trivial) ?_
    rintro l _ rfl t' hsign
    simp only [readMember, hsign, hc]
  · next c hc =>
    refine (carries_setEscape size' h).imp (fun _ h => h) fun l r hr t' hsign => ?_
    simp only [readMember, hsign, hc]
    exact hr t'.pos
  · cases h

/-- A set ends with its closing bracket, so no member of it is at the end of what there is. -/
theorem carries_set {items : List Item} : ∀ {fuel : Nat} {acc : List Item} {left rest : List Token},
    readSet size start fuel acc left = .ok (items, rest) →
    Carries left rest Anything
      fun l r => ∀ start' fuel', fuel ≤ fuel' → readSet size' start' fuel' acc l = .ok (items, r)
  | 0, acc, left, rest, h => by
    rw [readSet] at h
    cases h
  | fuel + 1, acc, [], rest, h => by
    rw [readSet] at h
    cases h
  | fuel + 1, acc, t :: left, rest, h => by
    have hnonempty : ∀ {acc : List Item} {left : List Token},
        readSet size start fuel acc left = .ok (items, rest) → left ≠ [] := by
      rintro acc _ h rfl
      cases fuel <;> rw [readSet] at h <;> cases h
    rw [readSet] at h
    obtain ⟨_, hsettle, h⟩ := bind_ok_iff.mp h
    obtain ⟨hclear, rfl⟩ := settle_eq_ok_iff.mp hsettle
    split at h
    · next hend =>
      obtain ⟨rfl, rfl⟩ := Prod.mk.inj (Except.ok.inj h)
      refine (carries_token hclear).imp (fun _ h => h) ?_
      rintro _ r ⟨t', rfl, hsign, hsettle⟩ start' fuel' hfuel
      obtain ⟨fuel', rfl⟩ := Nat.exists_eq_add_of_lt (Nat.lt_of_succ_le hfuel)
      rw [readSet, hsettle]
      simp only [bind, Except.bind, hsign, hend, if_true]
      rfl
    · next hend =>
      obtain ⟨⟨low, mid⟩, hlow, h⟩ := bind_ok_iff.mp h
      dsimp only at h
      obtain ⟨dash, hdash, h⟩ := bind_ok_iff.mp h
      -- the first member, with a token of its own
      have hmember : mid ≠ [] → Carries (t :: left) mid Anything fun l r => ∃ t' m, l = t' :: m ∧
          t'.sign = t.sign ∧ settle m = .ok m ∧ readMember size' t' m = .ok (low, r) := by
        intro hmid
        refine (carries_token hclear).andThen (carries_member size' hlow)
          (fun _ _ => ⟨trivial, fun hnil => absurd hnil hmid⟩) ?_
        rintro _ m r ⟨t', rfl, hsign, hsettle⟩ hr
        exact ⟨t', m, rfl, hsign, hsettle, hr t' hsign⟩
      match dash, h with
      | none, h =>
        have hmid := hnonempty h
        have hset : Carries mid rest Anything fun l r => accept? '-' l = .ok none ∧
            ∀ start' fuel', fuel ≤ fuel' →
              readSet size' start' fuel' (low.item :: acc) l = .ok (items, r) := by
          refine (carries_refuse hdash).andThen (carries_set h)
            (fun _ h => ⟨fun hnil => absurd hnil hmid, h⟩) ?_
          rintro l _ r ⟨hrefuse, rfl⟩ hr
          exact ⟨hrefuse, hr⟩
        refine (hmember hmid).andThen hset (fun _ h => ⟨h, h⟩) ?_
        rintro _ m r ⟨t', l, rfl, hsign, hsettle, hread⟩ ⟨hrefuse, hr⟩ start' fuel' hfuel
        obtain ⟨fuel', rfl⟩ := Nat.exists_eq_add_of_lt (Nat.lt_of_succ_le hfuel)
        rw [readSet, hsettle]
        simp only [bind, Except.bind, hsign, hend, Bool.false_eq_true, if_false, hread, hrefuse]
        exact hr start' (fuel + fuel') (by omega)
      | some [], h => cases h
      | some (u :: after), h =>
        have hmid : mid ≠ [] := by
          rintro rfl
          obtain ⟨_, hcons, _⟩ := accept?_eq_some_iff.mp hdash
          cases hcons
        obtain ⟨_, hsettle, h⟩ := bind_ok_iff.mp h
        obtain ⟨hclear', rfl⟩ := settle_eq_ok_iff.mp hsettle
        have hdash' : Carries mid after Anything fun l r => ∃ u',
            accept? '-' l = .ok (some (u' :: r)) ∧ u'.sign = u.sign ∧ settle r = .ok r := by
          refine (carries_accept hdash).andThen (carries_token hclear') (fun _ h => ⟨h, h⟩) ?_
          rintro l _ r haccept ⟨u', rfl, hsign, hsettle⟩
          exact ⟨u', haccept, hsign, hsettle⟩
        split at h
        · next hlast =>
          obtain ⟨rfl, rfl⟩ := Prod.mk.inj (Except.ok.inj h)
          refine (hmember hmid).andThen hdash' (fun _ h => ⟨h, h⟩) ?_
          rintro _ m r ⟨t', l, rfl, hsign, hsettle, hread⟩ ⟨u', haccept, hsign', hsettle'⟩ start'
            fuel' hfuel
          obtain ⟨fuel', rfl⟩ := Nat.exists_eq_add_of_lt (Nat.lt_of_succ_le hfuel)
          rw [readSet, hsettle]
          simp only [bind, Except.bind, hsign, hend, Bool.false_eq_true, if_false, hread, haccept,
            hsettle', hsign', hlast, if_true]
          rfl
        · next hlast =>
          obtain ⟨⟨high, after'⟩, hhigh, h⟩ := bind_ok_iff.mp h
          dsimp only at h
          split at h
          · next l u =>
            split at h
            · cases h
            · next hle =>
              have hafter := hnonempty h
              refine ((hmember hmid).trans (hdash'.trans ((carries_member size' hhigh).trans
                (carries_set h)))).imp
                (fun _ h => ⟨h, h, fun hnil => absurd hnil hafter, h⟩) ?_
              rintro _ r ⟨m₁, ⟨t', m, rfl, hsign, hsettle, hread⟩, m₂, ⟨u', haccept, hsign',
                hsettle'⟩, m₃, hread', hr⟩ start' fuel' hfuel
              obtain ⟨fuel', rfl⟩ := Nat.exists_eq_add_of_lt (Nat.lt_of_succ_le hfuel)
              rw [readSet, hsettle]
              simp only [bind, Except.bind, hsign, hend, Bool.false_eq_true, if_false, hread,
                haccept, hsettle', hsign', hlast, hread' u' hsign', hle]
              exact hr start' (fuel + fuel') (by omega)
          · cases h

end

/-! ## 4. Comments and options -/

section

variable {size start : Nat} (size' : Nat) {left rest : List Token} {c : Char}
  {on off acc : List Char}

theorem carries_comment : ∀ {left : List Token}, skipComment start left = .ok rest →
    Carries left rest Anything fun l r => ∀ start', skipComment start' l = .ok r
  | [], h => by cases h
  | t :: left, h => by
    rw [skipComment] at h
    obtain ⟨_, hsettle, h⟩ := bind_ok_iff.mp h
    obtain ⟨hclear, rfl⟩ := settle_eq_ok_iff.mp hsettle
    split at h
    · next hend =>
      obtain rfl := Except.ok.inj h
      refine (carries_token hclear).imp (fun _ h => h) ?_
      rintro _ r ⟨t', rfl, hsign, hsettle⟩ start'
      simp only [skipComment, hsettle, bind, Except.bind, hsign, hend, if_true]
      rfl
    · next hend =>
      refine (carries_token hclear).andThen (carries_comment h) (fun _ h => ⟨h, h⟩) ?_
      rintro _ l r ⟨t', rfl, hsign, hsettle⟩ hr start'
      simp only [skipComment, hsettle, bind, Except.bind, hsign, hend, Bool.false_eq_true, if_false]
      exact hr start'

/-- A comment up to the end of its line goes on where nothing ends it. -/
theorem carries_line : ∀ {left : List Token}, skipLine left = .ok rest →
    Carries left rest (fun _ => rest ≠ []) fun l r => skipLine l = .ok r
  | [], h => by
    obtain rfl := Except.ok.inj h
    exact ⟨.none [], fun _ _ _ _ hne => absurd rfl hne⟩
  | t :: left, h => by
    rw [skipLine] at h
    obtain ⟨_, hsettle, h⟩ := bind_ok_iff.mp h
    obtain ⟨hclear, rfl⟩ := settle_eq_ok_iff.mp hsettle
    split at h
    · next hend =>
      obtain rfl := Except.ok.inj h
      refine (carries_token hclear).imp (fun _ _ => trivial) ?_
      rintro _ r ⟨t', rfl, hsign, hsettle⟩
      simp only [skipLine, hsettle, bind, Except.bind, hsign, hend, if_true]
      rfl
    · next hend =>
      refine (carries_token hclear).andThen (carries_line h) (fun _ h => ⟨trivial, h⟩) ?_
      rintro _ l r ⟨t', rfl, hsign, hsettle⟩ hr
      simp only [skipLine, hsettle, bind, Except.bind, hsign, hend, Bool.false_eq_true, if_false]
      exact hr

theorem notAFlag_ne_ok {α : Type} {t : Token} {otherwise : Cause} {a : α} :
    notAFlag size t otherwise left ≠ .ok a := nofun

theorem carries_flagsOn {stop : Char} : ∀ {left : List Token} {c : Char} {acc : List Char},
    readFlagsOn size c acc left = .ok (on, stop, rest) →
    Carries left rest Anything fun l r => readFlagsOn size' c acc l = .ok (on, stop, r)
  | [], c, acc, h => by
    unfold readFlagsOn at h
    split at h
    · cases h
    · split at h <;> cases h
  | t :: left, c, acc, h => by
    unfold readFlagsOn at h
    split at h
    · cases h
    · next hlocale =>
      split at h
      · cases h
      · next htype =>
        obtain ⟨_, hsettle, h⟩ := bind_ok_iff.mp h
        obtain ⟨hclear, rfl⟩ := settle_eq_ok_iff.mp hsettle
        split at h
        · next d hd =>
          split at h
          · next hend =>
            obtain ⟨rfl, hmore⟩ := Prod.mk.inj (Except.ok.inj h)
            obtain ⟨rfl, rfl⟩ := Prod.mk.inj hmore
            refine (carries_token hclear).imp (fun _ h => h) ?_
            rintro _ r ⟨t', rfl, hsign, hsettle⟩
            unfold readFlagsOn
            simp only [hlocale, htype, hsettle, bind, Except.bind, hsign, hd, hend,
              Bool.false_eq_true, if_false, if_true]
            rfl
          · next hend =>
            split at h
            · next hletter =>
              refine (carries_token hclear).andThen (carries_flagsOn h) (fun _ h => ⟨h, h⟩) ?_
              rintro _ l r ⟨t', rfl, hsign, hsettle⟩ hr
              unfold readFlagsOn
              simp only [hlocale, htype, hsettle, bind, Except.bind, hsign, hd, hend, hletter,
                Bool.false_eq_true, if_false, if_true]
              exact hr
            · exact absurd h notAFlag_ne_ok
        · exact absurd h notAFlag_ne_ok

theorem carries_flagsOff : ∀ {left : List Token} {c : Char} {acc : List Char},
    readFlagsOff size c acc left = .ok (off, rest) →
    Carries left rest Anything fun l r => readFlagsOff size' c acc l = .ok (off, r)
  | [], c, acc, h => by
    unfold readFlagsOff at h
    split at h <;> cases h
  | t :: left, c, acc, h => by
    unfold readFlagsOff at h
    split at h
    · cases h
    · next htype =>
      obtain ⟨_, hsettle, h⟩ := bind_ok_iff.mp h
      obtain ⟨hclear, rfl⟩ := settle_eq_ok_iff.mp hsettle
      split at h
      · next d hd =>
        split at h
        · next hend =>
          obtain ⟨rfl, rfl⟩ := Prod.mk.inj (Except.ok.inj h)
          refine (carries_token hclear).imp (fun _ h => h) ?_
          rintro _ r ⟨t', rfl, hsign, hsettle⟩
          unfold readFlagsOff
          simp only [htype, hsettle, bind, Except.bind, hsign, hd, hend, Bool.false_eq_true,
            if_false, if_true]
          rfl
        · next hend =>
          split at h
          · next hletter =>
            refine (carries_token hclear).andThen (carries_flagsOff h) (fun _ h => ⟨h, h⟩) ?_
            rintro _ l r ⟨t', rfl, hsign, hsettle⟩ hr
            unfold readFlagsOff
            simp only [htype, hsettle, bind, Except.bind, hsign, hd, hend, hletter,
              Bool.false_eq_true, if_false, if_true]
            exact hr
          · exact absurd h notAFlag_ne_ok
      · exact absurd h notAFlag_ne_ok

theorem carries_scoped {on' : List Char} (h : readScoped size on left = .ok (.scoped on' off rest)) :
    Carries left rest Anything fun l r => readScoped size' on l = .ok (.scoped on' off r) := by
  cases left with
  | nil => cases h
  | cons t left =>
    unfold readScoped at h
    obtain ⟨_, hsettle, h⟩ := bind_ok_iff.mp h
    obtain ⟨hclear, rfl⟩ := settle_eq_ok_iff.mp hsettle
    split at h
    · next d hd =>
      split at h
      · next hletter =>
        obtain ⟨⟨off', mid⟩, hoff, h⟩ := bind_ok_iff.mp h
        dsimp only at h
        split at h
        · cases h
        · next htemplate =>
          split at h
          · cases h
          · next hboth =>
            obtain ⟨rfl, rfl, rfl⟩ := FlagGroup.scoped.inj (Except.ok.inj h)
            refine (carries_token hclear).andThen (carries_flagsOff size' hoff)
              (fun _ h => ⟨h, h⟩) ?_
            rintro _ l r ⟨t', rfl, hsign, hsettle⟩ hr
            unfold readScoped
            simp only [hsettle, bind, Except.bind, hsign, hd, hletter, hr, htemplate, hboth,
              Bool.false_eq_true, if_false, if_true]
            rfl
      · exact absurd h notAFlag_ne_ok
    · exact absurd h notAFlag_ne_ok

theorem carries_flags (h : readFlags size c left = .ok (.scoped on off rest)) :
    Carries left rest Anything fun l r => readFlags size' c l = .ok (.scoped on off r) := by
  unfold readFlags at h
  split at h
  · next hminus =>
    refine (carries_scoped size' h).imp (fun _ h => h) fun l r hr => ?_
    rw [readFlags, if_pos hminus]
    exact hr
  · next hminus =>
    obtain ⟨⟨on', stop, mid⟩, hon, h⟩ := bind_ok_iff.mp h
    dsimp only at h
    split at h
    · cases h
    · next hglobal =>
      split at h
      · cases h
      · next htemplate =>
        split at h
        · next hstop =>
          refine (carries_flagsOn size' hon).andThen (carries_scoped size' h)
            (fun _ h => ⟨h, h⟩) fun l m r hm hr => ?_
          simp only [readFlags, hminus, bind, Except.bind, hm, hglobal, htemplate, hstop,
            Bool.false_eq_true, if_false, if_true]
          exact hr
        · next hstop =>
          obtain ⟨rfl, rfl, rfl⟩ := FlagGroup.scoped.inj (Except.ok.inj h)
          refine (carries_flagsOn size' hon).imp (fun _ h => h) fun l r hr => ?_
          simp only [readFlags, hminus, bind, Except.bind, hr, hglobal, htemplate, hstop,
            Bool.false_eq_true, if_false]
          rfl

/-- The letter that begins options is one of them. -/
theorem mem_of_flagsOn {stop : Char} : ∀ {left : List Token} {c : Char} {acc : List Char},
    readFlagsOn size c acc left = .ok (on, stop, rest) → c ∈ on ∧ acc ⊆ on ∧ c ≠ 'L'
  | [], c, acc, h => by
    unfold readFlagsOn at h
    split at h
    · cases h
    · split at h <;> cases h
  | t :: left, c, acc, h => by
    unfold readFlagsOn at h
    split at h
    · cases h
    · next hlocale =>
      have hne : c ≠ 'L' := fun heq => hlocale (beq_iff_eq.mpr heq)
      split at h
      · cases h
      · obtain ⟨_, hsettle, h⟩ := bind_ok_iff.mp h
        obtain ⟨hclear, rfl⟩ := settle_eq_ok_iff.mp hsettle
        split at h
        · split at h
          · obtain ⟨rfl, _⟩ := Prod.mk.inj (Except.ok.inj h)
            exact ⟨List.mem_cons_self, List.subset_cons_self _ _, hne⟩
          · split at h
            · obtain ⟨_, hacc, _⟩ := mem_of_flagsOn h
              obtain ⟨hc, hacc⟩ := List.cons_subset.mp hacc
              exact ⟨hc, hacc, hne⟩
            · exact absurd h notAFlag_ne_ok
        · exact absurd h notAFlag_ne_ok

theorem scoped_of_readScoped {g : FlagGroup} (h : readScoped size on left = .ok g) :
    ∃ on' off rest, g = .scoped on' off rest := by
  cases left with
  | nil => cases h
  | cons t left =>
    unfold readScoped at h
    obtain ⟨_, _, h⟩ := bind_ok_iff.mp h
    split at h
    · split at h
      · obtain ⟨⟨off', mid⟩, hoff, h⟩ := bind_ok_iff.mp h
        dsimp only at h
        split at h
        · cases h
        · split at h
          · cases h
          · exact ⟨_, _, _, (Except.ok.inj h).symm⟩
      · exact absurd h notAFlag_ne_ok
    · exact absurd h notAFlag_ne_ok

theorem mem_of_global (h : readFlags size c left = .ok (.global on rest)) :
    c ∈ on ∧ c ≠ 'L' ∧ c ≠ '-' := by
  unfold readFlags at h
  split at h
  · obtain ⟨_, _, _, hscoped⟩ := scoped_of_readScoped h
    cases hscoped
  · next hminus =>
    obtain ⟨⟨on', stop, mid⟩, hon, h⟩ := bind_ok_iff.mp h
    dsimp only at h
    split at h
    · obtain ⟨rfl, rfl⟩ := FlagGroup.global.inj (Except.ok.inj h)
      obtain ⟨hc, _, hne⟩ := mem_of_flagsOn hon
      exact ⟨hc, hne, fun heq => hminus (beq_iff_eq.mpr heq)⟩
    · split at h
      · cases h
      · split at h
        · obtain ⟨_, _, _, hscoped⟩ := scoped_of_readScoped h
          cases hscoped
        · cases h

end

end Reconcile.Pattern
