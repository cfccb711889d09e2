import Mathlib.Data.List.Basic
import Mathlib.Data.List.Infix
import Reconcile.Proofs.Pattern.Continuation

/-!
# Marks that more could complete

Two marks of a pattern are read as far as they go: a character code of up to three octal digits, and
a count in braces, which stands for itself as long as it is not complete. These are the only ones
that what stands behind a pattern can change.

* `Mark`, `Joined`: such marks, and texts of which the first one ends within one;
* `takeChars_spans`, `carries_span`: as many characters as there are;
* **`readBraces_ne_none_iff`**: what counts in braces; `carries_braces`, `braces_none_continues`: it
  does, or does not, in a text that goes on;
* **`carries_escape`**: escapes in a text that goes on.
-/

namespace Reconcile.Pattern

open Reconcile.Text

/-! ## 1. Marks -/

/-- What stands in braces as a count. -/
inductive Counted : List Sign → Prop where
  | exactly (low : List Char) (h : ∀ c ∈ low, isPlainDigit c = true) : Counted (low.map .plain)
  | between (low high : List Char) (h : ∀ c ∈ low, isPlainDigit c = true)
    (h' : ∀ c ∈ high, isPlainDigit c = true) :
    Counted (low.map .plain ++ .plain ',' :: high.map .plain)

/-- Marks of several signs that a shorter one could be the beginning of: codes of octal digits, and
    counts in braces. -/
inductive Mark : List Sign → Prop where
  | octal (ds : List Char) (h : ∀ d ∈ ds, isOctal d = true) (hlength : ds.length ≤ 2) :
    Mark (.escaped '0' :: ds.map .plain)
  | count {inner : List Sign} (h : Counted inner) (hne : inner ≠ []) :
    Mark (.plain '{' :: inner ++ [.plain '}'])

/-- Signs at the end of a text are one mark together with signs at the front of what is more. -/
def Joined (signs more : List Sign) : Prop :=
  ∃ a u v b, signs = a ++ u ∧ more = v ++ b ∧ u ≠ [] ∧ v ≠ [] ∧ Mark (u ++ v)

theorem Joined.of_suffix {signs signs' more : List Sign} (h : Joined signs more)
    (hsuffix : signs <:+ signs') : Joined signs' more := by
  obtain ⟨a, u, v, b, rfl, rfl, hu, hv, hmark⟩ := h
  obtain ⟨a', rfl⟩ := hsuffix
  exact ⟨a' ++ a, u, v, b, (List.append_assoc _ _ _).symm, rfl, hu, hv, hmark⟩

/-- Only a code of octal digits or a brace begins a mark that could go on. -/
theorem not_joined {signs more : List Sign} (hoctal : .escaped '0' ∉ signs)
    (hbrace : .plain '\x7b' ∉ signs) : ¬ Joined signs more := by
  rintro ⟨a, u, v, b, rfl, rfl, hu, _, hmark⟩
  obtain ⟨sign, u, rfl⟩ := List.exists_cons_of_ne_nil hu
  rw [List.cons_append] at hmark
  generalize u ++ v = rest at hmark
  cases hmark with
  | octal => exact hoctal (List.mem_append_right a List.mem_cons_self)
  | count => exact hbrace (List.mem_append_right a List.mem_cons_self)

/-! ## 2. Spans of characters -/

section

variable {test : Char → Bool}

/-- Characters that pass a test, and something else behind them. -/
structure Spans (test : Char → Bool) (signs rest : List Sign) (cs : List Char) : Prop where
  signs : signs = cs.map .plain ++ rest
  all : ∀ c ∈ cs, test c = true
  ends : ∀ c, rest.head? = some (.plain c) → test c = false

theorem Spans.unique {signs rest rest' : List Sign} {cs cs' : List Char}
    (h : Spans test signs rest cs) (h' : Spans test signs rest' cs') : cs = cs' ∧ rest = rest' := by
  obtain ⟨rfl, hall, hends⟩ := h
  obtain ⟨hsigns, hall', hends'⟩ := h'
  induction cs generalizing cs' with
  | nil =>
    cases cs' with
    | nil => exact ⟨rfl, hsigns⟩
    | cons c cs' =>
      have hpasses := hall' c List.mem_cons_self
      rw [hends c (by rw [show rest = _ from hsigns]; rfl)] at hpasses
      cases hpasses
  | cons c cs ih =>
    cases cs' with
    | nil =>
      have hpasses := hall c List.mem_cons_self
      rw [hends' c (by rw [← show _ = rest' from hsigns]; rfl)] at hpasses
      cases hpasses
    | cons c' cs' =>
      obtain ⟨hc, hrest⟩ := List.cons.inj hsigns
      obtain rfl := Sign.plain.inj hc
      obtain ⟨rfl, rfl⟩ := ih (fun c hc => hall c (List.mem_cons_of_mem _ hc)) hrest
        fun c hc => hall' c (List.mem_cons_of_mem _ hc)
      exact ⟨rfl, rfl⟩

theorem clear_of_not_mem {left : List Token} (h : .dangling ∉ left.map Token.sign) : Clear left :=
  fun hnext => h (List.mem_of_mem_head? hnext)

/-- All characters that pass are taken when as many are asked for as there could be. -/
theorem takeChars_spans (test : Char → Bool) : ∀ {n : Nat} {left : List Token},
    .dangling ∉ left.map Token.sign → left.length ≤ n → ∃ cs rest,
      takeChars test n left = .ok (cs, rest) ∧
      Spans test (left.map Token.sign) (rest.map Token.sign) cs ∧
      .dangling ∉ rest.map Token.sign
  | n, left, hleft, hlength => by
    obtain ⟨t, left, c, rfl, hsign, htest⟩ | hstays := passes_or_stops test left
    · cases n with
      | zero => cases hlength
      | succ n =>
        have hleft' : .dangling ∉ left.map Token.sign := fun h => hleft (List.mem_cons_of_mem _ h)
        obtain ⟨cs, rest, hchars, hspans, hrest⟩ :=
          takeChars_spans test hleft' (Nat.le_of_succ_le_succ hlength)
        refine ⟨c :: cs, rest, ?_, ⟨?_, ?_, hspans.ends⟩, hrest⟩
        · rw [takeChars_goes n left hsign htest,
            settle_eq_ok_iff.mpr ⟨clear_of_not_mem hleft', rfl⟩]
          simp only [bind, Except.bind, hchars]
          rfl
        · rw [List.map_cons, hsign, hspans.signs]
          rfl
        · exact List.forall_mem_cons.mpr ⟨htest, hspans.all⟩
    · exact ⟨[], left, takeChars_stays n hstays, ⟨rfl, nofun, hstays⟩, hleft⟩

/-- More may be asked for where something else comes next. -/
theorem takeChars_mono {test : Char → Bool} : ∀ {n m : Nat} {left rest : List Token}
    {cs : List Char}, takeChars test n left = .ok (cs, rest) → n ≤ m →
    (cs.length < n ∨ ∀ c, next? rest = some (.plain c) → test c = false) →
    takeChars test m left = .ok (cs, rest)
  | n, m, left, rest, cs, h, hle, hstop => by
    obtain ⟨t, left, c, rfl, hsign, htest⟩ | hstays := passes_or_stops test left
    · cases n with
      | zero =>
        obtain ⟨rfl, rfl⟩ := Prod.mk.inj (Except.ok.inj h)
        have hfails := hstop.resolve_left (Nat.lt_irrefl 0) c (congrArg some hsign)
        rw [htest] at hfails
        cases hfails
      | succ n =>
        obtain ⟨m, rfl⟩ := Nat.exists_eq_add_of_lt (Nat.lt_of_succ_le hle)
        rw [takeChars_goes n left hsign htest] at h
        rw [takeChars_goes _ left hsign htest]
        obtain ⟨left, hsettle, h⟩ := bind_ok_iff.mp h
        obtain ⟨⟨cs', _⟩, hchars, h⟩ := bind_ok_iff.mp h
        obtain ⟨rfl, rfl⟩ := Prod.mk.inj (Except.ok.inj h)
        rw [hsettle]
        have hmore := takeChars_mono hchars (show n ≤ n + m by omega)
          (hstop.imp_left Nat.lt_of_succ_lt_succ)
        simp only [bind, Except.bind, hmore]
        rfl
    · rw [takeChars_stays n hstays] at h
      rw [takeChars_stays m hstays, h]

/-- What is taken stands at the front and passes. -/
theorem takeChars_signs {test : Char → Bool} : ∀ {n : Nat} {left rest : List Token}
    {cs : List Char}, takeChars test n left = .ok (cs, rest) →
    left.map Token.sign = cs.map .plain ++ rest.map Token.sign ∧ ∀ c ∈ cs, test c = true
  | 0, left, rest, cs, h => by
    obtain ⟨rfl, rfl⟩ := Prod.mk.inj (Except.ok.inj h)
    exact ⟨rfl, nofun⟩
  | n + 1, left, rest, cs, h => by
    unfold takeChars at h
    split at h
    · split at h
      · next htest =>
        obtain ⟨left, hsettle, h⟩ := bind_ok_iff.mp h
        obtain ⟨_, rfl⟩ := settle_eq_ok_iff.mp hsettle
        obtain ⟨⟨cs', _⟩, hchars, h⟩ := bind_ok_iff.mp h
        obtain ⟨rfl, rfl⟩ := Prod.mk.inj (Except.ok.inj h)
        obtain ⟨hsigns, hall⟩ := takeChars_signs hchars
        exact ⟨congrArg _ hsigns, List.forall_mem_cons.mpr ⟨htest, hall⟩⟩
      · obtain ⟨rfl, rfl⟩ := Prod.mk.inj (Except.ok.inj h)
        exact ⟨rfl, nofun⟩
    · obtain ⟨rfl, rfl⟩ := Prod.mk.inj (Except.ok.inj h)
      exact ⟨rfl, nofun⟩

/-- Characters that are taken as far as they go, with something else behind them. -/
theorem carries_span {test : Char → Bool} {left rest : List Token} {cs : List Char}
    (h : takeChars test left.length left = .ok (cs, rest)) (hrest : rest ≠ []) :
    Carries left rest Anything fun l r => takeChars test l.length l = .ok (cs, r) := by
  have hcarries := carries_chars test h
  refine ⟨hcarries.taken, fun more left' hmore hleft _ => ?_⟩
  obtain ⟨rest', hchars, hrest'⟩ := hcarries.go hmore hleft fun hnil => absurd hnil hrest
  have hlength : left'.length = left.length + more.length := by
    simpa using congrArg List.length hleft
  have hfewer : cs.length < left.length := by
    have hsigns := congrArg List.length (takeChars_signs h).1
    have := List.length_pos_iff.mpr hrest
    simp only [List.length_append, List.length_map] at hsigns
    omega
  exact ⟨rest', takeChars_mono hchars (by omega) (.inl hfewer), hrest'⟩

end

/-! ## 3. Counts in braces -/

/-- The number of repetitions that two numbers in braces ask for, the first of which stands at the
    given position. -/
def countOf (start : Nat) (low high : List Char) (after : List Token) :
    Except Fault (Option (Count × List Token)) :=
  (if low.isEmpty then pure 0 else readCount low) >>= fun least =>
    (if high.isEmpty then pure none else some <$> readCount high) >>= fun most =>
      match most with
      | some m =>
        if m < least then fault .leastAboveMost start else .ok (some (⟨least, some m⟩, after))
      | none => .ok (some (⟨least, none⟩, after))

/-- The second number of a count in braces, which is the first one where no comma follows. -/
def readHigh (low : List Char) (rest : List Token) : Except Fault (List Char × List Token) :=
  accept? ',' rest >>= fun
    | some more => takeChars isPlainDigit more.length more
    | none => .ok (low, rest)

theorem readBraces_eq (left : List Token) : readBraces left =
    takeChars isPlainDigit left.length left >>= fun (low, rest) => readHigh low rest >>=
      fun (high, rest) => accept? '}' rest >>= fun
        | none => .ok none
        | some after => countOf (tell 0 left) low high after := by
  have hcount : ∀ low high : List Char, ∀ after, countOf (tell 0 left) low high after = do
      let least ← if low.isEmpty then pure 0 else readCount low
      let most ← if high.isEmpty then pure none else some <$> readCount high
      match most with
      | some m =>
        if m < least then fault .leastAboveMost (tell 0 left)
        else return some (⟨least, some m⟩, after)
      | none => return some (⟨least, none⟩, after) := by
    intro low high after
    rw [countOf]
    split
    · split <;> rfl
    · cases readCount low with
      | error e => rfl
      | ok least => split <;> rfl
  simp only [hcount, readHigh]
  rw [readBraces]
  cases takeChars isPlainDigit left.length left with
  | error e => rfl
  | ok x =>
    simp only [bind, Except.bind]
    cases accept? ',' x.2 with
    | error e => rfl
    | ok comma =>
      cases comma <;> rfl

theorem countOf_eq_ok {start : Nat} {low high : List Char} {after : List Token}
    {x : Option (Count × List Token)} (h : countOf start low high after = .ok x) :
    ∃ count, x = some (count, after) ∧
      ∀ start' after', countOf start' low high after' = .ok (some (count, after')) := by
  obtain ⟨least, hleast, h⟩ := bind_ok_iff.mp h
  obtain ⟨most, hmost, h⟩ := bind_ok_iff.mp h
  cases most with
  | none =>
    refine ⟨⟨least, none⟩, (Except.ok.inj h).symm, fun start' after' => ?_⟩
    rw [countOf, hleast, hmost]
    rfl
  | some m =>
    dsimp only at h
    split at h
    · cases h
    · next hle =>
      refine ⟨⟨least, some m⟩, (Except.ok.inj h).symm, fun start' after' => ?_⟩
      rw [countOf, hleast, hmost]
      simp only [bind, Except.bind, if_neg hle]

theorem ne_nil_of_accept {c : Char} {left rest : List Token}
    (h : accept? c left = .ok (some rest)) : left ≠ [] := by
  obtain ⟨t, rfl, _⟩ := accept?_eq_some_iff.mp h
  exact List.cons_ne_nil t rest

theorem carries_high {low high : List Char} {left rest : List Token}
    (h : readHigh low left = .ok (high, rest)) (hrest : rest ≠ []) :
    Carries left rest Anything fun l r => readHigh low l = .ok (high, r) := by
  obtain ⟨comma, hcomma, h⟩ := bind_ok_iff.mp h
  cases comma with
  | none =>
    obtain ⟨rfl, rfl⟩ := Prod.mk.inj (Except.ok.inj h)
    refine (carries_refuse hcomma).imp (fun _ _ hnil => absurd hnil hrest) ?_
    rintro l _ ⟨hcomma, rfl⟩
    rw [readHigh, hcomma]
    rfl
  | some more =>
    refine (carries_accept hcomma).andThen (carries_span h hrest) (fun _ h => ⟨h, h⟩)
      fun l m r hcomma hhigh => ?_
    rw [readHigh, hcomma]
    exact hhigh

/-- A count in braces ends with the closing one. -/
theorem carries_braces {left rest : List Token} {count : Count}
    (h : readBraces left = .ok (some (count, rest))) :
    Carries left rest Anything fun l r => readBraces l = .ok (some (count, r)) := by
  rw [readBraces_eq] at h
  obtain ⟨⟨low, mid⟩, hlow, h⟩ := bind_ok_iff.mp h
  obtain ⟨⟨high, mid'⟩, hhigh, h⟩ := bind_ok_iff.mp h
  obtain ⟨brace, hbrace, h⟩ := bind_ok_iff.mp h
  cases brace with
  | none => cases h
  | some after =>
    obtain ⟨_, hcount, hgives⟩ := countOf_eq_ok h
    obtain ⟨rfl, rfl⟩ := Prod.mk.inj (Option.some.inj hcount)
    have hmid' := ne_nil_of_accept hbrace
    have hmid : mid ≠ [] := by
      rintro rfl
      exact hmid' (carries_high hhigh hmid').taken.of_nil
    refine ((carries_span hlow hmid).trans ((carries_high hhigh hmid').trans
      (carries_accept hbrace))).imp (fun _ h => ⟨h, h, h⟩) ?_
    rintro l r ⟨m, hlow, m', hhigh, hbrace⟩
    simp only [readBraces_eq, hlow, hhigh, hbrace, bind, Except.bind, hgives]

theorem Spans.of_stop {test : Char → Bool} {cs : List Char} {d : Char} (rest : List Sign)
    (hall : ∀ c ∈ cs, test c = true) (hd : test d = false) :
    Spans test (cs.map .plain ++ .plain d :: rest) (.plain d :: rest) cs :=
  ⟨rfl, hall, fun c hc => by rwa [← Sign.plain.inj (Option.some.inj hc)]⟩

/-- **What counts in braces** is told by the signs: digits, perhaps a comma and digits, and the
    closing brace. -/
theorem readBraces_ne_none_iff {left : List Token} (hleft : .dangling ∉ left.map Token.sign) :
    readBraces left ≠ .ok none ↔
      ∃ inner b, Counted inner ∧ left.map Token.sign = inner ++ .plain '}' :: b := by
  have hcomma : isPlainDigit ',' = false := by decide
  have hbrace : isPlainDigit '}' = false := by decide
  have haccept : ∀ {c : Char} {rest : List Token}, .dangling ∉ rest.map Token.sign →
      next? rest = some (.plain c) → ∃ after, accept? c rest = .ok (some after) ∧
        rest.map Token.sign = .plain c :: after.map Token.sign := by
    intro c rest hrest hnext
    cases rest with
    | nil => cases hnext
    | cons t rest =>
      have hsign : t.sign = .plain c := Option.some.inj hnext
      refine ⟨rest, accept?_eq_some_iff.mpr ⟨t, rfl, hsign, clear_of_not_mem ?_⟩, ?_⟩
      · exact fun h => hrest (List.mem_cons_of_mem _ h)
      · rw [List.map_cons, hsign]
  have hcount : ∀ start low high after, countOf start low high after ≠ .ok none :=
    fun start low high after h => nomatch (countOf_eq_ok h).choose_spec.1
  obtain ⟨low, rest, hlow, hspan, hrest⟩ := takeChars_spans isPlainDigit hleft (Nat.le_refl _)
  rw [readBraces_eq, hlow]
  simp only [bind, Except.bind]
  by_cases hnext : next? rest = some (.plain ',')
  · obtain ⟨more, hmore, hsigns⟩ := haccept hrest hnext
    have hdangling : .dangling ∉ more.map Token.sign := fun h =>
      hrest (hsigns ▸ List.mem_cons_of_mem _ h)
    obtain ⟨high, after, hhigh, hspan', hafter⟩ :=
      takeChars_spans isPlainDigit hdangling (Nat.le_refl _)
    simp only [readHigh, hmore, hhigh, bind, Except.bind]
    by_cases hend : next? after = some (.plain '}')
    · obtain ⟨b, hb, hsigns'⟩ := haccept hafter hend
      simp only [hb]
      refine iff_of_true (hcount _ _ _ _) ⟨_, b.map Token.sign, .between low high hspan.all
        hspan'.all, ?_⟩
      rw [hspan.signs, hsigns, hspan'.signs, hsigns']
      simp
    · simp only [accept?_eq_none_iff.mpr hend]
      refine iff_of_false (fun h => h rfl) ?_
      rintro ⟨_, b, hinner, hsplit⟩
      cases hinner with
      | exactly low' h =>
        have := (hspan.unique (hsplit ▸ Spans.of_stop b h hbrace)).2
        rw [hsigns] at this
        cases this
      | between low' high' h h' =>
        rw [List.append_assoc, List.cons_append] at hsplit
        have := (hspan.unique (hsplit ▸ Spans.of_stop _ h hcomma)).2
        rw [hsigns] at this
        have := (hspan'.unique ((List.cons.inj this).2 ▸ Spans.of_stop b h' hbrace)).2
        exact hend (by rw [next?, this]; rfl)
  · simp only [readHigh, accept?_eq_none_iff.mpr hnext, bind, Except.bind]
    by_cases hend : next? rest = some (.plain '}')
    · obtain ⟨b, hb, hsigns⟩ := haccept hrest hend
      simp only [hb]
      exact iff_of_true (hcount _ _ _ _) ⟨_, b.map Token.sign, .exactly low hspan.all,
        hspan.signs.trans (congrArg _ hsigns)⟩
    · simp only [accept?_eq_none_iff.mpr hend]
      refine iff_of_false (fun h => h rfl) ?_
      rintro ⟨_, b, hinner, hsplit⟩
      cases hinner with
      | exactly low' h =>
        have := (hspan.unique (hsplit ▸ Spans.of_stop b h hbrace)).2
        exact hend (by rw [next?, this]; rfl)
      | between low' high' h h' =>
        rw [List.append_assoc, List.cons_append] at hsplit
        have := (hspan.unique (hsplit ▸ Spans.of_stop _ h hcomma)).2
        exact hnext (by rw [next?, this]; rfl)

/-- What is no count stays none, unless what is more completes it. -/
theorem braces_none_continues {left left' : List Token} {more : List Sign}
    (h : readBraces left = .ok none) (hleft : .dangling ∉ left.map Token.sign)
    (hmore : .dangling ∉ more) (hcontinues : Continues more left left')
    (hempty : next? left' ≠ some (.plain '}'))
    (hjoined : ¬ Joined (.plain '{' :: left.map Token.sign) more) :
    readBraces left' = .ok none := by
  have hleft' : .dangling ∉ left'.map Token.sign := by
    rw [hcontinues, List.mem_append]
    exact not_or.mpr ⟨hleft, hmore⟩
  by_contra hcount
  obtain ⟨inner, b, hinner, hsigns⟩ := (readBraces_ne_none_iff hleft').mp hcount
  have hne : inner ≠ [] := by
    rintro rfl
    exact hempty (by rw [next?, hsigns]; rfl)
  have hbeyond : ∀ v, inner = left.map Token.sign ++ v → more = v ++ .plain '}' :: b → False := by
    rintro v rfl rfl
    refine hjoined ⟨[], _, v ++ [.plain '}'], b, rfl, by simp, List.cons_ne_nil _ _, by simp, ?_⟩
    have hmark := Mark.count hinner hne
    rwa [List.cons_append, List.append_assoc, ← List.cons_append] at hmark
  rw [hcontinues] at hsigns
  obtain ⟨v, hv, hrest⟩ | ⟨v, hv, hrest⟩ := List.append_eq_append_iff.mp hsigns
  · exact hbeyond v hv hrest
  · cases v with
    | nil => exact hbeyond [] (by simpa using hv.symm) hrest.symm
    | cons sign v =>
      obtain ⟨rfl, rfl⟩ := List.cons.inj hrest
      exact (readBraces_ne_none_iff hleft).mpr ⟨inner, v, hinner, hv⟩ h

/-! ## 4. Escapes -/

theorem reference_of_lookUp {g : Groups} {size start index : Nat} {digits : List Char}
    {left : List Token} {x : Piece × List Token}
    (h : g.lookUp size start index digits left = .ok x) : x.1 = .reference index := by
  unfold Groups.lookUp at h
  split at h
  · split at h
    · cases h
    · obtain ⟨_, _, h⟩ := bind_ok_iff.mp h
      exact congrArg Prod.fst (Except.ok.inj h).symm
  · cases h

/-- Digits behind a backslash are a code when there are three of them. -/
theorem carries_digits {g : Groups} {size start : Nat} {c : Char} {left rest : List Token}
    {x : Piece} (h : readDigits g size start c left = .ok (x, rest)) (hx : ∀ i, x ≠ .reference i) :
    Carries left rest Anything
      fun l r => ∀ g' size' start', readDigits g' size' start' c l = .ok (x, r) := by
  obtain ⟨⟨second, mid⟩, hsecond, h⟩ := bind_ok_iff.mp h
  dsimp only at h
  cases second with
  | nil => exact absurd (reference_of_lookUp h) (hx _)
  | cons d ds =>
    dsimp only at h
    split at h
    · next hoctal =>
      obtain ⟨⟨third, after⟩, hthird, h⟩ := bind_ok_iff.mp h
      dsimp only at h
      cases third with
      | nil => exact absurd (reference_of_lookUp h) (hx _)
      | cons e es =>
        dsimp only at h
        split at h
        · cases h
        · next hcode =>
          obtain ⟨rfl, rfl⟩ := Prod.mk.inj (Except.ok.inj h)
          refine ((carries_chars _ hsecond).trans (carries_chars _ hthird)).imp
            (fun _ _ => ⟨fun _ h => ?_, fun _ h => ?_⟩) ?_
          · simp at h
          · simp at h
          · rintro l r ⟨m, hsecond, hthird⟩ g' size' start'
            simp only [readDigits, hsecond, hthird, hoctal, bind, Except.bind, if_true, if_neg hcode]
            rfl
    · exact absurd (reference_of_lookUp h) (hx _)

/-- **An escape that is no reference** is read as it is, unless an octal one is completed. -/
theorem carries_escape {g : Groups} {size start : Nat} {c : Char} {left rest : List Token}
    {x : Piece} (h : readEscape g size start c left = .ok (x, rest)) (hx : ∀ i, x ≠ .reference i)
    (size' : Nat) :
    Carries left rest (fun more => ¬ Joined (.escaped c :: left.map Token.sign) more)
      fun l r => ∀ g' start', readEscape g' size' start' c l = .ok (x, r) := by
  unfold readEscape at h
  split at h
  · next hanchor =>
    obtain ⟨rfl, rfl⟩ := Prod.mk.inj (Except.ok.inj h)
    refine (Carries.refl left Anything).imp (fun _ _ => trivial) ?_
    rintro l _ rfl g' start'
    simp only [readEscape, hanchor]
    rfl
  · next hanchor =>
    split at h
    · next piece hpiece =>
      obtain ⟨rfl, rfl⟩ := Prod.mk.inj (Except.ok.inj h)
      refine (Carries.refl left Anything).imp (fun _ _ => trivial) ?_
      rintro l _ rfl g' start'
      simp only [readEscape, hanchor, hpiece]
      rfl
    · next hpiece =>
      split at h
      · next count hcount =>
        refine (carries_hex h).imp (fun _ _ => trivial) fun l r hr g' start' => ?_
        simp only [readEscape, hanchor, hpiece, hcount]
        exact hr start'
      · next hcount =>
        split at h
        · next hname =>
          refine (carries_named size' h).imp (fun _ _ => trivial) fun l r hr g' start' => ?_
          simp only [readEscape, hanchor, hpiece, hcount, hname]
          exact hr
        · next hname =>
          split at h
          · next hzero =>
            obtain ⟨⟨ds, _⟩, hchars, h⟩ := bind_ok_iff.mp h
            obtain ⟨rfl, rfl⟩ := Prod.mk.inj (Except.ok.inj h)
            refine (carries_chars _ hchars).imp (fun more hjoined hnil hfewer d hd => ?_)
              fun l r hr g' start' => ?_
            · by_contra hoctal
              rw [Bool.not_eq_false] at hoctal
              obtain ⟨hsigns, hall⟩ := takeChars_signs hchars
              cases more with
              | nil => cases hd
              | cons sign more =>
                obtain rfl := Option.some.inj hd
                have hmark := Mark.octal (ds ++ [d])
                  (List.forall_mem_append.mpr ⟨hall, List.forall_mem_singleton.mpr hoctal⟩)
                  (by rw [List.length_append]; exact hfewer)
                refine hjoined ⟨[], _, [.plain d], more, rfl, rfl, List.cons_ne_nil _ _,
                  List.cons_ne_nil _ _, ?_⟩
                rwa [eq_of_beq hzero, hsigns, hnil, List.map_nil, List.append_nil,
                  List.cons_append, ← List.map_singleton, ← List.map_append]
            · simp only [readEscape, hanchor, hpiece, hcount, hname, hzero, hr]
              rfl
          · next hzero =>
            split at h
            · next hdigit =>
              refine (carries_digits h hx).imp (fun _ _ => trivial) fun l r hr g' start' => ?_
              simp only [readEscape, hanchor, hpiece, hcount, hname, hzero, hdigit]
              exact hr g' size' start'
            · next hdigit =>
              refine (carries_plainEscape h).imp (fun _ _ => trivial) fun l r hr g' start' => ?_
              simp only [readEscape, hanchor, hpiece, hcount, hname, hzero, hdigit]
              exact hr start'

end Reconcile.Pattern
