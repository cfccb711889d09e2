import Reconcile.Proofs.Expectation.EmbeddedText
import Reconcile.Proofs.Text.Trim

/-!
# Calls as they are written

A call is written with its arguments behind its name, separated by commas; an argument may stand in
quotes. What is written is read back: the name tells the function, and each argument is the one that
was written, with its quotes or without.

* `Argument.written`, `writtenCall`: a call as a text; `Argument.IsPlain`: the arguments that can be
  written so;
* `closes`: a text whose commas all stand in quotes; **`pieces_append`**: a list is cut behind it;
* `ofChars_written`, **`splitArguments_written`**: one argument read back, and all of them;
* `readCall?_written`: the call; `not_opening_surrounded`, `not_opening_written`: what stands around it
  opens no pattern, nor does what stands in it when there are no braces;
* **`ofText_writtenCall`**: the expected value, with what may stand around the call.
-/

namespace Reconcile.Expectation

open Reconcile.Text

/-! ## 1. Written arguments -/

/-- An argument as it is written. -/
def Argument.written (a : Argument) : List Char :=
  if a.quoted then '\'' :: a.text.toList ++ ['\''] else a.text.toList

/-- An argument that can be written: there is no quote in it, and where it stands without quotes no
    comma in it and no blank at its ends. -/
structure Argument.IsPlain (a : Argument) : Prop where
  noQuote : '\'' ∉ a.text.toList
  noComma : a.quoted = false → ',' ∉ a.text.toList
  trimmed : a.quoted = false → trim a.text = a.text

theorem Argument.IsPlain.quoted {text : String} (h : '\'' ∉ text.toList) :
    Argument.IsPlain ⟨text, true⟩ := ⟨h, nofun, nofun⟩

theorem Argument.IsPlain.bare {text : String} (hquote : '\'' ∉ text.toList)
    (hcomma : ',' ∉ text.toList) (htrim : trim text = text) : Argument.IsPlain ⟨text, false⟩ :=
  ⟨hquote, fun _ => hcomma, fun _ => htrim⟩

/-- The arguments of a call, with a comma and a blank between them. -/
def writtenArguments (arguments : List Argument) : List Char :=
  [',', ' '].intercalate (arguments.map Argument.written)

/-- A call as it is written, without the sign that may stand before it. -/
def writtenCall (f : Function) (arguments : List Argument) : List Char :=
  '{' :: f.name.toList ++ '(' :: writtenArguments arguments ++ [')', '}']

theorem writtenArguments_cons (a b : Argument) (rest : List Argument) :
    writtenArguments (a :: b :: rest) = a.written ++ ',' :: ' ' :: writtenArguments (b :: rest) := by
  simp [writtenArguments, List.intercalate]

theorem writtenArguments_singleton (a : Argument) : writtenArguments [a] = a.written := by
  simp [writtenArguments, List.intercalate]

/-! ## 2. Pieces -/

/-- Whether all commas of a text stand in quotes, and all quotes are closed. -/
def closes (inQuotes : Bool) : List Char → Bool
  | [] => !inQuotes
  | c :: rest => !(c == ',' && !inQuotes) && closes (inQuotes != (c == '\'')) rest

theorem pieces_ne_nil (inQuotes : Bool) (s : List Char) : pieces inQuotes s ≠ [] := by
  cases s with
  | nil => exact List.cons_ne_nil _ _
  | cons c rest =>
    unfold pieces
    split
    · exact List.cons_ne_nil _ _
    · split <;> exact List.cons_ne_nil _ _

/-- A character that does not separate belongs to the first piece. -/
theorem pieces_cons {inQuotes : Bool} {c : Char} {rest : List Char}
    (hc : (c == ',' && !inQuotes) = false) :
    pieces inQuotes (c :: rest) = (pieces (inQuotes != (c == '\'')) rest).modifyHead (c :: ·) := by
  rw [pieces, hc, if_neg Bool.false_ne_true]
  cases h : pieces (inQuotes != (c == '\'')) rest with
  | nil => exact absurd h (pieces_ne_nil _ _)
  | cons p ps => rfl

/-- **A text that closes is a piece of its own** when a comma follows. -/
theorem pieces_append (rest : List Char) : ∀ {inQuotes : Bool} {s : List Char},
    closes inQuotes s = true → pieces inQuotes (s ++ ',' :: rest) = s :: pieces false rest
  | inQuotes, [], h => by
    have hout : inQuotes = false := by simpa [closes] using h
    rw [hout]
    rfl
  | inQuotes, c :: s, h => by
    rw [closes, Bool.and_eq_true, Bool.not_eq_true'] at h
    rw [List.cons_append, pieces_cons h.1, pieces_append rest h.2]
    rfl

/-- A text that closes is one piece. -/
theorem pieces_of_closes : ∀ {inQuotes : Bool} {s : List Char}, closes inQuotes s = true →
    pieces inQuotes s = [s]
  | _, [], _ => rfl
  | inQuotes, c :: s, h => by
    rw [closes, Bool.and_eq_true, Bool.not_eq_true'] at h
    rw [pieces_cons h.1, pieces_of_closes h.2]
    rfl

/-- A text without quotes closes when it stands in quotes. -/
theorem closes_quoted : ∀ {s : List Char}, '\'' ∉ s → closes true (s ++ ['\'']) = true
  | [], _ => rfl
  | c :: s, h => by
    have hc : (c == '\'') = false := by
      rw [beq_eq_false_iff_ne]
      exact fun hquote => h (hquote ▸ List.mem_cons_self)
    have ih := closes_quoted fun hs => h (List.mem_cons_of_mem c hs)
    simp [closes, hc, ih]

/-- A text without quotes and commas closes as it stands. -/
theorem closes_bare : ∀ {s : List Char}, '\'' ∉ s → ',' ∉ s → closes false s = true
  | [], _, _ => rfl
  | c :: s, hquote, hcomma => by
    have hc : (c == '\'') = false := by
      rw [beq_eq_false_iff_ne]
      exact fun h => hquote (h ▸ List.mem_cons_self)
    have hc' : (c == ',') = false := by
      rw [beq_eq_false_iff_ne]
      exact fun h => hcomma (h ▸ List.mem_cons_self)
    have ih := closes_bare (fun hs => hquote (List.mem_cons_of_mem c hs))
      fun hs => hcomma (List.mem_cons_of_mem c hs)
    simp [closes, hc, hc', ih]

variable {a : Argument} {arguments : List Argument}

theorem Argument.IsPlain.closes_written (h : a.IsPlain) : closes false a.written = true := by
  unfold Argument.written
  cases hquoted : a.quoted with
  | true =>
    have hclosed := closes_quoted h.noQuote
    simpa [closes] using hclosed
  | false => simpa using closes_bare h.noQuote (h.noComma hquoted)

/-! ## 3. Arguments read back -/

/-- Blanks before an argument do not belong to it. -/
theorem ofChars_cons_blank {c : Char} (hc : isBlank c = true) (s : List Char) :
    Argument.ofChars (c :: s) = Argument.ofChars s := by
  have htrim : trimChars ([c] ++ s) = trimChars s :=
    trimChars_append_left (List.forall_mem_singleton.mpr hc)
  unfold Argument.ofChars
  rw [← List.singleton_append, htrim]

/-- **A written argument is read back.** -/
theorem ofChars_written (h : a.IsPlain) : Argument.ofChars a.written = a := by
  obtain ⟨text, quoted⟩ := a
  unfold Argument.ofChars Argument.written
  cases quoted with
  | true =>
    have hquote : isBlank '\'' = false := by decide
    have htrim : trimChars ([] ++ ('\'' :: text.toList ++ ['\'']) ++ []) =
        '\'' :: text.toList ++ ['\''] :=
      trimChars_between hquote hquote (List.forall_mem_nil _) (List.forall_mem_nil _)
    rw [List.nil_append, List.append_nil] at htrim
    simp only [if_true]
    rw [htrim]
    simp
  | false =>
    have htext : trimChars text.toList = text.toList := by
      have htrimmed := congrArg String.toList (h.trimmed rfl)
      rwa [trim, String.toList_ofList] at htrimmed
    have hnone := h.noQuote
    simp only [Bool.false_eq_true, if_false]
    rw [htext]
    split
    · rename_i rest hrest
      rw [hrest] at hnone
      exact absurd List.mem_cons_self hnone
    · simp

/-- The pieces of a list of arguments are read back one by one. -/
theorem pieces_written : ∀ {a : Argument} {rest : List Argument}, (∀ b ∈ a :: rest, b.IsPlain) →
    (pieces false (writtenArguments (a :: rest))).map Argument.ofChars = a :: rest
  | a, [], h => by
    have ha := h a List.mem_cons_self
    rw [writtenArguments_singleton, pieces_of_closes ha.closes_written, List.map_singleton,
      ofChars_written ha]
  | a, b :: rest, h => by
    have ha := h a List.mem_cons_self
    have hrest : ∀ c ∈ b :: rest, c.IsPlain := fun c hc => h c (List.mem_cons_of_mem a hc)
    have ih := pieces_written hrest
    obtain ⟨p, ps, hpieces⟩ := List.exists_cons_of_ne_nil
      (pieces_ne_nil false (writtenArguments (b :: rest)))
    -- the blank behind the comma goes to the piece that follows
    have hblank : pieces false (' ' :: writtenArguments (b :: rest)) = (' ' :: p) :: ps := by
      rw [pieces_cons rfl]
      show (pieces false (writtenArguments (b :: rest))).modifyHead _ = _
      rw [hpieces]
      rfl
    rw [hpieces, List.map_cons] at ih
    rw [writtenArguments_cons, pieces_append _ ha.closes_written, hblank, List.map_cons,
      List.map_cons, ofChars_written ha, ofChars_cons_blank (by decide), ih]

/-- Nothing is written for a single argument that is empty, and has no quotes. -/
theorem exists_not_blank (h : ∀ a ∈ arguments, a.IsPlain) (hne : arguments ≠ [])
    (hsingle : arguments ≠ [⟨"", false⟩]) : ∃ c ∈ writtenArguments arguments, isBlank c = false := by
  match arguments, hne with
  | [⟨text, true⟩], _ =>
    refine ⟨'\'', ?_, by decide⟩
    rw [writtenArguments_singleton]
    exact List.mem_cons_self
  | [⟨text, false⟩], _ =>
    by_contra hall
    have hblank : ∀ c ∈ text.toList, isBlank c = true := by
      intro c hc
      by_contra hnot
      refine hall ⟨c, ?_, by simpa using hnot⟩
      rw [writtenArguments_singleton]
      exact hc
    have htrimmed := (h _ List.mem_cons_self).trimmed rfl
    have hempty : trimChars (text.toList ++ []) = [] := by
      rw [trimChars_append_left hblank]
      rfl
    rw [List.append_nil] at hempty
    rw [trim, hempty] at htrimmed
    have htext : text = "" := htrimmed.symm
    exact hsingle (by rw [htext])
  | a :: b :: rest, _ =>
    refine ⟨',', ?_, by decide⟩
    rw [writtenArguments_cons]
    exact List.mem_append_right _ List.mem_cons_self

/-- **The arguments of a call are read back.** -/
theorem splitArguments_written (h : ∀ a ∈ arguments, a.IsPlain) (hne : arguments ≠ [])
    (hsingle : arguments ≠ [⟨"", false⟩]) :
    splitArguments (writtenArguments arguments) = arguments := by
  obtain ⟨c, hmem, hc⟩ := exists_not_blank h hne hsingle
  have hsome : (dropBlanks (writtenArguments arguments)).isEmpty = false := by
    rw [Bool.eq_false_iff, ne_eq, List.isEmpty_iff, dropBlanks_eq_nil_iff]
    intro hall
    rw [hall c hmem] at hc
    cases hc
  rw [splitArguments, hsome, if_neg Bool.false_ne_true]
  obtain ⟨a, rest, rfl⟩ := List.exists_cons_of_ne_nil hne
  exact pieces_written h

/-! ## 4. Calls read back -/

theorem ofName?_name (f : Function) : Function.ofName? f.name = some f := by
  cases f <;> decide

theorem name_ne_nil (f : Function) : f.name.toList ≠ [] := by
  cases f <;> decide

theorem isWord_of_mem_name (f : Function) : ∀ c ∈ f.name.toList, isWord c = true := by
  have hall : f.name.toList.all isWord = true := by cases f <;> decide +kernel
  exact List.all_eq_true.mp hall

theorem isBlank_of_mem_name (f : Function) : ∀ c ∈ f.name.toList, isBlank c = false := by
  have hall : (f.name.toList.all fun c => !isBlank c) = true := by cases f <;> decide +kernel
  intro c hc
  have hnot := List.all_eq_true.mp hall c hc
  rwa [Bool.not_eq_true'] at hnot

/-- A text behind an opening bracket is what stands before the closing bracket and brace. -/
theorem beforeClosing_append (s : List Char) : beforeClosing (s ++ [')', '}']) = some s := by
  simp [beforeClosing, dropBlanks, show isBlank ')' = false by decide]

/-- The name and the parameters of a call are where they were written. -/
theorem callParts?_written (f : Function) (parameters : List Char) :
    callParts? (f.name.toList ++ '(' :: parameters ++ [')', '}']) = some (f.name, parameters) := by
  have hbody : dropBlanks (f.name.toList ++ '(' :: (parameters ++ [')', '}'])) =
      f.name.toList ++ '(' :: (parameters ++ [')', '}']) := by
    obtain ⟨c, rest, hname⟩ := List.exists_cons_of_ne_nil (name_ne_nil f)
    have hc := isBlank_of_mem_name f c (hname ▸ List.mem_cons_self)
    rw [hname, List.cons_append, dropBlanks_cons hc]
  have hword := isWord_of_mem_name f
  have hbracket : isWord '(' = false := by decide +kernel
  unfold callParts?
  rw [List.append_assoc, List.cons_append, hbody]
  dsimp only
  rw [List.takeWhile_append_of_pos hword, List.dropWhile_append_of_pos hword,
    List.takeWhile_cons_of_neg (by simp [hbracket]), List.dropWhile_cons_of_neg (by simp [hbracket]),
    dropBlanks_cons (by decide)]
  simp [beforeClosing_append]

/-- **A written call is read back**, with the sign before it or without. -/
theorem readCall?_written (f : Function) (h : ∀ a ∈ arguments, a.IsPlain) (hne : arguments ≠ [])
    (hsingle : arguments ≠ [⟨"", false⟩]) {sign : List Char} (hsign : sign = [] ∨ sign = ['@']) :
    readCall? (sign ++ writtenCall f arguments) = some (f, arguments) := by
  have hcall : readCall? (writtenCall f arguments) = some (f, arguments) := by
    show (callParts? (f.name.toList ++ '(' :: writtenArguments arguments ++ [')', '}'])).bind _ = _
    rw [callParts?_written]
    show (Function.ofName? f.name).bind _ = _
    rw [ofName?_name]
    show some (f, splitArguments (writtenArguments arguments)) = _
    rw [splitArguments_written h hne hsingle]
  obtain rfl | rfl := hsign
  · exact hcall
  · -- the sign is passed over before the brace is looked for
    exact hcall

/-! ## 5. Expected values -/

/-- A part that begins with a character that does not stand in front of a text is in the text. -/
theorem infix_of_append {c : Char} {part s : List Char} : ∀ {before : List Char}, c ∉ before →
    c :: part <:+: before ++ s → c :: part <:+: s
  | [], _, h => h
  | b :: before, hc, h => by
    obtain hprefix | hrest := List.infix_cons_iff.mp h
    · have hsame : c = b := (List.cons_prefix_cons.mp hprefix).1
      exact absurd (hsame ▸ List.mem_cons_self) hc
    · exact infix_of_append (fun hmem => hc (List.mem_cons_of_mem b hmem)) hrest

/-- What stands around a text opens no pattern when there is no brace before the text and no quote
    behind it. -/
theorem not_opening_surrounded {before s after : List Char} (hbefore : '{' ∉ before)
    (hafter : '\'' ∉ after) (h : ¬ opening <:+: s) : ¬ opening <:+: before ++ s ++ after := by
  intro hopening
  rw [List.append_assoc, opening_eq] at hopening
  have hbehind := infix_of_append hbefore hopening
  -- the end of the text is looked at from behind
  rw [← List.reverse_infix, List.reverse_append] at hbehind
  have hwithin := infix_of_append (fun hmem => hafter (List.mem_reverse.mp hmem)) hbehind
  refine h (List.reverse_infix.mp ?_)
  rw [opening_eq]
  exact hwithin

theorem mem_writtenArguments {c : Char} : ∀ {arguments : List Argument},
    c ∈ writtenArguments arguments → c = ',' ∨ c = ' ' ∨ ∃ a ∈ arguments, c ∈ a.written
  | [], h => by cases h
  | [a], h => .inr (.inr ⟨a, List.mem_cons_self, by rwa [writtenArguments_singleton] at h⟩)
  | a :: b :: rest, h => by
    rw [writtenArguments_cons, List.mem_append, List.mem_cons, List.mem_cons] at h
    obtain h | h | h | h := h
    · exact .inr (.inr ⟨a, List.mem_cons_self, h⟩)
    · exact .inl h
    · exact .inr (.inl h)
    · obtain h | h | ⟨a', hmem, h⟩ := mem_writtenArguments h
      · exact .inl h
      · exact .inr (.inl h)
      · exact .inr (.inr ⟨a', List.mem_cons_of_mem a hmem, h⟩)

/-- A call opens no pattern when no argument has a brace in it: the name behind the brace is that of
    a function. -/
theorem not_opening_written (f : Function) (h : ∀ a ∈ arguments, '{' ∉ a.text.toList) :
    ¬ opening <:+: writtenCall f arguments := by
  have hwritten : ∀ a ∈ arguments, '{' ∉ a.written := by
    intro a ha hmem
    unfold Argument.written at hmem
    cases hquoted : a.quoted with
    | true => simp [hquoted, h a ha] at hmem
    | false => simp [hquoted, h a ha] at hmem
  have hname : '{' ∉ f.name.toList := fun hmem =>
    absurd (isWord_of_mem_name f _ hmem) (by decide +kernel)
  have hbehind : '{' ∉ f.name.toList ++ '(' :: writtenArguments arguments ++ [')', '}'] := by
    intro hmem
    simp only [List.mem_append, List.mem_cons, List.not_mem_nil, or_false] at hmem
    obtain (hmem | hmem | hmem) | hmem | hmem := hmem
    · exact hname hmem
    · exact absurd hmem (by decide)
    · obtain hc | hc | ⟨a, ha, hc⟩ := mem_writtenArguments hmem
      · exact absurd hc (by decide)
      · exact absurd hc (by decide)
      · exact hwritten a ha hc
    · exact absurd hmem (by decide)
    · exact absurd hmem (by decide)
  intro hopening
  obtain hprefix | hrest := List.infix_cons_iff.mp hopening
  · rw [opening_eq, List.cons_prefix_cons] at hprefix
    cases f <;> simp [Function.name] at hprefix
  · rw [opening_eq] at hrest
    exact hbehind (hrest.subset List.mem_cons_self)

/-- A written call has no blank at either end. -/
theorem trimChars_writtenCall (f : Function) (arguments : List Argument)
    {before sign after : List Char} (hbefore : ∀ c ∈ before, isBlank c = true)
    (hsign : sign = [] ∨ sign = ['@']) (hafter : ∀ c ∈ after, isBlank c = true) :
    trimChars (before ++ (sign ++ writtenCall f arguments) ++ after) =
      sign ++ writtenCall f arguments := by
  have hends : ∃ c s, isBlank c = false ∧ sign ++ writtenCall f arguments = c :: s ++ ['}'] := by
    obtain rfl | rfl := hsign
    · exact ⟨'{', f.name.toList ++ '(' :: writtenArguments arguments ++ [')'], by decide,
        by simp [writtenCall]⟩
    · exact ⟨'@', '{' :: f.name.toList ++ '(' :: writtenArguments arguments ++ [')'], by decide,
        by simp [writtenCall]⟩
  obtain ⟨c, s, hc, hwritten⟩ := hends
  rw [hwritten, trimChars_between hc (by decide) hbefore hafter]

/-- The text of a call is read as the call when no pattern is opened in it. -/
theorem ofText_of_readCall? {s : List Char} {f : Function} {arguments : List Argument}
    (hopening : ¬ opening <:+: s) (hcall : readCall? (trimChars s) = some (f, arguments)) :
    Expression.ofText (String.ofList s) = .call f arguments := by
  have hmarker : occursIn opening s = false := by
    rw [Bool.eq_false_iff, ne_eq, occursIn_iff]
    exact hopening
  rw [Expression.ofText, String.toList_ofList, hmarker, if_neg Bool.false_ne_true, hcall]

/-- **What is written is what is read.** An expected value that is a call, with the sign before it or
    without, and with blanks around it, is read as a call of that function with those arguments, each
    with its text and with its quotes or without, when no pattern is opened in it. -/
theorem ofText_writtenCall (f : Function) {arguments : List Argument}
    (harguments : ∀ a ∈ arguments, a.IsPlain) (hne : arguments ≠ [])
    (hsingle : arguments ≠ [⟨"", false⟩]) (hopening : ¬ opening <:+: writtenCall f arguments)
    {before sign after : List Char} (hbefore : ∀ c ∈ before, isBlank c = true)
    (hsign : sign = [] ∨ sign = ['@']) (hafter : ∀ c ∈ after, isBlank c = true) :
    Expression.ofText (String.ofList (before ++ (sign ++ writtenCall f arguments) ++ after)) =
      .call f arguments := by
  have hcall : readCall? (trimChars (before ++ (sign ++ writtenCall f arguments) ++ after)) =
      some (f, arguments) := by
    rw [trimChars_writtenCall f arguments hbefore hsign hafter,
      readCall?_written f harguments hne hsingle hsign]
  have hfront : '{' ∉ before ++ sign := by
    intro hmem
    obtain hmem | hmem := List.mem_append.mp hmem
    · exact absurd (hbefore _ hmem) (by decide)
    · obtain rfl | rfl := hsign <;> simp at hmem
  have hback : '\'' ∉ after := fun hmem => absurd (hafter _ hmem) (by decide)
  refine ofText_of_readCall? ?_ hcall
  rw [← List.append_assoc]
  exact not_opening_surrounded hfront hback hopening

/-- Commas, brackets and braces in quotes belong to their arguments, as the brackets and the brace of
    an argument without quotes do; and an argument may be empty when it is not alone. -/
theorem ofText_writtenCall_dates :
    Expression.ofText "\t@\x7bisBetweenDates('01 Jan, 2024', , 'dd MMM, yyyy)\x7d', f(x)\x7d)\x7d\n" =
      .call .isBetweenDates
        [⟨"01 Jan, 2024", true⟩, ⟨"", false⟩, ⟨"dd MMM, yyyy)\x7d", true⟩, ⟨"f(x)\x7d", false⟩] := by
  have hplain : ∀ a ∈ [⟨"01 Jan, 2024", true⟩, ⟨"", false⟩, ⟨"dd MMM, yyyy)\x7d", true⟩,
      (⟨"f(x)\x7d", false⟩ : Argument)], a.IsPlain := by
    simp only [List.forall_mem_cons]
    exact ⟨.quoted (by decide), .bare (by decide) (by decide) (by decide), .quoted (by decide),
      .bare (by decide) (by decide) (by decide), List.forall_mem_nil _⟩
  have hopening : ¬ opening <:+: writtenCall .isBetweenDates [⟨"01 Jan, 2024", true⟩, ⟨"", false⟩,
      ⟨"dd MMM, yyyy)\x7d", true⟩, ⟨"f(x)\x7d", false⟩] := by
    rw [← occursIn_iff]
    decide
  have hbefore : ∀ c ∈ ['\t'], isBlank c = true := List.forall_mem_singleton.mpr (by decide)
  have hafter : ∀ c ∈ ['\n'], isBlank c = true := List.forall_mem_singleton.mpr (by decide)
  have hsign : ['@'] = [] ∨ ['@'] = ['@'] := .inr rfl
  have hread := ofText_writtenCall .isBetweenDates hplain (by decide) (by decide) hopening hbefore
    hsign hafter
  exact hread

end Reconcile.Expectation
