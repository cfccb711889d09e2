import Mathlib.Data.List.Chain
import Reconcile.Calendar.LetterPattern
import Reconcile.Proofs.Text.Pieces

/-!
# Letter patterns, token by token

A letter pattern is made of runs of letters, of marks that stand for themselves, and of texts between
single quotes. Runs and marks are translated one by one. A quoted text is written with each of its
quotes doubled, but it is read as if it ended at the first quote: its pieces between quotes are
copied one after the other, and a quote is put where nothing stands between two of them. So quotes
at either end of a text are read as they are meant, those within it are lost, and a text of nothing
but quotes gets one more.

* `Token`, `written`, `documented`: what patterns are made of, how it is written, and what it stands
  for; `IsWritable`, `Apart`: tokens that can be written, and side by side;
* `copied`, `read`: what a quoted text is read as, and any token;
* `directivesFrom_run`, `directivesFrom_mark`, `directivesFrom_quoted`: one token of a pattern;
* `QuotesAtEnds`, `copied_of_quotesAtEnds`, `quotesAtEnds_of_copied`: a text is copied as it is
  exactly when its quotes stand at its ends;
* **`directivesOf_written`**: what every written pattern is translated to, and when this is what it
  stands for;
* `quote_within_text_lost`: a quote that is not.
-/

namespace Reconcile.Calendar

open Reconcile.Text

/-! ## 1. Tokens -/

/-- What a letter pattern is made of. -/
inductive Token where
  | run (letter : Char) (count : Nat)
  | mark (c : Char)
  | quoted (text : List Char)
  deriving DecidableEq, Repr

/-- A text with each of its quotes doubled. -/
def doubleQuotes (text : List Char) : List Char :=
  text.flatMap fun c => if c = '\'' then ['\'', '\''] else [c]

/-- What a quoted text is read as: its pieces between quotes, with a quote for an empty one. -/
def copied (text : List Char) : List Char :=
  (pieces '\'' text).flatMap fun piece => if piece.isEmpty then ['\''] else piece

/-- The quotes of a text stand at its ends, around something else. -/
def QuotesAtEnds (text : List Char) : Prop :=
  ∃ (i j : Nat) (inner : List Char), inner ≠ [] ∧ '\'' ∉ inner ∧
    text = List.replicate i '\'' ++ inner ++ List.replicate j '\''

namespace Token

/-- A token as a pattern has it. -/
def written : Token → List Char
  | run letter count => List.replicate count letter
  | mark c => [c]
  | quoted text => '\'' :: doubleQuotes text ++ ['\'']

/-- What a token stands for: the directive of its letter, the mark, or the text. -/
def documented : Token → List Char
  | run letter count => '%' :: (directiveFor? letter count).toList
  | mark c => [c]
  | quoted text => text

/-- What a token is read as. -/
def read : Token → List Char
  | run letter count => '%' :: (directiveFor? letter count).toList
  | mark c => [c]
  | quoted text => copied text

/-- A token that a pattern can have: a run of a letter that there is a directive for, a mark that
    has no meaning of its own, or a text that is not empty and has no percent sign. -/
def IsWritable : Token → Prop
  | run letter count => 0 < count ∧ (directiveFor? letter count).isSome = true
  | mark c => isLetter c = false ∧ c ≠ '\'' ∧ c ≠ '%'
  | quoted text => text ≠ [] ∧ '%' ∉ text

/-- Two tokens that do not run into each other: no runs of one letter, and no two quoted texts. -/
def Apart : Token → Token → Prop
  | run letter _, run letter' _ => letter ≠ letter'
  | quoted _, quoted _ => False
  | _, _ => True

instance : (token : Token) → Decidable token.IsWritable
  | run _ _ => inferInstanceAs (Decidable (_ ∧ _))
  | mark _ => inferInstanceAs (Decidable (_ ∧ _))
  | quoted _ => inferInstanceAs (Decidable (_ ∧ _))

instance : (token next : Token) → Decidable (Apart token next)
  | run _ _, run _ _ => inferInstanceAs (Decidable (_ ≠ _))
  | quoted _, quoted _ => inferInstanceAs (Decidable False)
  | run _ _, mark _ | run _ _, quoted _ | mark _, _ | quoted _, run _ _ | quoted _, mark _ =>
    inferInstanceAs (Decidable True)

end Token

/-- Tokens that make up a letter pattern: each of them can be written, and no two neighbours run into
    each other. -/
structure IsPattern (tokens : List Token) : Prop where
  writable : ∀ token ∈ tokens, token.IsWritable
  apart : tokens.IsChain Token.Apart

instance (tokens : List Token) : Decidable (IsPattern tokens) :=
  decidable_of_iff ((∀ token ∈ tokens, token.IsWritable) ∧ tokens.IsChain Token.Apart)
    ⟨fun h => ⟨h.1, h.2⟩, fun h => ⟨h.writable, h.apart⟩⟩

/-- The pattern that is made of tokens. -/
def writtenPattern (tokens : List Token) : String := String.ofList (tokens.flatMap Token.written)

/-! ## 2. Steps of the translation -/

section Steps

variable (pattern : String)

theorem isLetter_of_directive {c : Char} {n : Nat} (h : (directiveFor? c n).isSome = true) :
    isLetter c = true := by
  unfold directiveFor? at h
  split at h <;> first | rfl | cases h

theorem directivesFrom_nil : directivesFrom pattern [] = .ok [] := by rw [directivesFrom]

/-- A mark is copied. -/
theorem directivesFrom_mark {c : Char} (hletter : isLetter c = false) (hquote : c ≠ '\'')
    (rest : List Char) : directivesFrom pattern (c :: rest) =
      (directivesFrom pattern rest).map (c :: ·) := by
  have hc : ¬ (c == '\'') = true := by rwa [beq_iff_eq]
  rw [directivesFrom, if_neg hc, if_neg (by rw [hletter]; exact Bool.false_ne_true)]
  cases directivesFrom pattern rest <;> rfl

/-- A run of a letter, up to where another character stands, becomes its directive. -/
theorem directivesFrom_run {c d : Char} {n : Nat} (hdirective : directiveFor? c (n + 1) = some d)
    {rest : List Char} (hrest : rest.head? ≠ some c) :
    directivesFrom pattern (List.replicate (n + 1) c ++ rest) =
      (directivesFrom pattern rest).map (['%', d] ++ ·) := by
  have hletter : isLetter c = true := isLetter_of_directive (n := n + 1) (by rw [hdirective]; rfl)
  have hquote : ¬ (c == '\'') = true := by
    intro hc
    rw [eq_of_beq hc] at hletter
    exact absurd hletter (by decide)
  have hrun : ∀ x ∈ List.replicate n c, (x == c) = true := fun x hx =>
    beq_iff_eq.mpr (List.eq_of_mem_replicate hx)
  have hstop : rest.takeWhile (· == c) = [] ∧ rest.dropWhile (· == c) = rest := by
    cases rest with
    | nil => exact ⟨rfl, rfl⟩
    | cons b rest =>
      have hb : ¬ (b == c) = true := fun hb => hrest (congrArg some (eq_of_beq hb))
      exact ⟨List.takeWhile_cons_of_neg hb, List.dropWhile_cons_of_neg hb⟩
  rw [List.replicate_succ, List.cons_append, directivesFrom, if_neg hquote, if_pos hletter,
    List.takeWhile_append_of_pos hrun, List.dropWhile_append_of_pos hrun, hstop.1, hstop.2,
    List.append_nil, List.length_replicate, Nat.add_comm 1, hdirective]
  cases directivesFrom pattern rest <;> rfl

/-- Text up to the next quote is copied; when there is none, the quote is. -/
theorem directivesFrom_quoted {piece : List Char} (h : '\'' ∉ piece) (rest : List Char) :
    directivesFrom pattern ('\'' :: (piece ++ '\'' :: rest)) =
      (directivesFrom pattern rest).map ((if piece.isEmpty then ['\''] else piece) ++ ·) := by
  rw [directivesFrom, if_pos (beq_self_eq_true _)]
  split
  · rename_i hnone
    rw [dropWhile_of_not_mem h] at hnone
    cases hnone
  · rename_i after hsome
    rw [dropWhile_of_not_mem h] at hsome
    obtain rfl : rest = after := (List.cons.inj hsome).2
    rw [takeWhile_of_not_mem h]
    cases directivesFrom pattern rest <;> rfl

end Steps

/-! ## 3. Quoted texts -/

theorem doubleQuotes_of_not_mem {x : List Char} (h : '\'' ∉ x) : doubleQuotes x = x := by
  induction x with
  | nil => rfl
  | cons c x ih =>
    simp only [List.mem_cons, not_or] at h
    have hstep : doubleQuotes (c :: x) = [c] ++ doubleQuotes x := by
      rw [doubleQuotes, List.flatMap_cons, if_neg (Ne.symm h.1)]
      rfl
    rw [hstep, ih h.2, List.singleton_append]

theorem doubleQuotes_append_quote {x : List Char} (h : '\'' ∉ x) (rest : List Char) :
    doubleQuotes (x ++ '\'' :: rest) = x ++ '\'' :: '\'' :: doubleQuotes rest := by
  have hx := doubleQuotes_of_not_mem h
  unfold doubleQuotes at hx ⊢
  rw [List.flatMap_append, hx, List.flatMap_cons]
  rfl

theorem copied_of_not_mem {x : List Char} (h : '\'' ∉ x) :
    copied x = if x.isEmpty then ['\''] else x := by
  rw [copied, pieces_of_not_mem h, List.flatMap_singleton]

theorem copied_append_quote {x : List Char} (h : '\'' ∉ x) (rest : List Char) :
    copied (x ++ '\'' :: rest) = (if x.isEmpty then ['\''] else x) ++ copied rest := by
  rw [copied, pieces_append_cons h, List.flatMap_cons]
  rfl

/-- **A quoted text is read piece by piece**, whatever stands behind it. -/
theorem directivesFrom_written_quoted (pattern : String) (text rest : List Char) :
    directivesFrom pattern ('\'' :: (doubleQuotes text ++ '\'' :: rest)) =
      (directivesFrom pattern rest).map (copied text ++ ·) := by
  induction text using pieces_induction '\'' with
  | single x hx =>
    rw [doubleQuotes_of_not_mem hx, copied_of_not_mem hx]
    exact directivesFrom_quoted pattern hx rest
  | more x text hx ih =>
    rw [doubleQuotes_append_quote hx, copied_append_quote hx, List.append_assoc,
      List.cons_append, directivesFrom_quoted pattern hx, List.cons_append, ih]
    cases directivesFrom pattern rest <;> simp only [Except.map, List.append_assoc]

/-! ## 4. When a text is copied as it is -/

theorem copied_nil : copied [] = ['\''] := rfl

theorem copied_cons_quote (text : List Char) : copied ('\'' :: text) = '\'' :: copied text :=
  copied_append_quote List.not_mem_nil text

/-- What is not a quote at the beginning of a text stays there. -/
theorem copied_head {c : Char} (hc : c ≠ '\'') (text rest : List Char) :
    (copied (c :: text) ++ rest).head? = some c := by
  induction text using pieces_induction '\'' with
  | single x hx =>
    rw [copied_of_not_mem (by simp [hx, Ne.symm hc])]
    rfl
  | more x text hx _ =>
    rw [← List.cons_append, copied_append_quote (by simp [hx, Ne.symm hc])]
    rfl

/-- Behind a piece a quote is lost, unless nothing but quotes follows. -/
theorem copied_behind_piece (text found stood : List Char) :
    copied text ++ found = '\'' :: (text ++ stood) ↔ (∀ c ∈ text, c = '\'') ∧ found = stood := by
  induction text with
  | nil =>
    rw [copied_nil, List.singleton_append, List.nil_append, List.cons_inj_right]
    exact ⟨fun h => ⟨fun c hc => absurd hc List.not_mem_nil, h⟩, fun h => h.2⟩
  | cons c text ih =>
    rw [List.forall_mem_cons]
    by_cases hc : c = '\''
    · subst hc
      rw [copied_cons_quote, List.cons_append, List.cons_append, List.cons_inj_right, ih]
      simp
    · refine iff_of_false (fun h => ?_) fun h => hc h.1.1
      have hhead := congrArg List.head? h
      rw [copied_head hc] at hhead
      exact hc (Option.some.inj hhead)

theorem copied_quotes_append (i : Nat) (text : List Char) :
    copied (List.replicate i '\'' ++ text) = List.replicate i '\'' ++ copied text := by
  induction i with
  | zero => rfl
  | succ i ih => rw [List.replicate_succ, List.cons_append, copied_cons_quote, ih, List.cons_append]

/-- **A text whose quotes stand at its ends** is copied as it is. -/
theorem copied_of_quotesAtEnds {text : List Char} (h : QuotesAtEnds text) : copied text = text := by
  obtain ⟨i, j, inner, hsome, hinner, rfl⟩ := h
  have hempty : inner.isEmpty = false := List.isEmpty_eq_false_iff.mpr hsome
  rw [List.append_assoc, copied_quotes_append]
  congr 1
  cases j with
  | zero =>
    rw [List.replicate_zero, List.append_nil, copied_of_not_mem hinner, hempty,
      if_neg Bool.false_ne_true]
  | succ j =>
    have hquotes : copied (List.replicate j '\'') = '\'' :: List.replicate j '\'' := by
      have h := (copied_behind_piece (List.replicate j '\'') [] []).mpr
        ⟨fun c hc => List.eq_of_mem_replicate hc, rfl⟩
      rwa [List.append_nil, List.append_nil] at h
    rw [List.replicate_succ, copied_append_quote hinner, hempty, if_neg Bool.false_ne_true, hquotes]

theorem QuotesAtEnds.cons_quote {text : List Char} (h : QuotesAtEnds text) :
    QuotesAtEnds ('\'' :: text) := by
  obtain ⟨i, j, inner, hsome, hinner, rfl⟩ := h
  exact ⟨i + 1, j, inner, hsome, hinner, rfl⟩

theorem quotesAtEnds_append_quotes {inner text : List Char} (hsome : inner ≠ [])
    (hinner : '\'' ∉ inner) (h : ∀ c ∈ text, c = '\'') : QuotesAtEnds (inner ++ text) :=
  ⟨0, text.length, inner, hsome, hinner, by rw [← List.eq_replicate_of_mem h]; rfl⟩

/-- A text that is copied as it is, whatever is found behind it, has its quotes at its ends; only
    no quote must follow it. -/
theorem quotesAtEnds_of_copied {text found stood : List Char} (hsome : text ≠ [])
    (hstood : stood.head? ≠ some '\'') (h : copied text ++ found = text ++ stood) :
    QuotesAtEnds text ∧ found = stood := by
  induction text using pieces_induction '\'' with
  | single x hx =>
    have hends : QuotesAtEnds (x ++ []) :=
      quotesAtEnds_append_quotes hsome hx fun c hc => absurd hc List.not_mem_nil
    rw [List.append_nil] at hends
    rw [copied_of_quotesAtEnds hends, List.append_cancel_left_eq] at h
    exact ⟨hends, h⟩
  | more x text hx ih =>
    by_cases hpiece : x = []
    · subst hpiece
      rw [List.nil_append, copied_cons_quote, List.cons_append, List.cons_append,
        List.cons_inj_right] at h
      by_cases hrest : text = []
      · -- a text of quotes only gets one more, which cannot stand behind it
        subst hrest
        rw [copied_nil, List.nil_append] at h
        rw [← h] at hstood
        exact absurd rfl hstood
      · obtain ⟨hends, hsame⟩ := ih hrest h
        exact ⟨hends.cons_quote, hsame⟩
    · rw [copied_append_quote hx, List.isEmpty_eq_false_iff.mpr hpiece, if_neg Bool.false_ne_true,
        List.append_assoc, List.append_assoc, List.append_cancel_left_eq, List.cons_append,
        copied_behind_piece] at h
      obtain ⟨hquotes, hsame⟩ := h
      refine ⟨quotesAtEnds_append_quotes hpiece hx ?_, hsame⟩
      exact List.forall_mem_cons.mpr ⟨rfl, hquotes⟩

/-! ## 5. Patterns -/

theorem isPattern_cons {token : Token} {rest : List Token} : IsPattern (token :: rest) ↔
    token.IsWritable ∧ (∀ next ∈ rest.head?, Token.Apart token next) ∧ IsPattern rest := by
  constructor
  · rintro ⟨hwritable, hapart⟩
    obtain ⟨htoken, hrest⟩ := List.forall_mem_cons.mp hwritable
    obtain ⟨hnext, hapart⟩ := List.isChain_cons.mp hapart
    exact ⟨htoken, hnext, hrest, hapart⟩
  · rintro ⟨htoken, hnext, hrest, hapart⟩
    exact ⟨List.forall_mem_cons.mpr ⟨htoken, hrest⟩, List.isChain_cons.mpr ⟨hnext, hapart⟩⟩

theorem mem_doubleQuotes {c : Char} {text : List Char} (h : c ∈ doubleQuotes text) :
    c = '\'' ∨ c ∈ text := by
  obtain ⟨b, hb, hc⟩ := List.mem_flatMap.mp h
  split at hc
  · left
    simpa using hc
  · right
    rwa [List.mem_singleton.mp hc]

/-- A pattern of tokens has no percent sign, so that it is read as a letter pattern. -/
theorem percent_not_mem_written {token : Token} (h : token.IsWritable) : '%' ∉ token.written := by
  intro hmem
  cases token with
  | run letter count =>
    have hletter := isLetter_of_directive h.2
    rw [← List.eq_of_mem_replicate hmem] at hletter
    exact absurd hletter (by decide)
  | mark c => exact h.2.2 (List.mem_singleton.mp hmem).symm
  | quoted text =>
    simp only [Token.written, List.cons_append, List.mem_cons, List.mem_append, List.not_mem_nil,
      or_false] at hmem
    rcases hmem with hmem | hmem | hmem
    · exact absurd hmem (by decide)
    · rcases mem_doubleQuotes hmem with hquote | htext
      · exact absurd hquote (by decide)
      · exact h.2 htext
    · exact absurd hmem (by decide)

/-- A run ends where the next token begins. -/
theorem head_written_ne {letter : Char} {count : Nat} (hletter : isLetter letter = true) :
    ∀ {rest : List Token}, (∀ next ∈ rest.head?, Token.Apart (.run letter count) next) →
      IsPattern rest → (rest.flatMap Token.written).head? ≠ some letter
  | [], _, _ => nofun
  | token :: rest, hnext, hrest => by
    have hapart := hnext token rfl
    obtain ⟨htoken, _, _⟩ := isPattern_cons.mp hrest
    rw [List.flatMap_cons]
    intro hhead
    cases token with
    | run letter' count' =>
      obtain ⟨n, rfl⟩ := Nat.exists_eq_succ_of_ne_zero (Nat.ne_of_gt htoken.1)
      exact hapart (Option.some.inj hhead).symm
    | mark c =>
      obtain rfl := Option.some.inj hhead
      rw [htoken.1] at hletter
      cases hletter
    | quoted text =>
      obtain rfl := Option.some.inj hhead
      exact absurd hletter (by decide)

/-- **A pattern is translated token by token.** -/
theorem directivesFrom_written (pattern : String) : ∀ {tokens : List Token}, IsPattern tokens →
    directivesFrom pattern (tokens.flatMap Token.written) = .ok (tokens.flatMap Token.read)
  | [], _ => directivesFrom_nil pattern
  | token :: rest, h => by
    obtain ⟨htoken, hnext, hrest⟩ := isPattern_cons.mp h
    have ih := directivesFrom_written pattern hrest
    rw [List.flatMap_cons, List.flatMap_cons]
    cases token with
    | run letter count =>
      obtain ⟨n, rfl⟩ := Nat.exists_eq_succ_of_ne_zero (Nat.ne_of_gt htoken.1)
      obtain ⟨d, hd⟩ := Option.isSome_iff_exists.mp htoken.2
      have hhead := head_written_ne (isLetter_of_directive htoken.2) hnext hrest
      rw [Token.written, directivesFrom_run pattern hd hhead, ih, Token.read, hd]
      rfl
    | mark c =>
      rw [Token.written, List.singleton_append, directivesFrom_mark pattern htoken.1 htoken.2.1, ih]
      rfl
    | quoted text =>
      rw [Token.written, List.cons_append, List.cons_append, List.append_assoc,
        List.singleton_append, directivesFrom_written_quoted, ih]
      rfl

/-- What follows a quoted text does not stand for a text that begins with a quote. -/
theorem head_documented_ne {text : List Char} :
    ∀ {rest : List Token}, (∀ next ∈ rest.head?, Token.Apart (.quoted text) next) →
      IsPattern rest → (rest.flatMap Token.documented).head? ≠ some '\''
  | [], _, _ => nofun
  | token :: rest, hnext, hrest => by
    have hapart := hnext token rfl
    obtain ⟨htoken, _, _⟩ := isPattern_cons.mp hrest
    rw [List.flatMap_cons]
    intro hhead
    cases token with
    | run letter count => exact absurd (Option.some.inj hhead) (by decide)
    | mark c => exact htoken.2.1 (Option.some.inj hhead)
    | quoted text' => exact hapart

/-- **Tokens are read as what they stand for** when the quotes of all quoted texts stand at their
    ends. -/
theorem read_eq_documented_iff : ∀ {tokens : List Token}, IsPattern tokens →
    (tokens.flatMap Token.read = tokens.flatMap Token.documented ↔
      ∀ text, .quoted text ∈ tokens → QuotesAtEnds text)
  | [], _ => iff_of_true rfl fun _ h => absurd h List.not_mem_nil
  | token :: rest, h => by
    obtain ⟨htoken, hnext, hrest⟩ := isPattern_cons.mp h
    have ih := read_eq_documented_iff hrest
    rw [List.flatMap_cons, List.flatMap_cons]
    cases token with
    | run letter count =>
      rw [Token.read, Token.documented, List.append_cancel_left_eq, ih]
      simp
    | mark c =>
      rw [Token.read, Token.documented, List.append_cancel_left_eq, ih]
      simp
    | quoted text =>
      rw [Token.read, Token.documented]
      simp only [List.mem_cons, Token.quoted.injEq, forall_eq_or_imp, ← ih]
      constructor
      · exact quotesAtEnds_of_copied htoken.1 (head_documented_ne hnext hrest)
      · rintro ⟨hends, hsame⟩
        rw [copied_of_quotesAtEnds hends, hsame]

/-- A pattern of tokens is translated to what these are read as. -/
theorem directivesOf_eq {tokens : List Token} (h : IsPattern tokens) :
    directivesOf (writtenPattern tokens) = .ok (tokens.flatMap Token.read) := by
  have hpercent : (tokens.flatMap Token.written).contains '%' = false := by
    rw [List.contains_eq_mem, decide_eq_false_iff_not, List.mem_flatMap]
    rintro ⟨token, htoken, hmem⟩
    exact percent_not_mem_written (h.writable token htoken) hmem
  unfold directivesOf writtenPattern
  simp only [String.toList_ofList, hpercent, Bool.false_eq_true, if_false]
  exact directivesFrom_written _ h

/-- **A letter pattern is translated token by token**, whatever the tokens are: runs of letters to
    their directives, marks to themselves, and quoted texts to their pieces. What comes out is what
    the pattern stands for exactly when the quotes of every quoted text stand at its ends. -/
theorem directivesOf_written {tokens : List Token} (h : IsPattern tokens) :
    directivesOf (writtenPattern tokens) = .ok (tokens.flatMap Token.read) ∧
    (directivesOf (writtenPattern tokens) = .ok (tokens.flatMap Token.documented) ↔
      ∀ text, .quoted text ∈ tokens → QuotesAtEnds text) := by
  rw [directivesOf_eq h, ← read_eq_documented_iff h]
  exact ⟨rfl, fun hsame => Except.ok.inj hsame, fun hsame => congrArg Except.ok hsame⟩

/-- Runs of different letters side by side, a mark, and a text with a quote at its beginning. -/
theorem directivesOf_written_time :
    let tokens : List Token :=
      [.run 'y' 2, .run 'M' 3, .mark '-', .quoted ['\'', 'a', 't'], .run 'H' 1, .run 'm' 1]
    IsPattern tokens ∧ writtenPattern tokens = "yyMMM-'''at'Hm" ∧
      directivesOf (writtenPattern tokens) = .ok "%y%b-'at%H%M".toList := by
  intro tokens
  have hpattern : IsPattern tokens := by decide
  have hends : ∀ text, .quoted text ∈ tokens → QuotesAtEnds text := by
    intro text htext
    obtain rfl : text = ['\'', 'a', 't'] := by simpa [tokens] using htext
    exact ⟨1, 0, ['a', 't'], by decide, by decide, rfl⟩
  exact ⟨hpattern, by decide, (directivesOf_written hpattern).2.mpr hends⟩

/-- **A quote within a quoted text is lost**, and a text of one quote gets a second one, although
    both are written as such texts are. -/
theorem quote_within_text_lost :
    let its : Token := .quoted ['i', 't', '\'', 's']
    let quote : Token := .quoted ['\'']
    (IsPattern [its] ∧ writtenPattern [its] = "'it''s'" ∧
      its.documented = ['i', 't', '\'', 's'] ∧
      directivesOf (writtenPattern [its]) = .ok ['i', 't', 's']) ∧
    IsPattern [quote] ∧ writtenPattern [quote] = "''''" ∧
      quote.documented = ['\''] ∧
      directivesOf (writtenPattern [quote]) = .ok ['\'', '\''] := by
  intro its quote
  have hits : IsPattern [its] := by decide
  have hquote : IsPattern [quote] := by decide
  exact ⟨⟨hits, by decide, rfl, directivesOf_eq hits⟩, hquote, by decide, rfl,
    directivesOf_eq hquote⟩

end Reconcile.Calendar
