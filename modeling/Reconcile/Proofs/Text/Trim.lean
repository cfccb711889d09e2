import Mathlib.Data.List.DropRight
import Reconcile.Text.Blank

/-!
# Blanks at the ends of a text

What is left of a text when the blanks at its ends are removed.

* `dropBlanks_append`, `dropBlanks_cons`, `dropBlanks_eq_nil_iff`: blanks at the front go, and nothing
  else does;
* `trimChars_eq_self`: a text without blanks stays as it is;
* **`trimChars_between`**: so does a text that begins and ends with something else, whatever blanks
  stand around it;
* `trimChars_eq_self_iff`: when a text has no blanks at its ends; **`trimChars_append_self`**: what
  stands between two such texts has none either;
* `mem_of_mem_trimChars`, **`trimChars_trimChars`**: what is left of any text is taken from it, and has
  no blanks at its ends.
-/

namespace Reconcile.Text

variable {s before after : List Char}

/-- Blanks in front of a text make no difference. -/
theorem dropBlanks_append (h : ∀ c ∈ before, isBlank c = true) :
    dropBlanks (before ++ s) = dropBlanks s := List.dropWhile_append_of_pos h

/-- Nothing is left of blanks, and of blanks only. -/
theorem dropBlanks_eq_nil_iff : dropBlanks s = [] ↔ ∀ c ∈ s, isBlank c = true :=
  List.dropWhile_eq_nil_iff

/-- A text that begins with something else than a blank keeps all its characters. -/
theorem dropBlanks_cons {c : Char} (hc : isBlank c = false) : dropBlanks (c :: s) = c :: s := by
  rw [dropBlanks, List.dropWhile_cons_of_neg (by rw [hc]; exact Bool.false_ne_true)]

/-- A text that keeps all its characters does not begin with a blank. -/
theorem isBlank_of_dropBlanks {c : Char} (h : dropBlanks (c :: s) = c :: s) : isBlank c = false := by
  cases hc : isBlank c with
  | false => rfl
  | true =>
    have hlength := (List.dropWhile_suffix isBlank (l := s)).length_le
    rw [dropBlanks, List.dropWhile_cons_of_pos hc] at h
    rw [h, List.length_cons] at hlength
    omega

/-- A text without blanks at its front keeps all its characters. -/
theorem dropBlanks_eq_self (h : ∀ c ∈ s, isBlank c = false) : dropBlanks s = s := by
  cases s with
  | nil => rfl
  | cons c rest => exact dropBlanks_cons (h c List.mem_cons_self)

/-- A text without blanks is its own trimmed text. -/
theorem trimChars_eq_self (h : ∀ c ∈ s, isBlank c = false) : trimChars s = s := by
  have hreverse : ∀ c ∈ s.reverse, isBlank c = false := fun c hc => h c (List.mem_reverse.mp hc)
  rw [trimChars, dropBlanks_eq_self h, dropBlanks_eq_self hreverse, List.reverse_reverse]

theorem trimChars_append_left (h : ∀ c ∈ before, isBlank c = true) :
    trimChars (before ++ s) = trimChars s := by
  rw [trimChars, dropBlanks_append h, trimChars]

/-- **A text between two characters that are not blank** is what is left of it when blanks stand
    around it. -/
theorem trimChars_between {c d : Char} (hc : isBlank c = false) (hd : isBlank d = false)
    (hbefore : ∀ b ∈ before, isBlank b = true) (hafter : ∀ b ∈ after, isBlank b = true) :
    trimChars (before ++ (c :: s ++ [d]) ++ after) = c :: s ++ [d] := by
  have hreverse : ∀ b ∈ after.reverse, isBlank b = true :=
    fun b hb => hafter b (List.mem_reverse.mp hb)
  have hback : (c :: s ++ [d] ++ after).reverse = after.reverse ++ d :: (c :: s).reverse := by simp
  rw [List.append_assoc, trimChars_append_left hbefore, trimChars, List.cons_append,
    List.cons_append, dropBlanks_cons hc, ← List.cons_append, ← List.cons_append, hback,
    dropBlanks_append hreverse, dropBlanks_cons hd, List.reverse_cons, List.reverse_reverse]

/-- A text has no blanks at its ends when it has none at its front, read from either side. -/
theorem trimChars_eq_self_iff :
    trimChars s = s ↔ dropBlanks s = s ∧ dropBlanks s.reverse = s.reverse := by
  constructor
  · intro h
    have hfront : (dropBlanks s).length ≤ s.length := (List.dropWhile_suffix isBlank).length_le
    have hback : (dropBlanks (dropBlanks s).reverse).length ≤ (dropBlanks s).reverse.length :=
      (List.dropWhile_suffix isBlank).length_le
    have hlength := congrArg List.length h
    rw [trimChars, List.length_reverse] at hlength
    rw [List.length_reverse] at hback
    have hsame : dropBlanks s = s :=
      (List.dropWhile_suffix isBlank).eq_of_length (by rw [← dropBlanks]; omega)
    rw [trimChars, hsame] at h
    exact ⟨hsame, List.reverse_eq_iff.mp h⟩
  · rintro ⟨hfront, hback⟩
    rw [trimChars, hfront, hback, List.reverse_reverse]

theorem dropBlanks_append_self (hs : s ≠ []) (h : dropBlanks s = s) (rest : List Char) :
    dropBlanks (s ++ rest) = s ++ rest := by
  obtain ⟨c, s, rfl⟩ := List.exists_cons_of_ne_nil hs
  rw [List.cons_append]
  exact dropBlanks_cons (isBlank_of_dropBlanks h)

/-- **Between two texts without blanks at their ends** anything may stand. -/
theorem trimChars_append_self (hbefore : before ≠ []) (hafter : after ≠ [])
    (htrimmed : trimChars before = before) (htrimmed' : trimChars after = after) :
    trimChars (before ++ s ++ after) = before ++ s ++ after := by
  rw [trimChars_eq_self_iff] at htrimmed htrimmed' ⊢
  constructor
  · rw [List.append_assoc]
    exact dropBlanks_append_self hbefore htrimmed.1 _
  · rw [List.reverse_append]
    exact dropBlanks_append_self (mt List.reverse_eq_nil_iff.mp hafter) htrimmed'.2 _

/-- Trimming removes characters and adds none. -/
theorem mem_of_mem_trimChars {c : Char} (h : c ∈ trimChars s) : c ∈ s := by
  have hback : c ∈ dropBlanks (dropBlanks s).reverse := List.mem_reverse.mp h
  have hfront : c ∈ dropBlanks s :=
    List.mem_reverse.mp ((List.dropWhile_suffix isBlank).subset hback)
  exact (List.dropWhile_suffix isBlank).subset hfront

/-- The beginning of a text without blanks at its front has none there. -/
theorem dropBlanks_of_prefix (hbefore : before <+: s) (h : dropBlanks s = s) :
    dropBlanks before = before := by
  obtain ⟨rest, rfl⟩ := hbefore
  cases before with
  | nil => rfl
  | cons c before => exact dropBlanks_cons (isBlank_of_dropBlanks h)

/-- **What is left of a text** has no blanks at its ends. -/
theorem trimChars_trimChars (s : List Char) : trimChars (trimChars s) = trimChars s := by
  rw [trimChars_eq_self_iff]
  constructor
  · have hprefix : trimChars s <+: dropBlanks s := List.rdropWhile_prefix isBlank _
    exact dropBlanks_of_prefix hprefix (List.dropWhile_idempotent isBlank _)
  · rw [trimChars, List.reverse_reverse]
    exact List.dropWhile_idempotent isBlank _

end Reconcile.Text
