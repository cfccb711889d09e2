import Mathlib.Data.List.Basic
import Reconcile.Text.Pieces

/-!
# Cutting at a character

A text without the separator is one piece, and what stands before its first separator is the first
piece of any other text. So joining texts without separators and cutting at them are inverse.

* `takeWhile_of_not_mem`, `dropWhile_of_not_mem`: what stands before the first separator of a text, and
  what is left from there;
* `pieces_of_not_mem`, `pieces_append_cons`: the pieces of either kind of text;
* `pieces_induction`: every text is of one of these kinds;
* `not_mem_of_mem_pieces`: no piece holds the separator;
* **`pieces_intercalate`**: the pieces of texts that are joined by separators are these texts.
-/

namespace Reconcile.Text

variable {separator : Char}

theorem bne_of_not_mem {x : List Char} (h : separator ∉ x) : ∀ c ∈ x, (c != separator) = true :=
  fun _ hc => bne_iff_ne.mpr fun hseparator => h (hseparator ▸ hc)

/-- A text up to its first separator. -/
theorem takeWhile_of_not_mem {x : List Char} (h : separator ∉ x) (rest : List Char) :
    (x ++ separator :: rest).takeWhile (· != separator) = x := by
  rw [List.takeWhile_append_of_pos (bne_of_not_mem h), List.takeWhile_cons_of_neg (by simp),
    List.append_nil]

/-- A text from its first separator on. -/
theorem dropWhile_of_not_mem {x : List Char} (h : separator ∉ x) (rest : List Char) :
    (x ++ separator :: rest).dropWhile (· != separator) = separator :: rest := by
  rw [List.dropWhile_append_of_pos (bne_of_not_mem h), List.dropWhile_cons_of_neg (by simp)]

/-- A text in which the separator does not occur is one piece. -/
theorem pieces_of_not_mem : ∀ {x : List Char}, separator ∉ x → pieces separator x = [x]
  | [], _ => rfl
  | c :: x, h => by
    simp only [List.mem_cons, not_or] at h
    obtain ⟨hc, hx⟩ := h
    rw [pieces, if_neg (by rw [beq_iff_eq]; exact Ne.symm hc), pieces_of_not_mem hx]

/-- What stands before the first separator is the first piece. -/
theorem pieces_append_cons : ∀ {x : List Char}, separator ∉ x → ∀ rest : List Char,
    pieces separator (x ++ separator :: rest) = x :: pieces separator rest
  | [], _, rest => by rw [List.nil_append, pieces, if_pos (beq_self_eq_true _)]
  | c :: x, h, rest => by
    simp only [List.mem_cons, not_or] at h
    obtain ⟨hc, hx⟩ := h
    rw [List.cons_append, pieces, if_neg (by rw [beq_iff_eq]; exact Ne.symm hc),
      pieces_append_cons hx rest]

variable (separator) in
/-- Every text either has no separator or is cut at its first one, so that a property of all texts
    can be shown piece by piece. -/
theorem pieces_induction {motive : List Char → Prop} (single : ∀ x, separator ∉ x → motive x)
    (more : ∀ x rest, separator ∉ x → motive rest → motive (x ++ separator :: rest)) :
    ∀ t, motive t := by
  suffices h : ∀ t x, separator ∉ x → motive (x ++ t) by
    intro t
    exact h t [] List.not_mem_nil
  intro t
  induction t with
  | nil =>
    intro x hx
    rw [List.append_nil]
    exact single x hx
  | cons c t ih =>
    intro x hx
    by_cases hc : c = separator
    · subst hc
      exact more x t hx (ih [] List.not_mem_nil)
    · have hcons := ih (x ++ [c]) (by simp [hx, Ne.symm hc])
      rwa [List.append_assoc] at hcons

/-- No piece holds the separator. -/
theorem not_mem_of_mem_pieces (t : List Char) : ∀ p ∈ pieces separator t, separator ∉ p := by
  induction t using pieces_induction separator with
  | single x hx =>
    rw [pieces_of_not_mem hx]
    exact List.forall_mem_singleton.mpr hx
  | more x rest hx ih =>
    rw [pieces_append_cons hx]
    exact List.forall_mem_cons.mpr ⟨hx, ih⟩

/-- **Texts that are joined by separators are the pieces of what they are joined to.** -/
theorem pieces_intercalate : ∀ {texts : List (List Char)}, texts ≠ [] →
    (∀ x ∈ texts, separator ∉ x) → pieces separator ([separator].intercalate texts) = texts
  | [x], _, h => by
    rw [List.intercalate_singleton]
    exact pieces_of_not_mem (h x List.mem_cons_self)
  | x :: y :: rest, _, h => by
    obtain ⟨hx, hrest⟩ := List.forall_mem_cons.mp h
    rw [List.intercalate_cons_cons, List.append_assoc, List.singleton_append,
      pieces_append_cons hx, pieces_intercalate (List.cons_ne_nil y rest) hrest]

end Reconcile.Text
