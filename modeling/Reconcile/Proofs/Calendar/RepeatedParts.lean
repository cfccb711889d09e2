import Mathlib.Data.List.Nodup
import Reconcile.Calendar.Reader

/-!
# Formats that ask for a part twice

A format names each of its directives once: where it asks for one a second time no text can be read
with it, not even one that does not fit. A pattern that is malformed, or that no format stands for,
asks for nothing.

* `FormatPart.repeated?_eq_none_iff`: the parts of a format are in order when no directive comes
  twice;
* `asksTwice`: what a date pattern does whose format asks for a directive twice;
* **`readDate_repeatedPart_iff`**: these patterns, and no others, break the reading of a text off.
-/

namespace Reconcile.Calendar

namespace FormatPart

/-- Nothing is wrong with the rest of a format when its directives differ from those seen, and from
    each other. -/
theorem repeatedFrom_eq_none_iff : ∀ (parts : List FormatPart) (pos : Nat)
    (seen : List Directive), seen.Nodup →
      (repeatedFrom pos seen parts = none ↔ (seen ++ fields parts).Nodup)
  | [], pos, seen, hseen => by
    rw [repeatedFrom, fields, List.filterMap_nil, List.append_nil]
    exact ⟨fun _ => hseen, fun _ => rfl⟩
  | .literal c :: rest, pos, seen, hseen => repeatedFrom_eq_none_iff rest _ seen hseen
  | .blanks :: rest, pos, seen, hseen => repeatedFrom_eq_none_iff rest _ seen hseen
  | .field d :: rest, pos, seen, hseen => by
    have hfields : fields (.field d :: rest) = d :: fields rest := rfl
    rw [repeatedFrom, hfields]
    cases hd : seen.idxOf? d with
    | some i =>
      have hmem : d ∈ seen := by
        by_contra hnot
        rw [List.idxOf?_eq_none_iff.mpr hnot] at hd
        cases hd
      -- a directive that was seen stands on both sides of the append
      refine ⟨nofun, fun hnodup => ?_⟩
      exact (List.disjoint_of_nodup_append hnodup hmem List.mem_cons_self).elim
    | none =>
      have hnot : d ∉ seen := List.idxOf?_eq_none_iff.mp hd
      have hnodup : (seen ++ [d]).Nodup := by
        rw [List.nodup_append_comm]
        exact List.nodup_cons.mpr ⟨hnot, hseen⟩
      have ih := repeatedFrom_eq_none_iff rest (pos + (FormatPart.field d).written.length)
        (seen ++ [d]) hnodup
      rw [List.append_assoc] at ih
      exact ih

/-- Nothing is wrong with a format whose directives differ from each other. -/
theorem repeated?_eq_none_iff (parts : List FormatPart) :
    repeated? parts = none ↔ (fields parts).Nodup :=
  repeatedFrom_eq_none_iff parts 0 [] .nil

end FormatPart

/-- Whether a format asks for a directive twice. -/
def formatAsksTwice (directives : List Char) : Bool :=
  (readFormat? directives).any fun parts => !(FormatPart.fields parts).Nodup

/-- Whether the format that a date pattern stands for asks for a directive twice. -/
def asksTwice (pattern : String) : Bool := (directivesOf pattern).toOption.any formatAsksTwice

theorem readWith_repeatedPart_iff (rule : IsoRule) (directives : List Char) (value : String) :
    (∃ f, readWith rule directives value = .error (.repeatedPart f)) ↔
      formatAsksTwice directives = true := by
  unfold readWith formatAsksTwice
  cases hformat : readFormat? directives with
  | none => simp
  | some parts =>
    have hparts := FormatPart.repeated?_eq_none_iff parts
    cases hrepeated : FormatPart.repeated? parts with
    | none => simp [hrepeated, hparts.mp hrepeated]
    | some f =>
      have htwice : ¬ (FormatPart.fields parts).Nodup := fun h => by
        rw [hparts.mpr h] at hrepeated
        cases hrepeated
      simp [hrepeated, htwice]

/-- **A pattern that asks for a directive twice** breaks off the reading of every text; nothing else
    does. -/
theorem readDate_repeatedPart_iff (pattern value : String) (rule : IsoRule) :
    (∃ f, readDate pattern (some value) rule = .error (.repeatedPart f)) ↔
      asksTwice pattern = true := by
  unfold readDate asksTwice
  cases hdirectives : directivesOf pattern with
  | error f => simp [Except.toOption]
  | ok directives => exact readWith_repeatedPart_iff rule directives value

end Reconcile.Calendar
