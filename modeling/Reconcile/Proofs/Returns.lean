import Reconcile.Proofs.Message.Returns
import Reconcile.Proofs.Table.Caps
import Reconcile.Proofs.Table.Returns

/-!
# What an expected text can do to a comparison

A text in an expected cell or field is told to be malformed beside it, and its neighbours are still
compared. Only few texts end the whole comparison instead: patterns beyond the limits of what can
be read, and date formats that ask for a part twice, when there is a date to read.

* **`comparisons_return`**: checks, comparisons of tables and comparisons of messages return as long
  as nothing they compare breaks off;
* `check_breaks_off`: a check that does not.
-/

namespace Reconcile

open Reconcile.Expectation Reconcile.Table

/-- **Comparisons return** as long as nothing breaks off, whatever the settings are: a check gives a
    leaf exactly when its expectation is only reported or does not break off with the actual value;
    a run over two readable tables that have the key columns gives a tree exactly when no compared
    cell of the pairs of rows that it compares breaks off; and a comparison of messages gives a tree
    when no field of the expected message, or of a message of its groups, can break off. -/
theorem comparisons_return (s : Settings) (c : Message.Comparator)
    (keys : Option (List (String × List String))) :
    (∀ (name : String) (expected actual : Option String) (info : Option InfoRule)
        (caseSensitive : Bool),
      (∃ leaf, check name expected actual info caseSensitive = .ok leaf) ↔
        info.any (·.applies expected) = true ∨
          (Expression.ofCell expected).breaksOff actual = false) ∧
    (∀ expected actual : Supply, expected.IsReadable → actual.IsReadable →
      HasKeyColumns s expected.source.header actual.source.header →
      ((∃ t, (Table.compare s expected actual).result = .ok t) ↔
        ∀ q ∈ comparedPairs s expected.source.rows actual.source.rows, PairStands s q.1 q.2)) ∧
    (∀ expected actual : Message, expected.AllStand →
      ∃ t, Message.compare c expected actual keys = .ok t) :=
  ⟨check_returns_iff, fun _ _ he ha hcolumns => Table.compare_returns_iff he ha hcolumns,
    fun _ actual h => Message.compare_returns c h actual keys⟩

/-- A malformed argument and a date format beside readable cells, and a message with a group. -/
theorem comparisons_return_stock :
    let s : Settings := { keyColumns := ["Item"] }
    let expected := stockOf [("pen", "@\x7bisGreaterThan(two)\x7d"),
      ("ink", "@\x7bisTimestamp('%d.%m.%Y')\x7d")]
    let actual := stockOf [("ink", "01.02.2024"), ("pen", "3")]
    let order : Message :=
      ⟨[("Side", some "buy")], [("Leg", [⟨[("Amount", some "@\x7bisNotNull\x7d")], []⟩])]⟩
    (∃ t, (Table.compare s expected actual).result = .ok t) ∧
      ∀ actual, ∃ t, Message.compare {} order actual none = .ok t := by
  intro s expected actual order
  have hcolumns : HasKeyColumns s expected.source.header actual.source.header := by
    intro c hc
    obtain rfl := List.mem_singleton.mp hc
    decide
  have hstands : ∀ q ∈ comparedPairs s expected.source.rows actual.source.rows,
      PairStands s q.1 q.2 := by decide +kernel
  have hside : Message.Stands (some "buy") := breaksOff_of_literal (by decide +kernel)
  have hamount : Message.Stands (some "@\x7bisNotNull\x7d") := fun actual => by
    rw [show Expression.ofCell (some "@\x7bisNotNull\x7d") = .sentinel .isNotNull by decide +kernel]
    rfl
  have hleg : Message.AllStand ⟨[("Amount", some "@\x7bisNotNull\x7d")], []⟩ :=
    .intro (List.forall_mem_singleton.mpr hamount) nofun
  have horder : order.AllStand := .intro (List.forall_mem_singleton.mpr hside)
    (List.forall_mem_singleton.mpr (List.forall_mem_singleton.mpr hleg))
  have hreturns := comparisons_return s {} none
  exact ⟨(hreturns.2.1 expected actual (Source.IsReadable.held ⟨rfl, rfl, rfl⟩)
      (Source.IsReadable.held ⟨rfl, rfl, rfl⟩) hcolumns).mpr hstands,
    fun actual => hreturns.2.2 order actual horder⟩

/-- **A check can break off**: the format asks for the day twice. -/
theorem check_breaks_off : ¬ ∀ (name : String) (expected actual : Option String)
    (info : Option InfoRule) (caseSensitive : Bool),
      ∃ leaf, check name expected actual info caseSensitive = .ok leaf := by
  intro h
  have hleaf := h "Day" (some "@\x7bisTimestamp('%d %d')\x7d") (some "1 1") none true
  rw [check_returns_iff] at hleaf
  have hbreaks : (Expression.ofCell (some "@\x7bisTimestamp('%d %d')\x7d")).breaksOff
      (some "1 1") = true := by decide +kernel
  rcases hleaf with hinfo | hstands
  · cases hinfo
  · rw [hbreaks] at hstands
    cases hstands

end Reconcile
