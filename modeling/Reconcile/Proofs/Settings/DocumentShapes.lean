import Reconcile.Proofs.Decimal.Value
import Reconcile.Proofs.Document.Ordinary
import Reconcile.Settings.Loader

/-!
# Documents of settings

What the schema of settings files asks for, said without the schema: a document is a mapping with
known keys, each of which has a value of its shape. And what a library owes that is asked about this
schema, or that reads a file.

* `Shape.name`, `Shape.listOf`, `Shape.mappingTo`, `Shape.limit` and others: shapes of values;
* `settingsShapes`, `IsSettingsDocument`: the shape of the value under each key, and the whole;
* **`Library.ChecksSettings`**: what is relied on where documents are checked;
* `Library.ReadsText`: what is relied on where files are read;
* `isSettingsDocument_of_isNothing`: an empty mapping is a document of settings.
-/

namespace Reconcile.Settings

open Reconcile.Document

/-! ## 1. Shapes -/

/-- A condition on a value of a settings file. -/
def Shape := Value → Prop

namespace Shape

def text : Shape := fun v => ∃ s, v = .text s

/-- A text with something in it. -/
def name : Shape := fun v => ∃ s, v = .text s ∧ s ≠ ""

def flag : Shape := fun v => ∃ b, v = .bool b

def listOf (item : Shape) : Shape := fun v => v.isList = true ∧ ∀ x ∈ v.itemsOf, item x

/-- Names, none of them twice. -/
def names : Shape := fun v => listOf name v ∧ v.itemsOf.Nodup

def mappingTo (value : Shape) : Shape := fun v => v.isMapping = true ∧ ∀ e ∈ v.entriesOf, value e.2

/-- A number, its text, or nothing. -/
def precision : Shape := fun v =>
  v = .null ∨ text v ∨ (∃ n, v = .int n) ∨ ∃ x, v = .float x

/-- Entries of a list, or the precisions of columns. -/
def numericColumns : Shape := fun v => listOf name v ∨ mappingTo precision v

def policy : Shape := fun v => ∃ p : ExtraPolicy, v = .text p.name

/-- A whole number, at least the one that stands for no limit. It may be written with a fraction
    that is zero. -/
def limit : Shape := fun v =>
  ¬ flag v ∧ ∃ d : Decimal, v.number? = some d ∧ ∃ n : ℤ, d.toRat = n ∧ unlimited ≤ n

end Shape

/-- The keys of a settings file with the shapes of their values. -/
def settingsShapes : List (String × Shape) := [
  ("key_columns", .names),
  ("numeric_columns", .numericColumns),
  ("column_mapping", .mappingTo .name),
  ("ignore_columns", .listOf .text),
  ("info_columns", .listOf .text),
  ("case_sensitive", .flag),
  ("check_duplicates", .flag),
  ("extra_policy", .policy),
  ("group_key_fields", .mappingTo (.listOf .name)),
  ("service_fields", .listOf .text),
  ("max_passed_rows", .limit),
  ("max_failed_rows", .limit),
  ("max_not_found_rows", .limit),
  ("max_extra_rows", .limit)]

/-- A document that settings can be made of: a mapping with known keys and values of their shapes. -/
structure IsSettingsDocument (d : Value) : Prop where
  mapping : d.isMapping = true
  keys : ∀ e ∈ d.entriesOf, ∃ f ∈ settingsShapes, (e.1 == .text f.1) = true
  values : ∀ f ∈ settingsShapes, ∀ v, d.get? f.1 = some v → f.2 v

/-! ## 2. Libraries -/

variable {ε : Type}

/-- What a library owes that checks documents against the schema of settings files. Which failure it
    tells of a document, and in which words, is left to it; and it may break off on documents that are
    not ordinary, while it makes a message or compares failures. -/
structure Library.ChecksSettings (library : Library ε) : Prop where
  isSchema : ∀ d m, library.check schemaDocument d ≠ .error (.badSchema m)
  /-- nothing else is accepted -/
  sound : ∀ d, library.check schemaDocument d = .ok () → IsSettingsDocument d
  /-- what can be shown is accepted -/
  accepts : ∀ d, IsSettingsDocument d → d.isShowable = true →
    library.check schemaDocument d = .ok ()
  /-- nothing is refused that is a document of settings -/
  refused : ∀ d m, library.check schemaDocument d = .error (.refused m) → ¬ IsSettingsDocument d
  /-- what is ordinary is refused in words -/
  refuses : ∀ d, IsOrdinary maxNesting d → ¬ IsSettingsDocument d →
    ∃ m, library.check schemaDocument d = .error (.refused m)

/-- What a library owes that reads files: a document is read only from a file that is a text to its
    end. Where the bytes are no text, other faults may be met first. -/
def Library.ReadsText (library : Library ε) : Prop :=
  ∀ bytes d, library.read bytes = .ok d → (Text.charsOf? bytes).isSome

/-! ## 3. Empty documents -/

variable {d : Value}

/-- An empty mapping has no entries, also when it has a label. -/
theorem entriesOf_of_isNothing (h : d.isNothing = true) (hmapping : d.isMapping = true) :
    d.entriesOf = [] := by
  have hempty : ∀ es : List (Value × Value), (Value.map es).isNothing = true → es = [] :=
    fun _ h => List.isEmpty_iff.mp h
  cases d with
  | map es => exact hempty es h
  | labelled l v => cases v with
    | map es =>
      rw [Value.isNothing] at h
      rw [hempty es h]
      rfl
    | _ => cases hmapping
  | _ => cases hmapping

theorem isSettingsDocument_of_isNothing (h : d.isNothing = true) (hmapping : d.isMapping = true) :
    IsSettingsDocument d := by
  have hentries := entriesOf_of_isNothing h hmapping
  refine ⟨hmapping, fun e he => absurd (hentries ▸ he) List.not_mem_nil, fun f _ v hv => ?_⟩
  rw [Value.get?, hentries] at hv
  cases hv

/-- A list is no mapping. -/
theorem not_isMapping_of_isList {v : Value} (hlist : v.isList = true) : ¬ v.isMapping = true := by
  unfold Value.isList at hlist
  unfold Value.isMapping
  cases hbare : v.bare <;> simp [hbare] at hlist ⊢

end Reconcile.Settings
