import Reconcile.Proofs.Settings.WrittenContent
import Reconcile.Settings.OfDocument

/-!
# The two forms of settings

Settings can be written as parameters and as a document. Whatever their content is, both forms are
read as the same settings with their columns in the same order, or both fail with the same fault.
Only limits of rows differ: a parameter is read from its digits, of which there may be too many,
while a document has the number itself.

* `Form`, `document`: the content as a document, with the numeric columns in either form;
* `partsAt_texts`, `mappingAt_texts`, `policyAt_written`: what is read of lists, mappings and
  policies of a document;
* `numericAt_entries`, `numericAt_mapping`: what is read of numeric columns in either form;
* `statedIn_written`: what a written document states;
* **`forms_agree`**: the two forms of every content;
* `long_limit_in_parameters`: a limit that is read of a document only.
-/

namespace Reconcile.Settings

open Reconcile.Document

/-! ## 1. Contents as documents -/

/-- How a document gives numeric columns: as the entries that parameters have, or as a mapping from
    names to precisions, with nothing where there is none. -/
inductive Form where
  | entries
  | mapping
  deriving DecidableEq, Repr

namespace Content

def numericValue (c : Content) : Form → Value
  | .entries => .texts (c.numericColumns.map numericText)
  | .mapping => .record (c.numericColumns.map fun e => (e.1, .ofOption e.2))

/-- The content as a document. -/
def document (c : Content) (form : Form) : Value :=
  .record ([("key_columns", .texts c.keyColumns), ("numeric_columns", c.numericValue form),
    ("column_mapping", .record (c.columnMapping.map fun e => (e.1, .text e.2))),
    ("ignore_columns", .texts c.ignoreColumns), ("info_columns", .texts c.infoColumns),
    ("case_sensitive", .bool c.caseSensitive), ("check_duplicates", .bool c.checkDuplicates),
    ("service_fields", .texts c.serviceFields), ("max_passed_rows", .int c.caps.passed),
    ("max_failed_rows", .int c.caps.failed), ("max_not_found_rows", .int c.caps.notFound),
    ("max_extra_rows", .int c.caps.extra)] ++
    (c.extraPolicy.map fun p => ("extra_policy", .text p.name)).toList)

end Content

open Content

/-! ## 2. Parts of a document -/

variable {document : Value} {key : String}

theorem filled?_of_get? {v : Value} (h : document.get? key = some v) :
    filled? document key = if v.isNothing then none else some v := by
  rw [filled?, h, Option.bind_some]

/-- A list of texts is read as it is, also when it is empty. -/
theorem partsAt_texts {names : List String} (h : document.get? key = some (.texts names)) :
    partsAt document key = .ok (Stated.ofNames names) := by
  rw [partsAt, filled?_of_get? h]
  cases names with
  | nil => rfl
  | cons name rest => rfl

theorem entriesOf_record (fields : List (String × Value)) :
    (Value.record fields).entriesOf = fields.map fun e => (.text e.1, e.2) := rfl

/-- So is a mapping of texts. -/
theorem mappingAt_texts {mapping : List (String × String)}
    (h : document.get? key = some (.record (mapping.map fun e => (e.1, .text e.2)))) :
    mappingAt document key = .ok (mapping.map fun e => (.text e.1, .text e.2)) := by
  have hentries : (Value.record (mapping.map fun e => (e.1, .text e.2))).entriesOf =
      mapping.map fun e => (.text e.1, .text e.2) := by
    rw [entriesOf_record, List.map_map]
    rfl
  rw [mappingAt, filled?_of_get? h]
  cases mapping with
  | nil => rfl
  | cons e rest => exact congrArg Except.ok hentries

/-- Numeric columns as a document states them. -/
def statedColumns (columns : List (String × Decimal)) : List (Value × Decimal) :=
  columns.map fun e => (.text e.1, e.2)

/-- A text is its own text. -/
theorem textOf_text (s : String) : textOf (.text s) = .ok s := by
  rw [textOf, Value.isShowable_text, if_pos rfl, Value.plain]

theorem mapM_textOf : ∀ texts : List String, (texts.map Value.text).mapM textOf = .ok texts
  | [] => rfl
  | s :: rest => by
    rw [List.map_cons, List.mapM_cons, textOf_text, mapM_textOf rest]
    rfl

/-- A numeric column of a mapping is read as the entry that parameters have of it. -/
theorem numericEntry_written (e : String × Option String) :
    numericEntry (.text e.1, .ofOption e.2) =
      (orSetting (precisionOf e)).map fun d => (.text e.1, d) := by
  obtain ⟨name, precision⟩ := e
  have hnaming : naming (.text name) = DocumentFault.setting := by
    funext f
    rw [naming, Value.isShowable_text, if_pos rfl]
  have hread : ∀ text, (do
      return (Value.text name, ← (readPrecision name text).mapError (naming (.text name))) :
        Except DocumentFault _) =
        (orSetting (readPrecision name text)).map fun d => (.text name, d) := by
    intro text
    rw [hnaming]
    cases readPrecision name text <;> rfl
  cases precision with
  | none =>
    have hzero : readPrecision name "0" = .ok Decimal.zero := rfl
    exact (hread "0").trans (by rw [hzero]; rfl)
  | some text =>
    have hentry : numericEntry (.text name, .text text) = (do
        return (Value.text name, ← (readPrecision name text).mapError (naming (.text name)))) := by
      simp only [numericEntry, textOf_text]
      rfl
    exact hentry.trans (hread text)

/-- Where there are no numeric columns, none are read. -/
theorem numericAt_of_isNothing {v : Value} (h : document.get? key = some v)
    (hnothing : v.isNothing = true) : numericAt document key = .ok [] := by
  have hfilled : filled? document key = none := by rw [filled?_of_get? h, if_pos hnothing]
  rw [numericAt, hfilled, entriesAt, hfilled]
  rfl

/-- A list of numeric columns is read by the texts of its items. -/
theorem numericAt_list {xs : List Value} (h : document.get? key = some (.list xs)) (hne : xs ≠ []) :
    numericAt document key = (do
      let entries ← xs.mapM textOf
      return statedColumns (← orSetting (readNumericColumns entries))) := by
  have hfilled : filled? document key = some (.list xs) := by
    rw [filled?_of_get? h, Value.isNothing, List.isEmpty_eq_false_iff.mpr hne, if_neg Bool.false_ne_true]
  rw [numericAt, hfilled]
  rfl

theorem numericAt_entries {entries : List String} (h : document.get? key = some (.texts entries)) :
    numericAt document key = (orSetting (readNumericColumns entries)).map statedColumns := by
  cases entries with
  | nil => exact numericAt_of_isNothing h rfl
  | cons entry rest =>
    have hlist : document.get? key = some (.list ((entry :: rest).map .text)) := h
    have hne : (entry :: rest).map Value.text ≠ [] := List.cons_ne_nil _ _
    rw [numericAt_list hlist hne, mapM_textOf]
    generalize readNumericColumns = read
    change (orSetting (read (entry :: rest)) >>= fun columns => .ok (statedColumns columns)) = _
    cases read (entry :: rest) <;> rfl

theorem numericAt_mapping {columns : List (String × Option String)}
    (h : document.get? key = some (.record (columns.map fun e => (e.1, .ofOption e.2)))) :
    numericAt document key =
      (orSetting (columns.mapM fun e => return (e.1, ← precisionOf e))).map statedColumns := by
  have hentries : (Value.record (columns.map fun e => (e.1, Value.ofOption e.2))).entriesOf =
      columns.map fun e => (.text e.1, .ofOption e.2) := by
    rw [entriesOf_record, List.map_map]
    rfl
  have hmapM : ∀ columns : List (String × Option String),
      (columns.map fun e => (Value.text e.1, Value.ofOption e.2)).mapM numericEntry =
        (orSetting (columns.mapM fun e => return (e.1, ← precisionOf e))).map statedColumns := by
    intro columns
    induction columns with
    | nil => rfl
    | cons e rest ih =>
      rw [List.map_cons, List.mapM_cons, List.mapM_cons, numericEntry_written, ih]
      cases precisionOf e with
      | error f => rfl
      | ok d =>
        cases rest.mapM fun e => (return (e.1, ← precisionOf e) : Except Fault _) <;> rfl
  cases columns with
  | nil => exact numericAt_of_isNothing h rfl
  | cons e rest =>
    rw [← hmapM, ← hentries, numericAt, entriesAt, filled?_of_get? h]
    rfl

theorem policyAt_written {policy : Option ExtraPolicy}
    (h : document.get? key = policy.map fun p => .text p.name) :
    policyAt document key = .ok policy := by
  rw [policyAt, h]
  cases policy with
  | none => rfl
  | some p =>
    have hread : (do orSetting (readPolicy (← textOf (.text p.name)))) =
        orSetting (.ok (some p)) := by
      rw [textOf_text, ← readPolicy_written p]
      rfl
    exact hread

/-! ## 3. Documents -/

/-- **What a written document states** is what its content asks for. -/
theorem statedIn_written {c : Content} (h : c.IsWritable) (form : Form) :
    statedIn (c.document form) = (orSetting c.settings).map Stated.ofSettings := by
  have hnumeric : numericAt (c.document form) "numeric_columns" =
      (orSetting c.readNumeric).map statedColumns := by
    cases form with
    | entries =>
      rw [← readNumericColumns_written h]
      exact numericAt_entries rfl
    | mapping => exact numericAt_mapping rfl
  have hpolicy : policyAt (c.document form) "extra_policy" = .ok c.extraPolicy := by
    refine policyAt_written ?_
    unfold document
    cases c.extraPolicy <;> rfl
  have hgroups : entriesAt (c.document form) "group_key_fields" = .ok [] := by
    have hnone : (c.document form).get? "group_key_fields" = none := by
      unfold document
      cases c.extraPolicy <;> rfl
    rw [entriesAt, filled?, hnone]
    rfl
  have hmapping : mappingAt (c.document form) "column_mapping" =
      .ok (c.columnMapping.map fun e => (.text e.1, .text e.2)) := mappingAt_texts rfl
  have hlist : ∀ (key : String) (names : List String),
      (c.document form).get? key = some (.texts names) →
      partsAt (c.document form) key = .ok (Stated.ofNames names) := fun _ _ => partsAt_texts
  unfold statedIn
  rw [hnumeric, hpolicy, hgroups, hmapping, hlist "key_columns" c.keyColumns rfl,
    hlist "ignore_columns" c.ignoreColumns rfl, hlist "info_columns" c.infoColumns rfl,
    hlist "service_fields" c.serviceFields rfl, settings]
  cases c.readNumeric <;> rfl

/-! ## 4. Both forms -/

theorem refuseLong_ok_iff (limit : String × Int) :
    refuseLong limit = .ok () ↔ limit.2 < 10 ^ Decimal.maxIntegerDigits := by
  unfold refuseLong
  split
  · rename_i hshort
    exact iff_of_true rfl hshort
  · rename_i hlong
    exact iff_of_false nofun hlong

/-- **The two forms of settings agree.** Whatever a content says, with numeric columns in either form
    its document states the settings that are asked for, or fails as the first precision that is
    none. The parameters give the same settings or the same fault, unless all precisions can be read
    and a limit has more digits than are read of a text. -/
theorem forms_agree {c : Content} (h : c.IsWritable) :
    (∀ form, statedIn (c.document form) = (orSetting c.settings).map Stated.ofSettings ∧
      ofDocument (c.document form) = orSetting c.settings) ∧
    (ofParameters c.parameters = c.settings ↔ (∃ f, c.settings = .error f) ∨
      ∀ limit ∈ limits c.caps, limit.2 < 10 ^ Decimal.maxIntegerDigits) := by
  refine ⟨fun form => ⟨statedIn_written h form, ?_⟩, ?_⟩
  · rw [ofDocument, statedIn_written h form]
    cases c.settings with
    | error f => rfl
    | ok s => exact congrArg Except.ok (Stated.settings_ofSettings s)
  · rw [ofParameters_written h]
    cases hsettings : c.settings with
    | error f => exact iff_of_true rfl (.inl ⟨f, rfl⟩)
    | ok s =>
      have hforM : (limits c.caps).forM refuseLong = .ok () ↔
          ∀ limit ∈ limits c.caps, limit.2 < 10 ^ Decimal.maxIntegerDigits := by
        rw [forM_ok_iff]
        exact forall₂_congr fun limit _ => refuseLong_ok_iff limit
      rw [← hforM]
      show (do (limits c.caps).forM refuseLong; return s) = Except.ok s ↔ _
      cases (limits c.caps).forM refuseLong with
      | error f => exact iff_of_false nofun (by rintro (⟨f, hf⟩ | hf) <;> cases hf)
      | ok _ => exact iff_of_true rfl (.inr rfl)

/-- A limit of one digit has not too many of them. -/
theorem lt_of_one_digit {n : Int} (h : n < 10) : n < 10 ^ Decimal.maxIntegerDigits := by
  have hpos : (0 : Int) < 10 ^ 4299 := Int.pow_pos (by decide)
  have hsucc : (10 : Int) ^ Decimal.maxIntegerDigits = 10 ^ 4299 * 10 := Int.pow_succ 10 4299
  omega

/-- Columns of all kinds, one of them with a precision, a policy and a limit. -/
theorem forms_agree_prices :
    let c : Content :=
      { keyColumns := ["Item", "Unit price"], ignoreColumns := [], infoColumns := ["Note"]
        serviceFields := ["Id"], numericColumns := [("Price", some "0.01"), ("Count", none)]
        columnMapping := [("Price", "Amount=net")], caseSensitive := false, checkDuplicates := true
        extraPolicy := some .info, caps := { failed := 5 } }
    c.IsWritable ∧ ofParameters c.parameters = c.settings ∧
      ∀ form, ofDocument (c.document form) = orSetting c.settings := by
  intro c
  have hwritable : c.IsWritable := {
    names := by decide +kernel
    numeric := by decide +kernel
    numericOnce := by decide
    mapping := by decide +kernel
    mappingOnce := by decide
    limits := by decide }
  have hlimits : ∀ limit ∈ limits c.caps, limit.2 < 10 ^ Decimal.maxIntegerDigits :=
    fun limit hlimit => lt_of_one_digit (List.all_eq_true.mp
      (show (limits c.caps).all (·.2 < 10) = true by decide) limit hlimit |> of_decide_eq_true)
  obtain ⟨hdocument, hparameters⟩ := forms_agree hwritable
  exact ⟨hwritable, hparameters.mpr (.inr hlimits), fun form => (hdocument form).2⟩

/-- **A limit with too many digits is refused in parameters only**: in a document it is a number
    already. -/
theorem long_limit_in_parameters :
    let limit : Int := 10 ^ Decimal.maxIntegerDigits
    let c : Content :=
      { keyColumns := [], ignoreColumns := [], infoColumns := [], serviceFields := []
        numericColumns := [], columnMapping := [], caseSensitive := true, checkDuplicates := false
        extraPolicy := none, caps := { passed := limit } }
    c.IsWritable ∧
      ofParameters c.parameters = .error (.badCap "MaxPassedRowsInReport" (toString limit)) ∧
      ∀ form, ofDocument (c.document form) = .ok { caps := { passed := limit } } := by
  intro limit c
  have hlimit : unlimited ≤ limit :=
    Int.le_trans (by decide) (Int.le_of_lt (Int.pow_pos (by decide)))
  have hrefused : refuseLong ("MaxPassedRowsInReport", limit) =
      .error (.badCap "MaxPassedRowsInReport" (toString limit)) := if_neg (Int.lt_irrefl limit)
  -- from here on the number is any that is refused: its digits are not to be computed
  clear_value limit
  have hwritable : c.IsWritable := {
    names := nofun
    numeric := nofun
    numericOnce := List.nodup_nil
    mapping := nofun
    mappingOnce := List.nodup_nil
    limits := by
      have hunlimited : ∀ other ∈ (limits {}).tail, unlimited ≤ other.2 := by decide
      exact List.forall_mem_cons.mpr ⟨hlimit, hunlimited⟩ }
  refine ⟨hwritable, ?_, fun form => ?_⟩
  · rw [ofParameters_written hwritable]
    show (do (limits c.caps).forM refuseLong; return _) = _
    rw [limits, List.forM_eq_forM, List.forM_cons, hrefused]
    rfl
  · rw [ofDocument, statedIn_written hwritable]
    exact congrArg Except.ok (Stated.settings_ofSettings { caps := { passed := limit } })

end Reconcile.Settings
