import Mathlib.Algebra.Group.Int.Defs
import Reconcile.Proofs.Decimal.WrittenIntegers
import Reconcile.Proofs.Text.Pieces
import Reconcile.Proofs.Traversal
import Reconcile.Settings.Parameters

/-!
# Settings written as parameters

What settings say, apart from how they are written, and how it is written as parameters: lists are
joined by commas, a precision stands behind a colon, a mapped name behind an equals sign. Such
parameters are read back entry by entry; only a limit of rows with too many digits is refused.

* `Content`, `IsWritable`, `settings`: the content of settings, when it can be written, and the
  settings that it asks for;
* `parameters`: the content as parameters;
* `readList_joined`, `readNumericColumn_written`, `readMappingEntry_written`, `readCap_written`: what
  is read back of a list, of an entry and of a limit;
* **`ofParameters_written`**: what is read back of the parameters.
-/

namespace Reconcile.Settings

open Reconcile.Text

/-! ## 1. Contents -/

/-- What settings say of tables: their columns, some of them with a precision as it is written, two
    flags, a policy if there is one, and the limits of rows. -/
structure Content where
  keyColumns : List String
  ignoreColumns : List String
  infoColumns : List String
  serviceFields : List String
  numericColumns : List (String × Option String)
  columnMapping : List (String × String)
  caseSensitive : Bool
  checkDuplicates : Bool
  extraPolicy : Option ExtraPolicy
  caps : Caps

/-- A name that can stand in a list: there is something in it, but no comma, and no blanks around. -/
structure IsName (name : String) : Prop where
  nonempty : name ≠ ""
  noComma : ',' ∉ name.toList
  trimmed : trim name = name

instance (name : String) : Decidable (IsName name) :=
  decidable_of_iff (name ≠ "" ∧ ',' ∉ name.toList ∧ trim name = name)
    ⟨fun h => ⟨h.1, h.2.1, h.2.2⟩, fun h => ⟨h.nonempty, h.noComma, h.trimmed⟩⟩

/-- The names of the parameters for the limits, with these. -/
def limits (caps : Caps) : List (String × Int) :=
  [("MaxPassedRowsInReport", caps.passed), ("MaxFailedRowsInReport", caps.failed),
    ("MaxNotFoundRowsInReport", caps.notFound), ("MaxExtraRowsInReport", caps.extra)]

namespace Content

/-- Contents that can be written: numeric columns and mapped columns come once each and do not hold
    the character that ends them. -/
structure IsWritable (c : Content) : Prop where
  names : ∀ name ∈ c.keyColumns ++ c.ignoreColumns ++ c.infoColumns ++ c.serviceFields, IsName name
  numeric : ∀ e ∈ c.numericColumns, IsName e.1 ∧ ':' ∉ e.1.toList ∧ ∀ text ∈ e.2, IsName text
  numericOnce : (Entries.names c.numericColumns).Nodup
  mapping : ∀ e ∈ c.columnMapping, IsName e.1 ∧ '=' ∉ e.1.toList ∧ IsName e.2
  mappingOnce : (Entries.names c.columnMapping).Nodup
  limits : ∀ limit ∈ limits c.caps, unlimited ≤ limit.2

/-- The precision of a numeric column, which is zero when none is written. -/
def precisionOf (e : String × Option String) : Except Fault Decimal :=
  match e.2 with
  | none => .ok Decimal.zero
  | some text => readPrecision e.1 text

/-- The numeric columns with their precisions. -/
def readNumeric (c : Content) : Except Fault (List (String × Decimal)) :=
  c.numericColumns.mapM fun e => return (e.1, ← precisionOf e)

/-- The settings that a content asks for, unless a precision is none. -/
def settings (c : Content) : Except Fault Settings := do
  let numericColumns ← c.readNumeric
  return {
    keyColumns := c.keyColumns, numericColumns, columnMapping := c.columnMapping
    ignoreColumns := c.ignoreColumns, infoColumns := c.infoColumns
    caseSensitive := c.caseSensitive, checkDuplicates := c.checkDuplicates
    extraPolicy := c.extraPolicy, serviceFields := c.serviceFields, caps := c.caps }

/-! ## 2. Parameters -/

/-- A numeric column with its precision, if it has one. -/
def numericText (e : String × Option String) : String :=
  match e.2 with
  | none => e.1
  | some text => e.1 ++ ":" ++ text

/-- An entry of a column mapping. -/
def mappingText (e : String × String) : String := e.1 ++ "=" ++ e.2

/-- The items of a list with commas between them. -/
def joined (items : List String) : String := ",".intercalate items

def flagText (b : Bool) : String := if b then "true" else "false"

/-- The content as parameters. -/
def parameters (c : Content) : List (String × String) :=
  [("KeyColumns", joined c.keyColumns),
    ("NumericColumns", joined (c.numericColumns.map numericText)),
    ("ColumnMapping", joined (c.columnMapping.map mappingText)),
    ("IgnoreColumns", joined c.ignoreColumns), ("InfoColumns", joined c.infoColumns),
    ("CaseSensitive", flagText c.caseSensitive), ("CheckDuplicates", flagText c.checkDuplicates),
    ("ServiceFields", joined c.serviceFields)] ++
    (limits c.caps).map (fun limit => (limit.1, toString limit.2)) ++
    (c.extraPolicy.map fun p => ("ExtraPolicy", p.name)).toList

end Content

open Content

/-! ## 3. Lists and entries -/

theorem IsName.toList_ne_nil {name : String} (h : IsName name) : name.toList ≠ [] :=
  mt String.toList_eq_nil_iff.mp h.nonempty

theorem IsName.trimChars {name : String} (h : IsName name) : trimChars name.toList = name.toList := by
  have htrimmed := congrArg String.toList h.trimmed
  rwa [trim, String.toList_ofList] at htrimmed

/-- Two names with another character than a comma between them can stand in a list. -/
theorem IsName.between {name name' text : String} {separator : Char} (h : IsName name)
    (h' : IsName name') (hcomma : separator ≠ ',')
    (htext : text.toList = name.toList ++ [separator] ++ name'.toList) : IsName text where
  nonempty hempty := by
    rw [hempty] at htext
    simp at htext
  noComma := by
    rw [htext]
    simp [h.noComma, h'.noComma, hcomma.symm]
  trimmed := by
    rw [trim, htext, trimChars_append_self h.toList_ne_nil h'.toList_ne_nil h.trimChars h'.trimChars,
      ← htext, String.ofList_toList]

/-- **The items of a list are read back.** -/
theorem readList_joined {items : List String} (h : ∀ item ∈ items, IsName item) :
    readList (joined items) = items := by
  by_cases hnone : items = []
  · subst hnone
    decide
  · have hpieces : pieces ',' (joined items).toList = items.map String.toList := by
      have hcommas : ∀ x ∈ items.map String.toList, ',' ∉ x := by
        intro x hx
        obtain ⟨item, hitem, rfl⟩ := List.mem_map.mp hx
        exact (h item hitem).noComma
      rw [joined, String.toList_intercalate]
      exact pieces_intercalate (mt List.map_eq_nil_iff.mp hnone) hcommas
    have htrimmed : (items.map String.toList).map (fun item => String.ofList (trimChars item)) =
        items := by
      rw [List.map_map]
      exact (List.map_congr_left fun item hitem => (h item hitem).trimmed).trans (List.map_id items)
    rw [readList, hpieces, htrimmed, List.filter_eq_self]
    exact fun item hitem => decide_eq_true (h item hitem).nonempty

theorem cutAtFirst_of_not_mem {separator : Char} {text : String} (h : separator ∉ text.toList) :
    cutAtFirst separator text = (text, none) := by
  rw [cutAtFirst, List.dropWhile_eq_nil_iff.mpr (bne_of_not_mem h)]

/-- What stands before and behind a separator is read apart. -/
theorem cutAtFirst_between {separator : Char} {before after text : String}
    (h : separator ∉ before.toList)
    (htext : text.toList = before.toList ++ [separator] ++ after.toList) :
    cutAtFirst separator text = (before, some after) := by
  rw [List.append_assoc, List.singleton_append] at htext
  unfold cutAtFirst
  rw [htext]
  dsimp only
  rw [dropWhile_of_not_mem h, takeWhile_of_not_mem h, String.ofList_toList]
  dsimp only
  rw [String.ofList_toList]

theorem toList_numericText (name text : String) :
    (numericText (name, some text)).toList = name.toList ++ [':'] ++ text.toList := by
  rw [numericText, String.toList_append, String.toList_append]
  rfl

theorem toList_mappingText (e : String × String) :
    (mappingText e).toList = e.1.toList ++ ['='] ++ e.2.toList := by
  rw [mappingText, String.toList_append, String.toList_append]
  rfl

/-- **A numeric column is read back** with its precision. -/
theorem readNumericColumn_written {e : String × Option String} (hname : IsName e.1)
    (hcolon : ':' ∉ e.1.toList) (hprecision : ∀ text ∈ e.2, IsName text) :
    IsName (numericText e) ∧
      readNumericColumn (numericText e) = return (e.1, ← precisionOf e) := by
  obtain ⟨name, precision⟩ := e
  cases precision with
  | none =>
    refine ⟨hname, ?_⟩
    unfold readNumericColumn
    rw [numericText, cutAtFirst_of_not_mem hcolon]
    dsimp only
    rw [hname.trimmed]
    rfl
  | some text =>
    have htext := hprecision text rfl
    refine ⟨hname.between htext (by decide) (toList_numericText name text), ?_⟩
    have hsome : text.isEmpty = false := String.isEmpty_eq_false_iff.mpr htext.nonempty
    unfold readNumericColumn
    rw [cutAtFirst_between hcolon (toList_numericText name text)]
    dsimp only
    rw [hname.trimmed, Option.getD_some, htext.trimmed, hsome]
    rfl

/-- **An entry of a column mapping is read back.** -/
theorem readMappingEntry_written {e : String × String} (hname : IsName e.1)
    (hequals : '=' ∉ e.1.toList) (hactual : IsName e.2) :
    IsName (mappingText e) ∧ readMappingEntry (mappingText e) = .ok e := by
  refine ⟨hname.between hactual (by decide) (toList_mappingText e), ?_⟩
  have hsome : ∀ {text : String}, IsName text → text.isEmpty = false := fun htext =>
    String.isEmpty_eq_false_iff.mpr htext.nonempty
  unfold readMappingEntry
  rw [cutAtFirst_between hequals (toList_mappingText e)]
  dsimp only
  rw [hname.trimmed, hactual.trimmed, hsome hname, hsome hactual]
  rfl

/-! ## 4. Limits -/

/-- A limit with too many digits is refused. -/
def refuseLong (limit : String × Int) : Except Fault Unit :=
  if limit.2 < 10 ^ Decimal.maxIntegerDigits then .ok ()
  else .error (.badCap limit.1 (toString limit.2))

/-- **A limit is read back**, unless it has too many digits. -/
theorem readCap_written {limit : String × Int} (h : unlimited ≤ limit.2) :
    readCap limit.1 (some (toString limit.2)) = (do refuseLong limit; return limit.2) := by
  obtain ⟨name, cap⟩ := limit
  cases cap with
  | ofNat n =>
    obtain ⟨htrim, hsome⟩ := Decimal.trim_toString n
    have htext : toString (Int.ofNat n) = toString n := rfl
    have hempty : (toString n).isEmpty = false := String.isEmpty_eq_false_iff.mpr hsome
    have hcap : ¬ (n : Int) < unlimited := by
      have hunlimited : unlimited = -1 := rfl
      omega
    have hlong : Int.ofNat n < 10 ^ Decimal.maxIntegerDigits ↔ n < 10 ^ Decimal.maxIntegerDigits := by
      rw [Int.ofNat_eq_natCast]
      exact_mod_cast Iff.rfl
    rw [readCap, htext, htrim, hempty, if_neg Bool.false_ne_true,
      Decimal.readLooseInteger?_toString, refuseLong]
    simp only [hlong, htext]
    by_cases hn : n < 10 ^ Decimal.maxIntegerDigits
    · rw [if_pos hn, if_pos hn]
      exact if_neg hcap
    · rw [if_neg hn, if_neg hn]
      rfl
  | negSucc n =>
    have hunlimited : unlimited = -1 := rfl
    obtain rfl : n = 0 := by
      simp only [hunlimited] at h
      omega
    have hread : Decimal.readLooseInteger? (toString (Int.negSucc 0)) = some unlimited := by decide
    have hempty : (trim (toString (Int.negSucc 0))).isEmpty = false := by decide
    have hlong : Int.negSucc 0 < 10 ^ Decimal.maxIntegerDigits :=
      Int.lt_trans (Int.negSucc_lt_zero 0) (Int.pow_pos (by decide))
    rw [readCap, hempty, if_neg Bool.false_ne_true, hread, refuseLong, if_pos hlong]
    rfl

/-! ## 5. All parameters -/

theorem readFlag_written (name : String) (default b : Bool) :
    readFlag name default (some (flagText b)) = .ok b := by
  cases b <;> rfl

theorem readPolicy_written (p : ExtraPolicy) : readPolicy p.name = .ok (some p) := by
  cases p <;> rfl

namespace Content

variable {c : Content}

/-- Precisions change no names. -/
theorem names_readNumeric {columns : List (String × Decimal)} (h : c.readNumeric = .ok columns) :
    Entries.names columns = Entries.names c.numericColumns := by
  have hnames : ∀ (e : String × Option String) (column : String × Decimal),
      (return (e.1, ← precisionOf e) : Except Fault _) = .ok column → e.1 = column.1 := by
    intro e column hcolumn
    obtain ⟨d, _, hcolumn⟩ := bind_ok_iff.mp hcolumn
    exact congrArg Prod.fst (Except.ok.inj hcolumn)
  exact (map_eq_of_forall₂ hnames (mapM_eq_ok_iff.mp h)).symm

/-- **Numeric columns are read back**, each of them with its precision or the fault in it. -/
theorem readNumericColumns_written (h : c.IsWritable) :
    readNumericColumns (c.numericColumns.map numericText) = c.readNumeric := by
  have hentries : (c.numericColumns.map numericText).mapM readNumericColumn = c.readNumeric := by
    rw [List.mapM_map, readNumeric]
    refine mapM_congr_of_forall₂ (List.forall₂_same.mpr fun e he => ?_)
    rw [Function.comp_apply]
    obtain ⟨hname, hcolon, hprecision⟩ := h.numeric e he
    exact (readNumericColumn_written hname hcolon hprecision).2
  rw [readNumericColumns, hentries]
  cases hcolumns : c.readNumeric with
  | error f => rfl
  | ok columns =>
    have honce : (Entries.names columns).Nodup := by
      rw [names_readNumeric hcolumns]
      exact h.numericOnce
    exact congrArg Except.ok (Entries.ofList_of_nodup honce)

/-- **The column mapping is read back.** -/
theorem readMapping_written (h : c.IsWritable) :
    readMapping (joined (c.columnMapping.map mappingText)) = .ok c.columnMapping := by
  have hlist : ∀ text ∈ c.columnMapping.map mappingText, IsName text := by
    intro text htext
    obtain ⟨e, he, rfl⟩ := List.mem_map.mp htext
    obtain ⟨hname, hequals, hactual⟩ := h.mapping e he
    exact (readMappingEntry_written hname hequals hactual).1
  have hentries : (c.columnMapping.map mappingText).mapM readMappingEntry = .ok c.columnMapping := by
    rw [mapM_eq_ok_iff, List.forall₂_map_left_iff, List.forall₂_same]
    intro e he
    obtain ⟨hname, hequals, hactual⟩ := h.mapping e he
    exact (readMappingEntry_written hname hequals hactual).2
  rw [readMapping, readList_joined hlist, hentries]
  exact congrArg Except.ok (Entries.ofList_of_nodup h.mappingOnce)

theorem readLists_written (h : c.IsWritable) :
    readList (joined c.keyColumns) = c.keyColumns ∧
    readList (joined c.ignoreColumns) = c.ignoreColumns ∧
    readList (joined c.infoColumns) = c.infoColumns ∧
    readList (joined c.serviceFields) = c.serviceFields ∧
    readList (joined (c.numericColumns.map numericText)) = c.numericColumns.map numericText := by
  have hnames := h.names
  simp only [List.forall_mem_append] at hnames
  obtain ⟨⟨⟨hkeys, hignore⟩, hinfo⟩, hservice⟩ := hnames
  refine ⟨readList_joined hkeys, readList_joined hignore, readList_joined hinfo,
    readList_joined hservice, readList_joined fun text htext => ?_⟩
  obtain ⟨e, he, rfl⟩ := List.mem_map.mp htext
  obtain ⟨hname, hcolon, hprecision⟩ := h.numeric e he
  exact (readNumericColumn_written hname hcolon hprecision).1

theorem readPolicy_lookup (c : Content) :
    readPolicy ((c.parameters.lookup "ExtraPolicy").getD "") = .ok c.extraPolicy := by
  have hlookup : c.parameters.lookup "ExtraPolicy" = c.extraPolicy.map ExtraPolicy.name := by
    unfold parameters
    cases c.extraPolicy <;> rfl
  rw [hlookup]
  cases c.extraPolicy with
  | none => rfl
  | some p => exact readPolicy_written p

/-- **What is read back of the parameters** is what the content asks for, unless a limit has too
    many digits: then the first such limit is refused, when nothing else is wrong. -/
theorem ofParameters_written (h : c.IsWritable) : ofParameters c.parameters = (do
    let s ← c.settings
    (limits c.caps).forM refuseLong
    return s) := by
  obtain ⟨hkeys, hignore, hinfo, hservice, hnumeric⟩ := readLists_written h
  have hcap : ∀ limit ∈ limits c.caps, readCap limit.1 (c.parameters.lookup limit.1) =
      (do refuseLong limit; return limit.2) := by
    intro limit hlimit
    have hlookup : c.parameters.lookup limit.1 = some (toString limit.2) := by
      simp only [limits, List.mem_cons, List.not_mem_nil, or_false] at hlimit
      rcases hlimit with rfl | rfl | rfl | rfl <;> rfl
    rw [hlookup]
    exact readCap_written (h.limits limit hlimit)
  simp only [limits, List.forall_mem_cons] at hcap
  obtain ⟨hpassed, hfailed, hnotFound, hextra, _⟩ := hcap
  have hread : ofParameters c.parameters = (do
      let numericColumns ← readNumericColumns (readList (joined (c.numericColumns.map numericText)))
      let columnMapping ← readMapping (joined (c.columnMapping.map mappingText))
      let caseSensitive ← readFlag "CaseSensitive" true (some (flagText c.caseSensitive))
      let checkDuplicates ← readFlag "CheckDuplicates" false (some (flagText c.checkDuplicates))
      let extraPolicy ← readPolicy ((c.parameters.lookup "ExtraPolicy").getD "")
      let passed ← readCap "MaxPassedRowsInReport" (c.parameters.lookup "MaxPassedRowsInReport")
      let failed ← readCap "MaxFailedRowsInReport" (c.parameters.lookup "MaxFailedRowsInReport")
      let notFound ← readCap "MaxNotFoundRowsInReport" (c.parameters.lookup "MaxNotFoundRowsInReport")
      let extra ← readCap "MaxExtraRowsInReport" (c.parameters.lookup "MaxExtraRowsInReport")
      return {
        keyColumns := readList (joined c.keyColumns), numericColumns, columnMapping
        ignoreColumns := readList (joined c.ignoreColumns), infoColumns := readList (joined c.infoColumns)
        caseSensitive, checkDuplicates, extraPolicy, serviceFields := readList (joined c.serviceFields)
        caps := { passed, failed, notFound, extra } }) := rfl
  rw [hread, hkeys, hignore, hinfo, hservice, hnumeric, readNumericColumns_written h,
    readMapping_written h, readFlag_written, readFlag_written, readPolicy_lookup, hpassed, hfailed,
    hnotFound, hextra, settings]
  cases c.readNumeric with
  | error f => rfl
  | ok columns =>
    -- the limits are the last to be read, and each of them ends the reading or changes nothing
    simp only [limits, List.forM_eq_forM, List.forM_cons, List.forM_nil]
    generalize refuseLong ("MaxPassedRowsInReport", c.caps.passed) = passed
    generalize refuseLong ("MaxFailedRowsInReport", c.caps.failed) = failed
    generalize refuseLong ("MaxNotFoundRowsInReport", c.caps.notFound) = notFound
    generalize refuseLong ("MaxExtraRowsInReport", c.caps.extra) = extra
    rcases passed with _ | _ <;> try rfl
    rcases failed with _ | _ <;> try rfl
    rcases notFound with _ | _ <;> try rfl
    rcases extra with _ | _ <;> rfl

end Content

end Reconcile.Settings
