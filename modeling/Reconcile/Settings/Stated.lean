import Reconcile.Decimal.Rounding
import Reconcile.Document.Value
import Reconcile.Settings.Basic

/-!
# Stated settings

Settings as a document states them, before they are taken for names, flags and limits: a document
that no schema was asked about may state any values. Whoever compares uses `settings`; whoever
shows the settings shows the values. What `ofSettings` states is taken for the same settings again
(`settings_ofSettings`).
-/

namespace Reconcile.Settings

open Reconcile.Document

/-- Settings as a document states them. -/
structure Stated where
  keyColumns : List Value := []
  numericColumns : List (Value × Decimal) := []
  columnMapping : List (Value × Value) := []
  ignoreColumns : List Value := []
  infoColumns : List Value := []
  caseSensitive : Value := .bool true
  checkDuplicates : Value := .bool false
  extraPolicy : Option ExtraPolicy := none
  groupKeyFields : List (Value × List Value) := []
  serviceFields : List Value := []
  passed : Value := .int unlimited
  failed : Value := .int unlimited
  notFound : Value := .int unlimited
  extra : Value := .int unlimited

namespace Stated

/-! ## 1. What the values are taken for -/

/-- Values as names. -/
def namesOf (vs : List Value) : List String := vs.map Value.plain

/-- A number as a limit of rows: another than the unlimited one keeps as many rows as there are
    counts below it. -/
def limitOf (d : Decimal) : Int :=
  if d.same (Decimal.ofInt unlimited) then unlimited
  else if d.negative then 0
  else
    let down := (d.scaledTo (min d.exponent 0)) / Nat.pow 10 (min d.exponent 0).natAbs
    if (Decimal.ofInt down).same d then down else down + 1

/-- A value as a limit of rows. -/
def capOf : Value → Int
  | .int n => n
  | v => match v, v.number? with
    | _, some d => limitOf d
    | .float x, none => if x.isNaN || x < 0 then 0 else unlimited
    | _, none => unlimited

/-- The limits of rows. -/
def caps (s : Stated) : Caps :=
  ⟨capOf s.passed, capOf s.failed, capOf s.notFound, capOf s.extra⟩

/-- The settings that are stated. -/
def settings (s : Stated) : Settings where
  keyColumns := namesOf s.keyColumns
  numericColumns := s.numericColumns.map fun e => (e.1.plain, e.2)
  columnMapping := s.columnMapping.map fun e => (e.1.plain, e.2.plain)
  ignoreColumns := namesOf s.ignoreColumns
  infoColumns := namesOf s.infoColumns
  caseSensitive := !s.caseSensitive.isNothing
  checkDuplicates := !s.checkDuplicates.isNothing
  extraPolicy := s.extraPolicy
  groupKeyFields := s.groupKeyFields.map fun e => (e.1.plain, namesOf e.2)
  serviceFields := namesOf s.serviceFields
  caps := s.caps

/-! ## 2. Stating settings -/

/-- Names as values. -/
def ofNames (names : List String) : List Value := names.map .text

/-- Settings as a document would state them. -/
def ofSettings (s : Settings) : Stated where
  keyColumns := ofNames s.keyColumns
  numericColumns := s.numericColumns.map fun e => (.text e.1, e.2)
  columnMapping := s.columnMapping.map fun e => (.text e.1, .text e.2)
  ignoreColumns := ofNames s.ignoreColumns
  infoColumns := ofNames s.infoColumns
  caseSensitive := .bool s.caseSensitive
  checkDuplicates := .bool s.checkDuplicates
  extraPolicy := s.extraPolicy
  groupKeyFields := s.groupKeyFields.map fun e => (.text e.1, ofNames e.2)
  serviceFields := ofNames s.serviceFields
  passed := .int s.caps.passed
  failed := .int s.caps.failed
  notFound := .int s.caps.notFound
  extra := .int s.caps.extra

@[simp]
theorem namesOf_ofNames (names : List String) : namesOf (ofNames names) = names := by
  simp [namesOf, ofNames, Function.comp_def, Value.plain]

/-- Nothing is lost when settings are stated. -/
@[simp]
theorem settings_ofSettings (s : Settings) : (ofSettings s).settings = s := by
  cases s
  simp [settings, ofSettings, caps, capOf, Value.isNothing, Value.plain, Function.comp_def]

/-! ## 3. Questions -/

/-- Whether rows are paired by key. -/
def isKeyed (s : Stated) : Bool := !s.keyColumns.isEmpty

/-- The value under a column. -/
def under {α : Type} (column : String) (entries : List (Value × α)) : Option α :=
  (entries.find? fun e => e.1 == .text column).map (·.2)

/-- What an expected column is called on the actual side. -/
def actualColumn (s : Stated) (column : String) : Value :=
  (under column s.columnMapping).getD (.text column)

/-- The precision of a numeric column. -/
def precision? (s : Stated) (column : String) : Option Decimal := under column s.numericColumns

/-- Whether all values are the ones that are meant when nothing is stated. -/
def isDefault (s : Stated) : Bool :=
  let d : Stated := {}
  s.keyColumns.isEmpty && s.numericColumns.isEmpty && s.columnMapping.isEmpty &&
    s.ignoreColumns.isEmpty && s.infoColumns.isEmpty && s.groupKeyFields.isEmpty &&
    s.serviceFields.isEmpty && s.extraPolicy.isNone && s.caseSensitive == d.caseSensitive &&
    s.checkDuplicates == d.checkDuplicates && s.passed == d.passed && s.failed == d.failed &&
    s.notFound == d.notFound && s.extra == d.extra

end Stated

end Reconcile.Settings
