import Reconcile.Proofs.Decimal.Value
import Reconcile.Proofs.Settings.WrittenContent

/-!
# Settings that parameters give

Whatever texts the parameters are, either they give settings that comparisons can rely on, or they
are refused with a fault that is found in them.

* `IsSound`: what comparisons rely on;
* `Fault.IsFoundIn`, `Fault.IsOfPrecision`: what is wrong with parameters in which a fault is found,
  and with a single precision;
* `readList_isName`, `readPrecision_gives`, `readMappingEntry_gives`, `readFlag_gives`,
  `readPolicy_gives`, `readCap_gives`: what is read of each kind of parameter, or why nothing is;
* **`ofParameters_gives_sound`**: all parameters.
-/

namespace Reconcile.Settings

open Reconcile.Text Content

/-! ## 1. Sound settings -/

/-- The lists of names. -/
def nameLists (s : Settings) : List (List String) :=
  [s.keyColumns, s.ignoreColumns, s.infoColumns, s.serviceFields]

/-- What comparisons rely on: precisions are not negative, a limit is a count or the one that stands
    for none, names have something in them, no comma and no blanks around, and so the lists of names
    can be written and read back. -/
structure IsSound (s : Settings) : Prop where
  precisions : ∀ e ∈ s.numericColumns, 0 ≤ e.2.toRat
  limits : ∀ limit ∈ limits s.caps, -1 ≤ limit.2
  names : ∀ list ∈ s.nameLists, ∀ name ∈ list, IsName name
  readBack : ∀ list ∈ s.nameLists, readList (joined list) = list
  mapping : ∀ e ∈ s.columnMapping, IsName e.1 ∧ IsName e.2

/-! ## 2. Faults -/

section Faults

variable (parameters : List (String × String))

/-- The items of a parameter that is a list. -/
def itemsUnder (name : String) : List String := readList ((parameters.lookup name).getD "")

/-- An entry gives a text for the precision of a column, behind its first colon. -/
def GivesPrecision (entry column text : String) : Prop :=
  ∃ before after, entry.toList = before ++ ':' :: after ∧ ':' ∉ before ∧
    column.toList = trimChars before ∧ text.toList = trimChars after ∧ text ≠ ""

/-- A text is found under a name, and there is something in it. -/
def IsGiven (name value : String) : Prop := parameters.lookup name = some value ∧ trim value ≠ ""

/-- What is wrong with parameters in which a fault is found. -/
def Fault.IsFoundIn : Fault → Prop
  | .unreadablePrecision column text =>
    (∃ entry ∈ itemsUnder parameters "NumericColumns", GivesPrecision entry column text) ∧
      Decimal.readQuantity text = none
  | .badPrecision column text =>
    (∃ entry ∈ itemsUnder parameters "NumericColumns", GivesPrecision entry column text) ∧
      ∃ q, Decimal.readQuantity text = some q ∧ ∀ d, q = .finite d → d.toRat < 0
  | .badMapping entry => entry ∈ itemsUnder parameters "ColumnMapping" ∧ ('=' ∉ entry.toList ∨
      ∃ before after, entry.toList = before ++ '=' :: after ∧ '=' ∉ before ∧
        (trimChars before = [] ∨ trimChars after = []))
  | .badFlag name value => name ∈ ["CaseSensitive", "CheckDuplicates"] ∧
      IsGiven parameters name value ∧ lower (trim value) ∉ trueWords ++ falseWords
  | .badPolicy value => IsGiven parameters "ExtraPolicy" value ∧
      ∀ p : ExtraPolicy, lower (trim value) ≠ p.name
  | .badCap name value => name ∈ Entries.names (limits {}) ∧ IsGiven parameters name value ∧
      Decimal.readLooseInteger? value = none
  | .capTooSmall name cap => name ∈ Entries.names (limits {}) ∧ cap < -1 ∧
      ∃ value, IsGiven parameters name value ∧ Decimal.readLooseInteger? value = some cap

end Faults

variable {parameters : List (String × String)}

/-! ## 3. Lists and entries -/

/-- **Items of a list are names.** -/
theorem readList_isName {text item : String} (h : item ∈ readList text) : IsName item := by
  rw [readList, List.mem_filter] at h
  obtain ⟨hitem, hsome⟩ := h
  obtain ⟨piece, hpiece, rfl⟩ := List.mem_map.mp hitem
  have hcomma : ',' ∉ trimChars piece := fun hmem =>
    not_mem_of_mem_pieces _ piece hpiece (mem_of_mem_trimChars hmem)
  exact {
    nonempty := of_decide_eq_true hsome
    noComma := by rwa [String.toList_ofList]
    trimmed := by rw [trim, String.toList_ofList, trimChars_trimChars] }

/-- A text is cut at its first separator, when there is one. -/
theorem cutAtFirst_cases (separator : Char) (text : String) :
    separator ∉ text.toList ∧ cutAtFirst separator text = (text, none) ∨
    ∃ before after, text.toList = before ++ separator :: after ∧ separator ∉ before ∧
      cutAtFirst separator text = (String.ofList before, some (String.ofList after)) := by
  by_cases h : separator ∈ text.toList
  · obtain ⟨before, after, htext, hbefore⟩ := List.eq_append_cons_of_mem h
    refine .inr ⟨before, after, htext, hbefore, cutAtFirst_between ?_ ?_⟩
    · rwa [String.toList_ofList]
    · rw [htext, String.toList_ofList, String.toList_ofList, List.append_assoc]
      rfl
  · exact .inl ⟨h, cutAtFirst_of_not_mem h⟩

/-- What stands at the ends of a name and is left of blanks can stand in a list as well. -/
theorem IsName.of_trim {name : String} (h : IsName name) {part : List Char}
    (hpart : ∀ c ∈ part, c ∈ name.toList) (hsome : Text.trimChars part ≠ []) :
    IsName (trim (String.ofList part)) where
  nonempty hempty := by
    rw [trim, String.toList_ofList, String.ofList_eq_empty_iff] at hempty
    exact hsome hempty
  noComma hcomma := by
    rw [trim, String.toList_ofList, String.toList_ofList] at hcomma
    exact h.noComma (hpart ',' (mem_of_mem_trimChars hcomma))
  trimmed := by
    simp only [trim, String.toList_ofList, trimChars_trimChars]

/-- What is wrong with a text for the precision of a column. -/
def Fault.IsOfPrecision (column text : String) : Fault → Prop
  | .unreadablePrecision c t => c = column ∧ t = text ∧ Decimal.readQuantity text = none
  | .badPrecision c t => c = column ∧ t = text ∧
      ∃ q, Decimal.readQuantity text = some q ∧ ∀ d, q = .finite d → d.toRat < 0
  | _ => False

/-- **A precision** is not negative. -/
theorem readPrecision_gives (column text : String) :
    GivesOr (fun d => 0 ≤ d.toRat) (·.IsOfPrecision column text) (readPrecision column text) := by
  unfold readPrecision
  cases hread : Decimal.readQuantity text with
  | none => exact .error ⟨rfl, rfl, hread⟩
  | some q =>
    have hbad : (∀ d, q = .finite d → d.toRat < 0) →
        (Fault.badPrecision column text).IsOfPrecision column text := fun hq =>
      ⟨rfl, rfl, q, hread, hq⟩
    cases q with
    | infinite minus => exact .error (hbad nofun)
    | notANumber => exact .error (hbad nofun)
    | finite d =>
      dsimp only
      split
      · rename_i hnegative
        refine .error (hbad fun d' hd => ?_)
        obtain rfl := Decimal.Quantity.finite.inj hd
        exact (Decimal.toRat_lt_zero_iff d).mpr hnegative
      · rename_i hnegative
        rw [← Decimal.toRat_lt_zero_iff, not_lt] at hnegative
        exact .ok hnegative

/-- **A numeric column** has a precision that is not negative. -/
theorem readNumericColumn_gives {entry : String}
    (hentry : entry ∈ itemsUnder parameters "NumericColumns") :
    GivesOr (fun e => 0 ≤ e.2.toRat) (·.IsFoundIn parameters) (readNumericColumn entry) := by
  have hzero : 0 ≤ Decimal.zero.toRat := le_of_eq ((Decimal.toRat_eq_zero_iff _).mpr rfl).symm
  unfold readNumericColumn
  rcases cutAtFirst_cases ':' entry with ⟨_, hcut⟩ | ⟨before, after, hparts, hbefore, hcut⟩
  · rw [hcut]
    exact .ok hzero
  · rw [hcut]
    dsimp only
    rw [Option.getD_some]
    split
    · exact .ok hzero
    · rename_i hsome
      have hgives : GivesPrecision entry (trim (String.ofList before)) (trim (String.ofList after)) :=
        ⟨before, after, hparts, hbefore, by simp [trim], by simp [trim],
          mt String.isEmpty_iff.mpr hsome⟩
      have hfound : ∀ f : Fault, f.IsOfPrecision (trim (String.ofList before))
          (trim (String.ofList after)) → f.IsFoundIn parameters := by
        intro f hf
        cases f with
        | unreadablePrecision c t =>
          obtain ⟨rfl, rfl, hnone⟩ := hf
          exact ⟨⟨entry, hentry, hgives⟩, hnone⟩
        | badPrecision c t =>
          obtain ⟨rfl, rfl, hbad⟩ := hf
          exact ⟨⟨entry, hentry, hgives⟩, hbad⟩
        | _ => exact hf.elim
      exact ((readPrecision_gives _ _).imp (fun _ => id) hfound).bind fun d hd => .ok hd

/-- **An entry of a column mapping** maps a name to a name. -/
theorem readMappingEntry_gives {entry : String}
    (hentry : entry ∈ itemsUnder parameters "ColumnMapping") :
    GivesOr (fun e => IsName e.1 ∧ IsName e.2) (·.IsFoundIn parameters)
      (readMappingEntry entry) := by
  have hname : IsName entry := readList_isName hentry
  unfold readMappingEntry
  rcases cutAtFirst_cases '=' entry with ⟨hnone, hcut⟩ | ⟨before, after, hparts, hbefore, hcut⟩
  · rw [hcut]
    exact .error ⟨hentry, .inl hnone⟩
  · have hempty : ∀ part, (trim (String.ofList part)).isEmpty = true ↔ trimChars part = [] := by
      intro part
      rw [String.isEmpty_iff, trim, String.toList_ofList, String.ofList_eq_empty_iff]
    rw [hcut]
    dsimp only
    split
    · rename_i hblank
      rw [Bool.or_eq_true, hempty, hempty] at hblank
      exact .error ⟨hentry, .inr ⟨before, after, hparts, hbefore, hblank⟩⟩
    · rename_i hsome
      rw [Bool.or_eq_true, hempty, hempty, not_or] at hsome
      have hfront : ∀ c ∈ before, c ∈ entry.toList := fun c hc => by simp [hparts, hc]
      have hback : ∀ c ∈ after, c ∈ entry.toList := fun c hc => by simp [hparts, hc]
      exact .ok ⟨hname.of_trim hfront hsome.1, hname.of_trim hback hsome.2⟩

/-! ## 4. Flags, policies and limits -/

/-- A parameter that is blank is empty when its blanks are removed. -/
theorem isGiven_of_lookup {name value : String} (h : parameters.lookup name = some value)
    (hsome : ¬(trim value).isEmpty = true) : IsGiven parameters name value :=
  ⟨h, mt String.isEmpty_iff.mpr hsome⟩

/-- **A flag** is a truth value, or a text that is none. -/
theorem readFlag_gives {name : String} (default : Bool)
    (hname : name ∈ ["CaseSensitive", "CheckDuplicates"]) :
    GivesOr (fun _ => True) (·.IsFoundIn parameters)
      (readFlag name default (parameters.lookup name)) := by
  cases hvalue : parameters.lookup name with
  | none => exact .ok trivial
  | some value =>
    rw [readFlag]
    split
    · exact .ok trivial
    · rename_i hsome
      split
      · exact .ok trivial
      · rename_i htrue
        split
        · exact .ok trivial
        · rename_i hfalse
          refine .error ⟨hname, ⟨hvalue, ?_⟩, ?_⟩
          · rintro hblank
            rw [hblank] at hsome
            exact hsome rfl
          · rw [List.contains_iff_mem] at htrue hfalse
            exact List.not_mem_append htrue hfalse

/-- **A policy** is one that there is, or a text that is none. -/
theorem readPolicy_gives :
    GivesOr (fun _ => True) (·.IsFoundIn parameters)
      (readPolicy ((parameters.lookup "ExtraPolicy").getD "")) := by
  cases hvalue : parameters.lookup "ExtraPolicy" with
  | none => exact .ok trivial
  | some value =>
    rw [Option.getD_some, readPolicy]
    split
    · exact .ok trivial
    · rename_i hsome
      cases hpolicy : ExtraPolicy.ofName? (lower (trim value)) with
      | some p => exact .ok trivial
      | none =>
        refine .error ⟨isGiven_of_lookup hvalue hsome, fun p hp => ?_⟩
        have hall : p ∈ ExtraPolicy.all := by cases p <;> decide
        have hnot := List.find?_eq_none.mp hpolicy p hall
        rw [hp, beq_self_eq_true] at hnot
        exact hnot rfl

/-- **A limit** is -1 or a count, or a text that is none of these. -/
theorem readCap_gives {name : String} (hname : name ∈ Entries.names (limits {})) :
    GivesOr (fun n => -1 ≤ n) (·.IsFoundIn parameters)
      (readCap name (parameters.lookup name)) := by
  have hunlimited : unlimited = -1 := rfl
  cases hvalue : parameters.lookup name with
  | none => exact .ok (by omega)
  | some value =>
    rw [readCap]
    split
    · exact .ok (by omega)
    · rename_i hsome
      have hgiven := isGiven_of_lookup hvalue hsome
      cases hread : Decimal.readLooseInteger? value with
      | none => exact .error ⟨hname, hgiven, hread⟩
      | some n =>
        dsimp only
        split
        · exact .error ⟨hname, by omega, value, hgiven, hread⟩
        · exact .ok (by omega)

/-! ## 5. All parameters -/

theorem readNumericColumns_gives :
    GivesOr (fun columns => ∀ e ∈ columns, 0 ≤ e.2.toRat) (·.IsFoundIn parameters)
      (readNumericColumns (itemsUnder parameters "NumericColumns")) :=
  (GivesOr.mapM fun _ hentry => readNumericColumn_gives hentry).bind fun _ hcolumns =>
    .ok fun e he => hcolumns e (Entries.mem_of_mem_ofList he)

theorem readMapping_gives :
    GivesOr (fun mapping => ∀ e ∈ mapping, IsName e.1 ∧ IsName e.2) (·.IsFoundIn parameters)
      (readMapping ((parameters.lookup "ColumnMapping").getD "")) :=
  (GivesOr.mapM fun _ hentry => readMappingEntry_gives hentry).bind fun _ hmapping =>
    .ok fun e he => hmapping e (Entries.mem_of_mem_ofList he)

/-- **Parameters give sound settings or are refused.** Whatever texts stand under whatever names,
    what is read of them is settings that comparisons can rely on, or a fault that is found in the
    parameters. -/
theorem ofParameters_gives_sound (parameters : List (String × String)) :
    (∃ s, ofParameters parameters = .ok s ∧ s.IsSound) ∨
      ∃ f, ofParameters parameters = .error f ∧ f.IsFoundIn parameters := by
  refine GivesOr.inv ?_
  unfold ofParameters
  refine readNumericColumns_gives.bind fun numericColumns hnumeric => ?_
  refine readMapping_gives.bind fun columnMapping hmapping => ?_
  refine (readFlag_gives true (by decide)).bind fun caseSensitive _ => ?_
  refine (readFlag_gives false (by decide)).bind fun checkDuplicates _ => ?_
  refine readPolicy_gives.bind fun extraPolicy _ => ?_
  refine (readCap_gives (by decide)).bind fun passed hpassed => ?_
  refine (readCap_gives (by decide)).bind fun failed hfailed => ?_
  refine (readCap_gives (by decide)).bind fun notFound hnotFound => ?_
  refine (readCap_gives (by decide)).bind fun extra hextra => .ok ?_
  have hnames : ∀ key, ∀ name ∈ itemsUnder parameters key, IsName name :=
    fun _ _ hname => readList_isName hname
  have hlists : ∀ list ∈ [itemsUnder parameters "KeyColumns", itemsUnder parameters "IgnoreColumns",
      itemsUnder parameters "InfoColumns", itemsUnder parameters "ServiceFields"],
      ∀ name ∈ list, IsName name := by
    simp only [List.forall_mem_cons]
    exact ⟨hnames _, hnames _, hnames _, hnames _, nofun⟩
  exact {
    precisions := hnumeric
    limits := by simp [limits, *]
    names := hlists
    readBack := fun list hlist => readList_joined (hlists list hlist)
    mapping := hmapping }

end Reconcile.Settings
