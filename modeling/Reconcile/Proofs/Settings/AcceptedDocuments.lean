import Reconcile.Proofs.Schema.Rules
import Reconcile.Proofs.Settings.DocumentShapes
import Reconcile.Settings.BuiltInLibrary

/-!
# Documents that are accepted

The built-in library makes rules of the schema of settings files. A document is found to be in order
under these rules exactly when it is a document of settings, and so the library keeps what it owes.

* `nameSchema`, `listSchema`, `schema` and others, `ofDocument_schemaDocument`: the rules that the
  schema of settings files comes to;
* `Place`, `HasOrderedKeys`, `ordered_of_place`: where failures in a value can be, and that these
  places have an order when the keys of the value do;
* `nameSchema_reports` and its like: what is found in a part of the document;
* **`schema_reports`**: what is found in a document;
* **`builtIn_checksSettings`**, `builtIn_readsText`: what the built-in library keeps.
-/

namespace Reconcile.Settings

open Reconcile.Document Reconcile.Schema

/-! ## 1. Rules -/

def textSchema : Schema := .all [.kinds [.string]]

def nameSchema : Schema := .all [.kinds [.string], .atLeast .characters 1]

def flagSchema : Schema := .all [.kinds [.boolean]]

def listSchema (item : Schema) : Schema := .all [.kinds [.array], .items 0 item]

def mappingSchema (value : Schema) : Schema :=
  .all [.kinds [.object], .otherProperties [] [] value]

def namesSchema : Schema := .all [.kinds [.array], .items 0 nameSchema, .distinct]

/-- A limit of rows: -1 or more. -/
def capSchema : Schema := .all [.kinds [.integer], .bounded .least (.int unlimited)]

/-- The precision of a numeric column: a number, its text, or nothing. -/
def precisionSchema : Schema := .all [.kinds [.number, .string, .null]]

/-- Numeric columns: a list of entries, or a mapping from columns to precisions. -/
def numericSchema : Schema :=
  .all [.oneOf [
    (SchemaDocument.listOf SchemaDocument.name, listSchema nameSchema),
    (SchemaDocument.mappingTo SchemaDocument.precision, mappingSchema precisionSchema)]]

def policySchema : Schema :=
  .all [.kinds [.string], .listed (ExtraPolicy.all.map fun p => .text p.name)]

/-- The keys of a settings file with the schemas of their values. -/
def schemaEntries : List (String × Schema) := [
  ("key_columns", namesSchema),
  ("numeric_columns", numericSchema),
  ("column_mapping", mappingSchema nameSchema),
  ("ignore_columns", listSchema textSchema),
  ("info_columns", listSchema textSchema),
  ("case_sensitive", flagSchema),
  ("check_duplicates", flagSchema),
  ("extra_policy", policySchema),
  ("group_key_fields", mappingSchema (listSchema nameSchema)),
  ("service_fields", listSchema textSchema),
  ("max_passed_rows", capSchema),
  ("max_failed_rows", capSchema),
  ("max_not_found_rows", capSchema),
  ("max_extra_rows", capSchema)]

/-- The schema of settings files. -/
def schema : Schema :=
  .all [.kinds [.object], .noOtherProperties (schemaEntries.map (·.1)) none,
    .properties schemaEntries]

/-- The rules of the schema of settings files. -/
theorem ofDocument_schemaDocument : Schema.ofDocument schemaDocument = schema := rfl

/-! ## 2. Places -/

/-- Where a failure in a value under a key can be: in the value itself, at one of its items, or in
    the value of an entry, at most at one item of it. -/
inductive Place (v : Value) : List Value → Prop where
  | here : Place v []
  | item (hlist : v.entriesOf = []) (n : Nat) : Place v [.int n]
  | entry {e : Value × Value} (he : e ∈ v.entriesOf) {rest : List Value}
      (hrest : rest = [] ∨ ∃ n : Nat, rest = [.int n]) : Place v (e.1 :: rest)

/-- Where a failure in a document can be. -/
def DocumentPlace (d : Value) (path : List Value) : Prop :=
  path = [] ∨ ∃ name x rest, d.get? name = some x ∧ Place x rest ∧ path = .text name :: rest

/-- The keys of a mapping are equal or have an order. -/
def HasOrderedKeys (v : Value) : Prop :=
  ∀ a ∈ v.entriesOf, ∀ b ∈ v.entriesOf,
    (a.1 == b.1) = true ∨ ∃ o, Failure.stepOrder? a.1 b.1 = some o

/-- The values under the keys of a document are such mappings, or no mappings. -/
def HasOrderedParts (d : Value) : Prop := ∀ key v, d.get? key = some v → HasOrderedKeys v

open Failure (pathOrder? stepOrder?)

theorem pathOrder?_nil_left (path : List Value) : ∃ o, pathOrder? [] path = some o := by
  cases path <;> exact ⟨_, rfl⟩

theorem pathOrder?_nil_right (path : List Value) : ∃ o, pathOrder? path [] = some o := by
  cases path <;> exact ⟨_, rfl⟩

/-- Two paths have an order when their first steps do, and behind equal ones the rest. -/
theorem pathOrder?_cons {a b : Value} {as bs : List Value}
    (hstep : (a == b) = true ∨ ∃ o, stepOrder? a b = some o)
    (hrest : (a == b) = true → ∃ o, pathOrder? as bs = some o) :
    ∃ o, pathOrder? (a :: as) (b :: bs) = some o := by
  rw [pathOrder?]
  cases heq : a == b with
  | true => exact hrest heq
  | false => exact hstep.resolve_left (by rw [heq]; exact Bool.false_ne_true)

theorem pathOrder?_items (m n : Nat) : ∃ o, pathOrder? [.int m] [.int n] = some o :=
  pathOrder?_cons (.inr ⟨_, rfl⟩) fun _ => pathOrder?_nil_left []

/-- The places in a value have an order when its keys do. -/
theorem ordered_of_place {v : Value} (h : HasOrderedKeys v) {a b : List Value} (ha : Place v a)
    (hb : Place v b) : ∃ o, pathOrder? a b = some o := by
  cases ha with
  | here => exact pathOrder?_nil_left b
  | item hlist m => cases hb with
    | here => exact pathOrder?_nil_right _
    | item _ n => exact pathOrder?_items m n
    | entry he => exact absurd (hlist ▸ he) List.not_mem_nil
  | @entry e he rest hrest => cases hb with
    | here => exact pathOrder?_nil_right _
    | item hlist => exact absurd (hlist ▸ he) List.not_mem_nil
    | @entry e' he' rest' hrest' =>
      refine pathOrder?_cons (h e he e' he') fun _ => ?_
      rcases hrest with rfl | ⟨m, rfl⟩
      · exact pathOrder?_nil_left rest'
      · rcases hrest' with rfl | ⟨n, rfl⟩
        · exact pathOrder?_nil_right _
        · exact pathOrder?_items m n

/-- So do the places in a document. -/
theorem ordered_of_documentPlace {d : Value} (h : HasOrderedParts d) {a b : List Value}
    (ha : DocumentPlace d a) (hb : DocumentPlace d b) : ∃ o, pathOrder? a b = some o := by
  rcases ha with rfl | ⟨name, x, rest, hx, hrest, rfl⟩
  · exact pathOrder?_nil_left b
  rcases hb with rfl | ⟨name', x', rest', hx', hrest', rfl⟩
  · exact pathOrder?_nil_right _
  refine pathOrder?_cons (.inr ⟨_, rfl⟩) fun heq => ?_
  have hname : name = name' := beq_iff_eq.mp (show (name == name') = true from heq)
  obtain rfl : x = x' := Option.some.inj (hx.symm.trans (hname ▸ hx'))
  exact ordered_of_place (h name x hx) hrest hrest'

/-! ## 3. Parts of a document -/

section Parts

variable {answers ordered : Prop} {places : List Value → Prop} {v : Value} {refer : Referral}
  {asked : Option (List Kind)}

section Plain

variable (hshow : answers → v.isShowable = true) (hplace : places [])

include hshow hplace

theorem textSchema_reports :
    Reports answers ordered (findings refer asked textSchema v) (Shape.text v) places := by
  refine (Reports.all ((Reports.kind hshow hplace).before .noRules)).iff ?_
  rw [and_iff_left trivial]
  exact Kind.string_has_iff

theorem flagSchema_reports :
    Reports answers ordered (findings refer asked flagSchema v) (Shape.flag v) places := by
  refine (Reports.all ((Reports.kind hshow hplace).before .noRules)).iff ?_
  rw [and_iff_left trivial]
  exact Kind.boolean_has_iff

theorem nameSchema_reports :
    Reports answers ordered (findings refer asked nameSchema v) (Shape.name v) places := by
  refine (Reports.all ((Reports.kind hshow hplace).before
    ((Reports.atLeast hshow hplace).before .noRules))).iff ?_
  rw [and_iff_left trivial, Kind.string_has_iff]
  constructor
  · rintro ⟨⟨s, hs⟩, hlength⟩
    subst hs
    have hone : 1 ≤ s.length := hlength _ rfl
    refine ⟨s, rfl, fun hempty => ?_⟩
    rw [hempty] at hone
    cases hone
  · rintro ⟨s, rfl, hne⟩
    refine ⟨⟨s, rfl⟩, fun k hk => ?_⟩
    obtain rfl := Option.some.inj hk
    exact Nat.pos_of_ne_zero (mt String.length_eq_zero_iff.mp hne)

theorem capSchema_reports :
    Reports answers ordered (findings refer asked capSchema v) (Shape.limit v) places := by
  have hshown : (Value.int unlimited).isShowable = true := Value.isShowable_int (by decide)
  refine (Reports.all ((Reports.kind hshow hplace).before
    ((Reports.bounded hshow hplace hshown).before .noRules))).iff ?_
  rw [and_iff_left trivial, Bool.or_eq_true, Bool.not_eq_true']
  constructor
  · rintro ⟨hinteger, hkeeps⟩
    obtain ⟨hflag, d, hd, n, hn⟩ := Kind.integer_has_iff.mp hinteger
    have hnumber : Kind.number.has v = true := Kind.number_of_integer hinteger
    have hbound := hkeeps.resolve_left (by rw [hnumber]; exact Bool.noConfusion)
    rw [least_keeps_iff hd, hn, Int.cast_le] at hbound
    exact ⟨hflag, d, hd, n, hn, hbound⟩
  · rintro ⟨hflag, d, hd, n, hn, hbound⟩
    refine ⟨Kind.integer_has_iff.mpr ⟨hflag, d, hd, n, hn⟩, .inr ((least_keeps_iff hd).mpr ?_)⟩
    rw [hn, Int.cast_le]
    exact hbound

theorem precisionSchema_reports :
    Reports answers ordered (findings refer asked precisionSchema v) (Shape.precision v) places := by
  refine (Reports.all ((Reports.kinds hshow hplace).before .noRules)).iff ?_
  simp only [and_true, List.any_cons, List.any_nil, Bool.or_false, Bool.or_eq_true,
    Kind.number_has_iff, Kind.string_has_iff, Kind.null_has_iff]
  rw [Shape.precision, Shape.text]
  tauto

theorem policySchema_reports :
    Reports answers ordered (findings refer asked policySchema v) (Shape.policy v) places := by
  have hshown : ∀ x ∈ ExtraPolicy.all.map fun p => Value.text p.name, x.isShowable = true := by
    intro x hx
    obtain ⟨p, _, rfl⟩ := List.mem_map.mp hx
    exact Value.isShowable_text p.name
  refine (Reports.all ((Reports.kind hshow hplace).before
    ((Reports.listed hshow hplace hshown).before .noRules))).iff ?_
  rw [and_iff_left trivial, Kind.string_has_iff, List.any_eq_true]
  constructor
  · rintro ⟨⟨s, rfl⟩, x, hx, halike⟩
    obtain ⟨p, _, rfl⟩ := List.mem_map.mp hx
    exact ⟨p, congrArg Value.text (alike_text_iff.mp halike)⟩
  · rintro ⟨p, rfl⟩
    refine ⟨⟨p.name, rfl⟩, .text p.name, List.mem_map.mpr ⟨p, ?_, rfl⟩, alike_text_iff.mpr rfl⟩
    cases p <;> decide

end Plain

variable {item : Schema} {shape : Shape}

theorem listSchema_reports (hshow : answers → v.isShowable = true) (hplace : places [])
    (hitems : v.entriesOf = [] → ∀ n : Nat, places [.int n])
    (hitem : ∀ x, (answers → x.isShowable = true) →
      Reports answers ordered (findings refer none item x) (shape x) (· = [])) :
    Reports answers ordered (findings refer asked (listSchema item) v) (Shape.listOf shape v)
      places := by
  have hrule : Reports answers ordered (findings refer (kindsAmong [.kinds [.array], .items 0 item])
      (.items 0 item) v) (∀ x ∈ v.itemsOf, shape x) places :=
    Reports.items (fun hlist n path (hpath : path = []) => hpath ▸ hitems hlist n)
      fun x hx => hitem x fun hs => Value.isShowable_of_mem_itemsOf (hshow hs) hx
  refine (Reports.all ((Reports.kind hshow hplace).before (hrule.before .noRules))).iff ?_
  rw [and_iff_left trivial]
  rfl

theorem mappingSchema_reports (inner : List Value → Prop)
    (hshow : answers → v.isShowable = true) (hplace : places [])
    (hentries : ∀ e ∈ v.entriesOf, ∀ path, inner path → places (e.1 :: path))
    (hitem : ∀ x, (answers → x.isShowable = true) →
      Reports answers ordered (findings refer none item x) (shape x) inner) :
    Reports answers ordered (findings refer asked (mappingSchema item) v) (Shape.mappingTo shape v)
      places := by
  have hrule : Reports answers ordered
      (findings refer (kindsAmong [.kinds [.object], .otherProperties [] [] item])
        (.otherProperties [] [] item) v) (∀ e ∈ v.entriesOf, shape e.2) places :=
    Reports.otherProperties hentries fun e he =>
      hitem e.2 fun hs => (Value.isShowable_of_mem_entriesOf (hshow hs) he).2
  refine (Reports.all ((Reports.kind hshow hplace).before (hrule.before .noRules))).iff ?_
  rw [and_iff_left trivial]
  rfl

/-- Names are texts. -/
theorem texts_of_names {xs : List Value} (h : ∀ x ∈ xs, Shape.name x) :
    ∃ names : List String, xs = names.map .text := by
  induction xs with
  | nil => exact ⟨[], rfl⟩
  | cons x rest ih =>
    obtain ⟨⟨s, rfl, _⟩, hrest⟩ := List.forall_mem_cons.mp h
    obtain ⟨names, rfl⟩ := ih hrest
    exact ⟨s :: names, rfl⟩

/-- Names can be compared, and are distinct when none of them comes twice. -/
theorem areDistinct?_names {xs : List Value} (h : ∀ x ∈ xs, Shape.name x) :
    areDistinct? xs = some true ↔ xs.Nodup := by
  obtain ⟨names, rfl⟩ := texts_of_names h
  rw [areDistinct?_texts, List.nodup_map_iff fun _ _ => Value.text.inj]

/-- A list of names, none of them twice. -/
theorem namesSchema_reports (hshow : answers → v.isShowable = true) (hplace : places [])
    (hitems : v.entriesOf = [] → ∀ n : Nat, places [.int n])
    (hends : answers → (areDistinct? v.itemsOf).isSome) :
    Reports answers ordered (findings refer asked namesSchema v) (Shape.names v) places := by
  have hrule : Reports answers ordered
      (findings refer (some [.array]) (.items 0 nameSchema) v) (∀ x ∈ v.itemsOf, Shape.name x)
      places :=
    Reports.items (fun hlist n path (hpath : path = []) => hpath ▸ hitems hlist n) fun x hx =>
      nameSchema_reports (fun hs => Value.isShowable_of_mem_itemsOf (hshow hs) hx) rfl
  refine (Reports.all ((Reports.kind hshow hplace).before
    (hrule.before ((Reports.distinct hshow hplace hends).before .noRules)))).iff ?_
  rw [and_iff_left trivial, ← and_assoc]
  exact and_congr_right fun h => areDistinct?_names h.2

theorem numericSchema_reports (hshow : answers → v.isShowable = true) (hplace : places [])
    (hkeys : ordered → HasOrderedKeys v) :
    Reports answers ordered (findings refer asked numericSchema v) (Shape.numericColumns v) places := by
  have hlist : Reports answers ordered (findings refer none (listSchema nameSchema) v)
      (Shape.listOf Shape.name v) (Place v) :=
    listSchema_reports hshow .here (fun hlist n => .item hlist n)
      fun x hx => nameSchema_reports hx rfl
  have hmapping : Reports answers ordered (findings refer none (mappingSchema precisionSchema) v)
      (Shape.mappingTo Shape.precision v) (Place v) :=
    mappingSchema_reports (· = []) hshow .here (fun e he path hpath => .entry he (.inl hpath))
      fun x hx => precisionSchema_reports hx rfl
  refine (Reports.all (Reports.before ?_ .noRules)).iff (and_iff_left trivial)
  exact Reports.oneOf _ _ hlist hmapping
    (fun hl hm => not_isMapping_of_isList hl.1 hm.1) hshow hplace
    fun ho x hx y hy => ordered_of_place (hkeys ho) hx hy

end Parts

/-! ## 4. The whole document -/

/-- The check of a document comes to its end: all of it can be shown, and the key columns can be
    compared. -/
def IsCheckable (d : Value) : Prop :=
  d.isShowable = true ∧ ∀ v, d.get? "key_columns" = some v → (areDistinct? v.itemsOf).isSome

variable {refer : Referral}

/-- The schema under a key reports on the shape of the value there. -/
theorem entries_report (d : Value) :
    List.Forall₂ (fun s f => s.1 = f.1 ∧ ∀ x, d.get? s.1 = some x →
      Reports (IsCheckable d) (HasOrderedParts d) (findings refer none s.2 x) (f.2 x) (Place x))
      schemaEntries settingsShapes := by
  have hshow : ∀ {key x}, d.get? key = some x → IsCheckable d → x.isShowable = true :=
    fun hx hs => Value.isShowable_of_get? hs.1 hx
  have hnames : ∀ x, d.get? "key_columns" = some x → Reports (IsCheckable d) (HasOrderedParts d)
      (findings refer none namesSchema x) (Shape.names x) (Place x) := fun x hx =>
    namesSchema_reports (hshow hx) .here (fun hlist n => .item hlist n) fun h => h.2 x hx
  have hnumeric : ∀ key x, d.get? key = some x → Reports (IsCheckable d) (HasOrderedParts d)
      (findings refer none numericSchema x) (Shape.numericColumns x) (Place x) := fun key x hx =>
    numericSchema_reports (hshow hx) .here fun ho => ho key x hx
  have hmapping : ∀ key x, d.get? key = some x → Reports (IsCheckable d) (HasOrderedParts d)
      (findings refer none (mappingSchema nameSchema) x) (Shape.mappingTo Shape.name x) (Place x) :=
    fun _ _ hx => mappingSchema_reports (· = []) (hshow hx) .here
      (fun _ he _ hpath => .entry he (.inl hpath)) fun _ hy => nameSchema_reports hy rfl
  have htexts : ∀ key x, d.get? key = some x → Reports (IsCheckable d) (HasOrderedParts d)
      (findings refer none (listSchema textSchema) x) (Shape.listOf Shape.text x) (Place x) :=
    fun _ _ hx => listSchema_reports (hshow hx) .here (fun hlist n => .item hlist n)
      fun _ hy => textSchema_reports hy rfl
  have hflag : ∀ key x, d.get? key = some x → Reports (IsCheckable d) (HasOrderedParts d)
      (findings refer none flagSchema x) (Shape.flag x) (Place x) := fun _ _ hx =>
    flagSchema_reports (hshow hx) .here
  have hpolicy : ∀ key x, d.get? key = some x → Reports (IsCheckable d) (HasOrderedParts d)
      (findings refer none policySchema x) (Shape.policy x) (Place x) := fun _ _ hx =>
    policySchema_reports (hshow hx) .here
  have hgroups : ∀ key x, d.get? key = some x → Reports (IsCheckable d) (HasOrderedParts d)
      (findings refer none (mappingSchema (listSchema nameSchema)) x)
      (Shape.mappingTo (Shape.listOf Shape.name) x) (Place x) := fun _ _ hx =>
    mappingSchema_reports (fun path => path = [] ∨ ∃ n : Nat, path = [.int n]) (hshow hx)
      .here (fun _ he _ hpath => .entry he hpath) fun _ hy =>
        listSchema_reports hy (.inl rfl) (fun _ n => .inr ⟨n, rfl⟩) fun _ hz =>
          nameSchema_reports hz rfl
  have hlimit : ∀ key x, d.get? key = some x → Reports (IsCheckable d) (HasOrderedParts d)
      (findings refer none capSchema x) (Shape.limit x) (Place x) := fun _ _ hx =>
    capSchema_reports (hshow hx) .here
  exact .cons ⟨rfl, hnames⟩ <| .cons ⟨rfl, hnumeric _⟩ <| .cons ⟨rfl, hmapping _⟩ <|
    .cons ⟨rfl, htexts _⟩ <| .cons ⟨rfl, htexts _⟩ <| .cons ⟨rfl, hflag _⟩ <|
    .cons ⟨rfl, hflag _⟩ <| .cons ⟨rfl, hpolicy _⟩ <| .cons ⟨rfl, hgroups _⟩ <|
    .cons ⟨rfl, htexts _⟩ <| .cons ⟨rfl, hlimit _⟩ <| .cons ⟨rfl, hlimit _⟩ <|
    .cons ⟨rfl, hlimit _⟩ <| .cons ⟨rfl, hlimit _⟩ .nil

/-- The known keys are those that have shapes. -/
theorem schemaEntries_names : schemaEntries.map (·.1) = settingsShapes.map (·.1) := rfl

/-- **The findings in a document** report on whether it is a document of settings. Where keys have an
    order they can be compared. -/
theorem schema_reports (refer : Referral) (d : Value) : Reports (IsCheckable d) (HasOrderedParts d)
    (findings refer none schema d) (IsSettingsDocument d) (DocumentPlace d) := by
  have hplaces : ∀ name x, d.get? name = some x → ∀ path, Place x path →
      DocumentPlace d (.text name :: path) := fun name x hx path hpath =>
    .inr ⟨name, x, path, hx, hpath, rfl⟩
  have hvalues : Reports (IsCheckable d) (HasOrderedParts d)
      (findings refer (some [.object]) (.properties schemaEntries) d)
      (∀ f ∈ settingsShapes, ∀ v, d.get? f.1 = some v → f.2 v) (DocumentPlace d) := by
    rw [findings]
    exact Reports.properties (entries_report d) hplaces
  refine (Reports.all ((Reports.kind And.left (.inl rfl)).before
    ((Reports.noOtherProperties And.left (.inl rfl)).before (hvalues.before .noRules)))).iff ?_
  rw [and_iff_left trivial, schemaEntries_names]
  constructor
  · rintro ⟨hmapping, hkeys, hvalues⟩
    refine ⟨hmapping, fun e he => ?_, hvalues⟩
    obtain ⟨name, hname, heq⟩ := hkeys e he
    obtain ⟨f, hf, rfl⟩ := List.mem_map.mp hname
    exact ⟨f, hf, heq⟩
  · rintro ⟨hmapping, hkeys, hvalues⟩
    refine ⟨hmapping, fun e he => ?_, hvalues⟩
    obtain ⟨f, hf, heq⟩ := hkeys e he
    exact ⟨f.1, List.mem_map_of_mem hf, heq⟩

/-! ## 5. The built-in library -/

variable {d : Value}

theorem isCheckable_of_isSettingsDocument (h : IsSettingsDocument d) (hshow : d.isShowable = true) :
    IsCheckable d := by
  refine ⟨hshow, fun v hv => ?_⟩
  obtain ⟨⟨_, hnames⟩, hnodup⟩ :=
    h.values ("key_columns", Shape.names) (by simp [settingsShapes]) v hv
  rw [(areDistinct?_names hnames).mpr hnodup]
  rfl

theorem isCheckable_of_isOrdinary (h : IsOrdinary maxNesting d) : IsCheckable d := by
  have hdepth : maxNesting < maxDepth := by decide
  exact ⟨h.isShowable, fun v hv => areDistinct?_isSome hdepth (h.get? hv).itemsOf⟩

/-- The keys of an ordinary document are texts, and have an order. -/
theorem hasOrderedParts_of_isOrdinary {depth : Nat} (h : IsOrdinary depth d) : HasOrderedParts d := by
  intro key v hv a ha b hb
  obtain ⟨s, hs⟩ := ((h.get? hv).entriesOf a ha).1
  obtain ⟨t, ht⟩ := ((h.get? hv).entriesOf b hb).1
  rw [hs, ht]
  exact .inr ⟨_, rfl⟩

/-- A document that is a schema is what others are checked against. -/
theorem builtIn_check_of_isSchema {s : Value} (hmay : Library.mayBeSchema s = true)
    (hschema : (schemaFailure? s).toOption = some none) :
    Library.builtIn.check s d = Library.acceptFound (findingsUnderDocument s d) := by
  show Library.checkUnder s d = _
  unfold Library.checkUnder
  cases hfailure : schemaFailure? s with
  | error b =>
    rw [hfailure] at hschema
    cases hschema
  | ok failure =>
    rw [hfailure] at hschema
    obtain rfl := Option.some.inj hschema
    rw [hmay]
    rfl

/-- The schema of settings files is one, and under it the built-in library looks for failures by the
    rules. -/
theorem builtIn_check (d : Value) : ∃ refer,
    Library.builtIn.check schemaDocument d = Library.acceptFound (findings refer none schema d) := by
  have hmay : Library.mayBeSchema schemaDocument = true := by decide +kernel
  have haccepted : ((schemaFailure? schemaDocument).toOption.any Option.isNone) = true := by
    decide +kernel
  obtain ⟨failure, hfailure, hnone⟩ := Option.any_eq_true _ _ |>.mp haccepted
  obtain rfl := Option.isNone_iff_eq_none.mp hnone
  have hcheck : Library.builtIn.check schemaDocument d =
      Library.acceptFound (findingsUnderDocument schemaDocument d) :=
    builtIn_check_of_isSchema hmay hfailure
  rw [findingsUnderDocument, ofDocument_schemaDocument] at hcheck
  exact ⟨_, hcheck⟩

theorem acceptFound_eq_ok_iff {found : Findings} :
    Library.acceptFound found = .ok () ↔ found.failures = [] ∧ found.brokenBy = none := by
  rw [← Findings.told_eq_ok_none_iff]
  unfold Library.acceptFound
  cases found.told with
  | error b => simp [Library.brokenOff]
  | ok told => cases told <;> simp

theorem acceptFound_eq_refused {found : Findings} {m : String}
    (h : Library.acceptFound found = .error (.refused m)) : found.failures ≠ [] := by
  unfold Library.acceptFound at h
  split at h
  · cases h
  · exact Findings.failures_ne_nil_of_told ‹_›
  · cases h

theorem acceptFound_ne_badSchema (found : Findings) (m : String) :
    Library.acceptFound found ≠ .error (.badSchema m) := by
  unfold Library.acceptFound
  split <;> nofun

/-- **The built-in library checks documents of settings.** -/
theorem builtIn_checksSettings : Library.builtIn.ChecksSettings where
  isSchema d m h := by
    obtain ⟨refer, hcheck⟩ := builtIn_check d
    exact acceptFound_ne_badSchema _ m (hcheck ▸ h)
  sound d h := by
    obtain ⟨refer, hcheck⟩ := builtIn_check d
    obtain ⟨hnone, hunbroken⟩ := acceptFound_eq_ok_iff.mp (hcheck ▸ h)
    exact (schema_reports refer d).sound hnone hunbroken
  accepts d h hshow := by
    obtain ⟨refer, hcheck⟩ := builtIn_check d
    have hreports := schema_reports refer d
    rw [hcheck]
    refine acceptFound_eq_ok_iff.mpr ⟨hreports.complete h, Option.eq_none_iff_forall_ne_some.mpr ?_⟩
    exact fun b hb => hreports.broken b hb (isCheckable_of_isSettingsDocument h hshow)
  refused d m h hsettings := by
    obtain ⟨refer, hcheck⟩ := builtIn_check d
    exact acceptFound_eq_refused (hcheck ▸ h) ((schema_reports refer d).complete hsettings)
  refuses d hordinary hsettings := by
    obtain ⟨refer, hcheck⟩ := builtIn_check d
    have hreports := schema_reports refer d
    have hordered := hasOrderedParts_of_isOrdinary hordinary
    have hsortable : Failure.Sortable (findings refer none schema d).failures :=
      .mk (fun f hf g hg => ordered_of_documentPlace hordered (hreports.places f hf)
        (hreports.places g hg)) (hreports.sortable hordered)
    rcases Findings.told_of_sortable hsortable with
      ⟨hnone, hunbroken, _⟩ | ⟨_, _, f, htold⟩ | ⟨b, hbroken, _⟩
    · exact absurd (hreports.sound hnone hunbroken) hsettings
    · exact ⟨f.message, by rw [hcheck, Library.acceptFound, htold]⟩
    · exact absurd (isCheckable_of_isOrdinary hordinary) (hreports.broken b hbroken)

/-- A file that is no text is not read at all. -/
theorem builtIn_readsText : Library.builtIn.ReadsText := by
  intro bytes d h
  show (Text.charsOf? bytes).isSome
  cases hchars : Text.charsOf? bytes with
  | some cs => rfl
  | none =>
    have hread : Library.builtIn.read bytes = .error (.other .undecodable) := by
      show Library.readYaml bytes = _
      rw [Library.readYaml, hchars]
    rw [hread] at h
    cases h

end Reconcile.Settings
