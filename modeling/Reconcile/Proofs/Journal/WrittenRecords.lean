import Reconcile.Journal.Record
import Reconcile.Proofs.Json.RoundTrip

/-!
# Log records read back

The line of a record is one line, and it is read back as a mapping that tells what the record does:
what is empty is not there, and the texts of the context are cut off but stay in their order.

* `length_shortenText`: how long a text is after it was cut off;
* `Record.parts`, `Record.fields_eq`: the parts of a record, and its fields as those parts that are
  there;
* `names_filled_sublist`, `lookup_filled`: their names, and what is found under a name;
* `shownContext_details`: a context of texts is shown with its names in their order;
* **`line_reads_back`**: what is read back of a line.
-/

namespace Reconcile.Journal

open Reconcile.Document Reconcile.Json

/-- A text that was cut off is as long as the limit and the three dots, at most. -/
theorem length_shortenText (text : String) (limit : Nat) :
    (shortenText text limit).length ≤ limit + 3 := by
  unfold shortenText
  split
  · rename_i hshort
    omega
  · have hcut : (cutAt text.toList limit).length ≤ limit := by
      have hlimit : ¬ (limit : Int) < 0 := Int.not_lt.mpr (Int.natCast_nonneg limit)
      rw [cutAt, if_neg hlimit]
      exact List.length_take_le _ _
    rw [String.length_append, String.length_ofList]
    exact Nat.add_le_add_right hcut 3

/-! ## 1. Parts -/

/-- The parts that are there, as fields. -/
def filled (parts : List (String × Option Value)) : List (String × Value) :=
  parts.filterMap fun (name, part) => part.map fun v => (name, v)

theorem filled_cons (name : String) (part : Option Value) (parts : List (String × Option Value)) :
    filled ((name, part) :: parts) = (part.map fun v => (name, v)).toList ++ filled parts := by
  cases part <;> rfl

theorem names_filled_sublist (parts : List (String × Option Value)) :
    (Entries.names (filled parts)).Sublist (Entries.names parts) := by
  induction parts with
  | nil => exact List.nil_sublist _
  | cons p parts ih =>
    obtain ⟨name, part⟩ := p
    rw [filled_cons]
    cases part with
    | none => exact ih.cons name
    | some v => exact ih.cons_cons name

/-- What is found under a name is the part with this name, when it is there. -/
theorem lookup_filled {parts : List (String × Option Value)} (h : (Entries.names parts).Nodup)
    (name : String) : (filled parts).lookup name = (parts.lookup name).join := by
  induction parts with
  | nil => rfl
  | cons p parts ih =>
    obtain ⟨first, part⟩ := p
    obtain ⟨hfirst, hrest⟩ := List.nodup_cons.mp h
    rw [filled_cons, List.lookup_append, List.lookup_cons, ih hrest]
    by_cases hname : name = first
    · subst hname
      have hnew : ∀ e ∈ parts, name ≠ e.1 := fun e he heq =>
        hfirst (List.mem_map.mpr ⟨e, he, heq.symm⟩)
      have hnone : parts.lookup name = none :=
        List.lookup_eq_none_iff.mpr fun e he => bne_iff_ne.mpr (hnew e he)
      rw [hnone, beq_self_eq_true]
      cases part with
      | none => rfl
      | some v => exact congrArg (Option.or · none) List.lookup_cons_self
    · rw [beq_eq_false_iff_ne.mpr hname]
      cases part with
      | none => rfl
      | some v =>
        have hskip : [(first, v)].lookup name = none := by
          rw [List.lookup_cons, beq_eq_false_iff_ne.mpr hname]
          rfl
        exact congrArg (Option.or · _) hskip

/-- A text that is there and not empty. -/
def present (text : Option String) : Option Value := (text.filter (· ≠ "")).map .text

/-- A context that is not empty. -/
def shownContext (context : List (String × Detail)) : Option Value :=
  if context.isEmpty then none
  else some (.ofPairs (context.map fun (name, d) => (.text name, d.toValue)))

namespace Record

/-- What a record tells after the time. -/
def parts (r : Record) : List (String × Option Value) :=
  [("level", some (.text r.level)), ("message", some (.text r.message)),
    ("operation", present r.operation), ("context", shownContext r.context),
    ("duration_ms", r.duration.map Duration.toValue), ("error", present r.error)]

theorem nodup_names_parts (r : Record) : (Entries.names r.parts).Nodup := by
  have hnames : Entries.names r.parts =
      ["level", "message", "operation", "context", "duration_ms", "error"] := rfl
  rw [hnames]
  decide

/-- A text as a field, unless it is empty. -/
def textField (name : String) (text : Option String) : List (String × Value) :=
  match text with
  | some s => if s.isEmpty then [] else [(name, .text s)]
  | none => []

theorem textField_eq (name : String) (text : Option String) :
    textField name text = ((present text).map fun v => (name, v)).toList := by
  cases text with
  | none => rfl
  | some s =>
    by_cases hs : s = ""
    · subst hs
      rfl
    · have hsome : s.isEmpty = false := String.isEmpty_eq_false_iff.mpr hs
      have hpresent : present (some s) = some (.text s) := by simp [present, hs]
      rw [textField, hsome, hpresent]
      rfl

/-- **The fields of a record are the parts** that are there. -/
theorem fields_eq (r : Record) : r.fields = filled r.parts := by
  have hcontext : (if r.context.isEmpty then []
      else [("context", Value.ofPairs (r.context.map fun (k, d) => (.text k, d.toValue)))]) =
        ((shownContext r.context).map fun v => ("context", v)).toList := by
    rw [shownContext]
    split <;> rfl
  have hduration : (r.duration.map fun d => ("duration_ms", d.toValue)).toList =
      ((r.duration.map Duration.toValue).map fun v => ("duration_ms", v)).toList := by
    rw [Option.map_map]
    rfl
  have hfields : r.fields = [("level", .text r.level), ("message", .text r.message)] ++
      textField "operation" r.operation ++
        (if r.context.isEmpty then []
          else [("context", .ofPairs (r.context.map fun (k, d) => (.text k, d.toValue)))]) ++
        (r.duration.map fun d => ("duration_ms", d.toValue)).toList ++
          textField "error" r.error := rfl
  rw [hfields, textField_eq, textField_eq, hcontext, hduration]
  simp only [parts, filled_cons, List.append_assoc, Option.map_some, Option.toList_some,
    List.cons_append, List.nil_append]
  rw [filled, List.filterMap_nil, List.append_nil]

/-- No name comes twice in what is written of a record. -/
theorem nodup_names_line (r : Record) (time : Value) :
    (Entries.names (("timestamp", time) :: r.fields)).Nodup := by
  have hnames : (Entries.names (("timestamp", some time) :: r.parts)).Nodup :=
    List.nodup_cons.mpr ⟨by simp [parts], r.nodup_names_parts⟩
  rw [r.fields_eq]
  exact hnames.sublist (names_filled_sublist (("timestamp", some time) :: r.parts))

end Record

/-! ## 2. Contexts of texts -/

/-- A context of texts, as details. -/
def details (context : List (String × String)) : List (String × Detail) :=
  context.map fun (name, text) => (name, .text text)

/-- A context of texts as it is shown: every text is cut off, and the names and their order stay. -/
def cutTexts (context : List (String × String)) : List (String × Value) :=
  context.map fun (name, text) => (name, .text (shorten shownLength (some text)))

theorem names_cutTexts (context : List (String × String)) :
    Entries.names (cutTexts context) = Entries.names context := by
  rw [Entries.names, cutTexts, List.map_map]
  rfl

theorem shownContext_details {context : List (String × String)}
    (h : (Entries.names context).Nodup) :
    shownContext (details context) =
      if context = [] then none else some (.record (cutTexts context)) := by
  have hpairs : (details context).map (fun (name, d) => (Value.text name, d.toValue)) =
      named (cutTexts context) := by
    rw [details, named, cutTexts, List.map_map, List.map_map]
    rfl
  have hrecord : Value.ofPairs (named (cutTexts context)) = .record (cutTexts context) :=
    ofPairs_of_nodup (by rwa [names_cutTexts])
  have hempty : (details context).isEmpty = decide (context = []) := by
    cases context <;> rfl
  rw [shownContext, hpairs, hrecord, hempty]
  simp only [decide_eq_true_eq]

theorem madeOfTexts_cutTexts {context : List (String × String)}
    (h : (Entries.names context).Nodup) : MadeOfTexts (.record (cutTexts context)) := by
  refine .record (by rwa [names_cutTexts]) fun field hfield => ?_
  obtain ⟨e, _, rfl⟩ := List.mem_map.mp hfield
  exact .text _

/-! ## 3. Lines -/

/-- With a context of texts and no duration, what a record tells is made of texts. -/
theorem madeOfTexts_line {r : Record} {context : List (String × String)}
    (hduration : r.duration = none) (hcontext : r.context = details context)
    (h : (Entries.names context).Nodup) (timestamp : String) :
    MadeOfTexts (.record (("timestamp", .text timestamp) :: r.fields)) := by
  have hpresent : ∀ {text : Option String} {v : Value}, present text = some v →
      MadeOfTexts v := by
    intro text v hv
    obtain ⟨s, _, rfl⟩ := Option.map_eq_some_iff.mp hv
    exact .text s
  have hshown : ∀ {v : Value}, shownContext r.context = some v → MadeOfTexts v := by
    intro v hv
    rw [hcontext, shownContext_details h] at hv
    split at hv
    · cases hv
    · exact Option.some.inj hv ▸ madeOfTexts_cutTexts h
  have hparts : ∀ p ∈ r.parts, ∀ v, p.2 = some v → MadeOfTexts v := by
    simp only [Record.parts, hduration, List.forall_mem_cons]
    exact ⟨fun _ hv => Option.some.inj hv ▸ .text _, fun _ hv => Option.some.inj hv ▸ .text _,
      fun _ => hpresent, fun _ => hshown, fun _ hv => (nomatch hv), fun _ => hpresent,
      fun _ hp => absurd hp List.not_mem_nil⟩
  refine .record (r.nodup_names_line (.text timestamp)) (List.forall_mem_cons.mpr ⟨.text _, ?_⟩)
  intro field hfield
  rw [r.fields_eq, filled, List.mem_filterMap] at hfield
  obtain ⟨p, hp, hpart⟩ := hfield
  obtain ⟨v, hv, rfl⟩ := Option.map_eq_some_iff.mp hpart
  exact hparts p hp v hv

/-- **A line is read back.** The line of a record with a context of texts under distinct names, at
    any time, has no line break in it. It is a mapping with the level and the message of the record,
    with its operation and its error unless they are empty, and, unless the context is empty, with
    the names of the context in their order and its texts cut off. -/
theorem line_reads_back (timestamp level message : String) (operation error : Option String)
    (context : List (String × String)) (h : (Entries.names context).Nodup) :
    let r : Record := { level, message, operation, context := details context, error }
    ('\n' ∉ (r.line timestamp).toList ∧ '\r' ∉ (r.line timestamp).toList) ∧
      (∃ entries, read (r.line timestamp).toList = .ok (.map entries) ∧
        (Value.map entries).get? "level" = some (.text level) ∧
        (Value.map entries).get? "message" = some (.text message) ∧
        (Value.map entries).get? "operation" = (operation.filter (· ≠ "")).map .text ∧
        (Value.map entries).get? "error" = (error.filter (· ≠ "")).map .text ∧
        (Value.map entries).get? "context" =
          if context = [] then none else some (.record (cutTexts context))) ∧
      ∀ text, (shorten shownLength (some text)).length ≤ 67 := by
  intro r
  have hmade := madeOfTexts_line (r := r) rfl rfl h timestamp
  have hprintable := isPrintable_of_mem_write hmade
  have hbreaks : ¬ IsPrintable '\n' ∧ ¬ IsPrintable '\r' := by decide
  have hfound : ∀ name ≠ "timestamp",
      (Value.record (("timestamp", .text timestamp) :: r.fields)).get? name =
        (r.parts.lookup name).join := by
    intro name hname
    rw [get?_record, ← lookup_filled r.nodup_names_parts, ← r.fields_eq]
    exact Entries.lookup_insert hname [] r.fields
  refine ⟨⟨fun hmem => hbreaks.1 (hprintable _ hmem), fun hmem => hbreaks.2 (hprintable _ hmem)⟩,
    ⟨_, read_write hmade, hfound "level" (by decide), hfound "message" (by decide),
      hfound "operation" (by decide), hfound "error" (by decide), ?_⟩,
    fun text => length_shortenText text 64⟩
  rw [← shownContext_details h]
  exact hfound "context" (by decide)

/-- A line with quotes, backslashes, line breaks and a long text in it. -/
theorem line_reads_back_escapes :
    let context := [("path", "C:\\new\n"), ("cell", String.ofList (List.replicate 70 'x'))]
    (Entries.names context).Nodup ∧ ∃ entries,
      read (({ level := "INFO", message := "a \"b\"\r\u0001", operation := some ""
               context := details context } : Record).line "12:00").toList = .ok (.map entries) ∧
        (Value.map entries).get? "message" = some (.text "a \"b\"\r\u0001") ∧
        (Value.map entries).get? "operation" = none ∧
        (Value.map entries).get? "context" = some (.record [("path", .text "C:\\new\n"),
          ("cell", .text (String.ofList (List.replicate 64 'x') ++ "..."))]) := by
  intro context
  have hdistinct : (Entries.names context).Nodup := by decide
  have hcut : cutTexts context = [("path", .text "C:\\new\n"),
      ("cell", .text (String.ofList (List.replicate 64 'x') ++ "..."))] := by
    rfl
  obtain ⟨entries, hread, _, hmessage, hoperation, _, hcontext⟩ :=
    (line_reads_back "12:00" "INFO" "a \"b\"\r\u0001" (some "") none context hdistinct).2.1
  rw [hcut] at hcontext
  exact ⟨hdistinct, entries, hread, hmessage, hoperation, hcontext⟩

end Reconcile.Journal
