import Reconcile.Document.Entries
import Reconcile.Json.Reader
import Reconcile.Json.Writer

/-!
# What is written reads back

A text, or a mapping from distinct names to such values at any depth, is written on one line without
control characters, and the reader gives the same value back.

* `readString_writeChar`: a character is read back from the one, two or six characters that stand
  for it;
* `readString_written`: a text is read back up to its closing quote;
* `ofPairs_of_nodup`: pairs with distinct names, written one after the other, are a record;
* `readMembers_step`, `readMembers_written`: entries are read back when their values are;
* `ReadsBack`: what it is for a value to be read back within a longer text;
* `MadeOfTexts`: texts, and records of such values;
* **`read_write`**: what is written reads back;
* **`isPrintable_of_mem_write`**: no control character is written.
-/

namespace Reconcile.Json

open Reconcile.Document

/-! ## 1. Characters -/

/-- The letter for a character stands for that character, and is not the one for codes. -/
theorem escaped?_of_escapeLetter? {c l : Char} (h : escapeLetter? c = some l) :
    escaped? l = some c ∧ l ≠ 'u' := by
  unfold escapeLetter? at h
  split at h <;> cases h <;> decide

theorem ne_of_escapeLetter? {c : Char} (h : escapeLetter? c = none) : c ≠ '"' ∧ c ≠ '\\' := by
  constructor <;> rintro rfl <;> cases h

/-- Four digits are read without a look at what follows them. -/
theorem fourHex?_append {s left : List Char} {n : Nat} (h : fourHex? s = some (n, left))
    (rest : List Char) : fourHex? (s ++ rest) = some (n, left ++ rest) := by
  match s, h with
  | a :: b :: c :: d :: s, h =>
    simp only [fourHex?, List.cons_append, Option.bind_eq_bind, Option.bind_eq_some_iff,
      Option.pure_def, Option.some.injEq, Prod.mk.injEq] at h ⊢
    obtain ⟨w, hw, x, hx, y, hy, z, hz, hn, rfl⟩ := h
    exact ⟨w, hw, x, hx, y, hy, z, hz, hn, rfl⟩

/-- The code of a control character is read back. -/
theorem fourHex?_hexDigits {n : Nat} (h : n < 0x20) (rest : List Char) :
    fourHex? (Text.hexDigits 4 n ++ rest) = some (n, rest) := by
  have hcodes : ∀ n < 0x20, fourHex? (Text.hexDigits 4 n) = some (n, []) := by decide
  exact fourHex?_append (hcodes n h) rest

theorem codeChar_of_lt {n : Nat} (h : n < 0x20) (rest : List Char) :
    codeChar n rest = (Char.ofNat n, rest) := by
  have hhigh : ¬ 0xD800 ≤ n := by omega
  have hlow : ¬ 0xDC00 ≤ n := by omega
  simp only [codeChar, hhigh, hlow, decide_false, Bool.false_and, Bool.false_eq_true, if_false]

section

variable (start : List Char) (fuel : Nat) (acc : List Char)

theorem readString_quote (rest : List Char) :
    readString start (fuel + 1) acc ('"' :: rest) = .ok (String.ofList acc.reverse, rest) := by
  simp only [readString]

theorem readString_letter {l d : Char} (hletter : escaped? l = some d) (hcode : l ≠ 'u')
    (rest : List Char) :
    readString start (fuel + 1) acc ('\\' :: l :: rest) =
      readString start fuel (d :: acc) rest := by
  simp only [readString, hletter]

theorem readString_code {s tail : List Char} {n : Nat} (hdigits : fourHex? s = some (n, tail))
    (htail : tail ≠ []) :
    readString start (fuel + 1) acc ('\\' :: 'u' :: s) =
      readString start fuel ((codeChar n tail).1 :: acc) (codeChar n tail).2 := by
  have hsome : tail.isEmpty = false := List.isEmpty_eq_false_iff.mpr htail
  simp only [readString, hdigits, hsome, Bool.false_eq_true, if_false]

theorem readString_plain {c : Char} (hquote : c ≠ '"') (hslash : c ≠ '\\')
    (hprintable : ¬ c.toNat < 0x20) (rest : List Char) :
    readString start (fuel + 1) acc (c :: rest) = readString start fuel (c :: acc) rest := by
  rw [readString]
  · rw [if_neg hprintable]
  · exact fun h => hquote h
  · exact fun h => absurd h hslash
  · exact fun _ h => absurd h hslash
  · exact fun _ _ h => absurd h hslash

/-- **A character is read back** from what is written for it. -/
theorem readString_writeChar (c : Char) {rest : List Char} (hrest : rest ≠ []) :
    readString start (fuel + 1) acc (writeChar c ++ rest) =
      readString start fuel (c :: acc) rest := by
  rw [writeChar]
  cases hletter : escapeLetter? c with
  | some l =>
    obtain ⟨hescaped, hcode⟩ := escaped?_of_escapeLetter? hletter
    exact readString_letter start fuel acc hescaped hcode rest
  | none =>
    dsimp only
    by_cases hcontrol : c.toNat < 0x20
    · rw [if_pos hcontrol]
      have hread := readString_code start fuel acc (fourHex?_hexDigits hcontrol rest) hrest
      rwa [codeChar_of_lt hcontrol, Char.ofNat_toNat] at hread
    · rw [if_neg hcontrol]
      obtain ⟨hquote, hslash⟩ := ne_of_escapeLetter? hletter
      exact readString_plain start fuel acc hquote hslash hcontrol rest

end

theorem writeChar_ne_nil (c : Char) : writeChar c ≠ [] := by
  unfold writeChar
  split
  · exact List.cons_ne_nil _ _
  · split <;> exact List.cons_ne_nil _ _

/-- A character that is no control character. -/
def IsPrintable (c : Char) : Prop := 0x20 ≤ c.toNat

instance : DecidablePred IsPrintable := fun c => inferInstanceAs (Decidable (0x20 ≤ c.toNat))

/-- What is written for a character holds no control character. -/
theorem isPrintable_of_mem_writeChar {c d : Char} (h : d ∈ writeChar c) : IsPrintable d := by
  unfold writeChar at h
  split at h
  · rename_i l hletter
    have hslash : IsPrintable '\\' := by decide
    have hl : IsPrintable l := by
      unfold escapeLetter? at hletter
      split at hletter <;> cases hletter <;> decide
    rcases List.mem_cons.mp h with rfl | h
    · exact hslash
    · exact List.mem_singleton.mp h ▸ hl
  · split at h
    · rename_i hcontrol
      have hcodes : ∀ n < 0x20,
          ('\\' :: 'u' :: Text.hexDigits 4 n).all (fun d => IsPrintable d) = true := by decide
      exact of_decide_eq_true (List.all_eq_true.mp (hcodes c.toNat hcontrol) d h)
    · rename_i hprintable
      exact List.mem_singleton.mp h ▸ Nat.le_of_not_lt hprintable

/-! ## 2. Texts -/

theorem toList_writeString (s : String) :
    (writeString s).toList = '"' :: (s.toList.flatMap writeChar ++ ['"']) := by
  rw [writeString, String.toList_ofList]
  rfl

/-- A text is read back up to its closing quote. -/
theorem readString_written (start cs rest : List Char) : ∀ (fuel : Nat) (acc : List Char),
    (cs.flatMap writeChar).length < fuel →
      readString start fuel acc (cs.flatMap writeChar ++ '"' :: rest) =
        .ok (String.ofList (acc.reverse ++ cs), rest) := by
  induction cs with
  | nil =>
    intro fuel acc hfuel
    obtain ⟨k, rfl⟩ := Nat.exists_eq_add_of_lt hfuel
    rw [List.append_nil]
    exact readString_quote start _ acc rest
  | cons c cs ih =>
    intro fuel acc hfuel
    have hwritten := List.length_pos_iff.mpr (writeChar_ne_nil c)
    rw [List.flatMap_cons, List.length_append] at hfuel
    obtain ⟨k, rfl⟩ : ∃ k, fuel = k + 1 := ⟨fuel - 1, by omega⟩
    have hmore : cs.flatMap writeChar ++ '"' :: rest ≠ [] :=
      List.append_ne_nil_of_right_ne_nil _ (List.cons_ne_nil _ _)
    rw [List.flatMap_cons, List.append_assoc, readString_writeChar start k acc c hmore,
      ih k (c :: acc) (by omega), List.reverse_cons, List.append_assoc, List.singleton_append]

/-- **A text is read back** from behind its opening quote. -/
theorem readString_text (start : List Char) (s : String) (rest : List Char) :
    readString start ((s.toList.flatMap writeChar ++ '"' :: rest).length + 1) []
      (s.toList.flatMap writeChar ++ '"' :: rest) = .ok (s, rest) := by
  have hfuel : (s.toList.flatMap writeChar).length <
      (s.toList.flatMap writeChar ++ '"' :: rest).length + 1 := by
    rw [List.length_append]
    omega
  rw [readString_written start s.toList rest _ [] hfuel]
  exact congrArg (fun t => Except.ok (t, rest)) String.ofList_toList

theorem isPrintable_of_mem_writeString {s : String} {c : Char} (h : c ∈ (writeString s).toList) :
    IsPrintable c := by
  have hquote : IsPrintable '"' := by decide
  rw [toList_writeString, List.mem_cons, List.mem_append, List.mem_flatMap,
    List.mem_singleton] at h
  rcases h with rfl | ⟨d, _, hd⟩ | rfl
  · exact hquote
  · exact isPrintable_of_mem_writeChar hd
  · exact hquote

/-! ## 3. Entries -/

/-- The entries of a record, under their names as values. -/
def named (fields : List (String × Value)) : List (Value × Value) :=
  fields.map fun (k, v) => (.text k, v)

theorem named_append (fields more : List (String × Value)) :
    named (fields ++ more) = named fields ++ named more :=
  List.map_append

theorem sameScalar_text (a b : String) : Value.sameScalar (.text a) (.text b) = (a == b) := by
  simp only [Value.sameScalar]

/-- A new name is put at the end. -/
theorem put_of_new {name : String} (v : Value) {fields : List (String × Value)}
    (h : name ∉ Entries.names fields) :
    Value.put (named fields) (.text name) v = named (fields ++ [(name, v)]) := by
  have hnew : (named fields).any (fun e => Value.sameScalar e.1 (.text name)) = false := by
    rw [List.any_eq_false]
    intro e he
    obtain ⟨field, hfield, rfl⟩ := List.mem_map.mp he
    rw [sameScalar_text, beq_iff_eq]
    rintro rfl
    exact h (List.mem_map_of_mem hfield)
  rw [Value.put, hnew, if_neg Bool.false_ne_true, named_append]
  rfl

/-- **Pairs with distinct names are the record** with these entries. -/
theorem ofPairs_of_nodup {fields : List (String × Value)} (h : (Entries.names fields).Nodup) :
    Value.ofPairs (named fields) = .record fields := by
  have hfold : fields.foldl (fun es e => Value.put es (.text e.1) e.2) [] = named fields :=
    Entries.foldl_of_nodup named (fun _ e => put_of_new e.2) fields [] h
  rw [Value.ofPairs, named, List.foldl_map]
  exact congrArg Value.map hfold

/-- What is under a name in a record. -/
theorem get?_record (fields : List (String × Value)) (name : String) :
    (Value.record fields).get? name = fields.lookup name := by
  induction fields with
  | nil => rfl
  | cons field fields ih =>
    have hcons : (Value.record (field :: fields)).get? name =
        if Value.sameScalar (.text field.1) (.text name) then some field.2
        else (Value.record fields).get? name := by
      simp only [Value.get?, Value.entriesOf, Value.opened, Value.record, List.map_cons,
        List.find?_cons]
      cases Value.sameScalar (.text field.1) (.text name) <;> rfl
    rw [hcons, ih, sameScalar_text, List.lookup_cons, BEq.comm]
    cases name == field.1 <;> rfl

/-- What is written for an entry: its name, a colon and a space, and its value. -/
def writtenField (field : String × Value) : List Char :=
  '"' :: (field.1.toList.flatMap writeChar ++ '"' :: ':' :: ' ' :: (write field.2).toList)

/-- What is written for the entries of a record, between its braces. -/
def writtenFields (fields : List (String × Value)) : List Char :=
  [',', ' '].intercalate (fields.map writtenField)

theorem writtenFields_single (field : String × Value) :
    writtenFields [field] = writtenField field :=
  List.intercalate_singleton

theorem writtenFields_cons (field next : String × Value) (more : List (String × Value)) :
    writtenFields (field :: next :: more) =
      writtenField field ++ ',' :: ' ' :: writtenFields (next :: more) := by
  simp only [writtenFields, List.map_cons, List.intercalate_cons_cons, List.append_assoc,
    List.cons_append, List.nil_append]

theorem writtenFields_opens (field : String × Value) (more : List (String × Value)) :
    ∃ tail, writtenFields (field :: more) = '"' :: tail := by
  cases more with
  | nil => exact ⟨_, writtenFields_single field⟩
  | cons next more => exact ⟨_, writtenFields_cons field next more⟩

theorem toList_writeEntry (field : String × Value) :
    (writeName (.text field.1) ++ ": " ++ write field.2).toList = writtenField field := by
  have hcolon : ": ".toList = [':', ' '] := rfl
  have hname : writeName (.text field.1) = writeString field.1 := by
    simp only [writeName, Value.plain]
  rw [hname, String.toList_append, String.toList_append, hcolon, toList_writeString]
  simp only [writtenField, List.append_assoc, List.cons_append, List.nil_append]

theorem toList_writeEntries (fields : List (String × Value)) :
    (writeEntries (named fields)).map String.toList = fields.map writtenField := by
  induction fields with
  | nil => simp only [named, List.map_nil, writeEntries]
  | cons field fields ih =>
    simp only [named, List.map_cons, writeEntries] at ih ⊢
    rw [ih, toList_writeEntry]

theorem toList_write_record (fields : List (String × Value)) :
    (write (.record fields)).toList = '\x7b' :: (writtenFields fields ++ ['\x7d']) := by
  have hwrite : write (.record fields) =
      "\x7b" ++ ", ".intercalate (writeEntries (named fields)) ++ "\x7d" := by
    simp only [Value.record, write, named]
  rw [hwrite, String.toList_append, String.toList_append, String.toList_intercalate,
    toList_writeEntries]
  rfl

/-! ## 4. Values that read back -/

theorem skipSpace_cons {c : Char} (h : isSpace c = false) (rest : List Char) :
    skipSpace (c :: rest) = c :: rest := by
  rw [skipSpace, List.dropWhile_cons, h, if_neg Bool.false_ne_true]

/-- A value is read back, whatever follows it; it begins with a quote or a brace. -/
structure ReadsBack (v : Value) : Prop where
  opens : ∃ c tail, (c = '"' ∨ c = '\x7b') ∧ (write v).toList = c :: tail
  reads : ∀ (fuel : Nat) (rest : List Char), (write v).toList.length ≤ fuel →
    readValue fuel ((write v).toList ++ rest) = .ok (v, rest)

namespace ReadsBack

theorem skipSpace_write {v : Value} (h : ReadsBack v) (rest : List Char) :
    skipSpace ((write v).toList ++ rest) = (write v).toList ++ rest := by
  obtain ⟨c, tail, hc, hwrite⟩ := h.opens
  rw [hwrite]
  rcases hc with rfl | rfl <;> exact skipSpace_cons (by decide) _

/-- A text is read back. -/
theorem text (s : String) : ReadsBack (.text s) where
  opens := ⟨'"', s.toList.flatMap writeChar ++ ['"'], .inl rfl, by
    simp only [write, toList_writeString]⟩
  reads fuel rest hfuel := by
    simp only [write, toList_writeString, List.length_cons] at hfuel ⊢
    obtain ⟨k, rfl⟩ : ∃ k, fuel = k + 1 := ⟨fuel - 1, by omega⟩
    rw [List.cons_append, List.append_assoc, List.singleton_append]
    simp only [readValue, readString_text]
    rfl

end ReadsBack

/-- What the reader of entries does behind an entry. -/
def readOn (fuel : Nat) (entries : List (Value × Value)) :
    List Char → Except Fault (Value × List Char)
  | '\x7d' :: tail => .ok (Value.ofPairs entries.reverse, tail)
  | ',' :: tail => readMembers fuel entries (skipSpace tail)
  | left => .error (.malformed .commaExpected left)

/-- **One entry is read**: its name, then its value, and what follows tells whether it is the
    last. -/
theorem readMembers_step {field : String × Value} (h : ReadsBack field.2) {fuel : Nat}
    (hfuel : (write field.2).toList.length ≤ fuel) (acc : List (Value × Value))
    (rest : List Char) :
    readMembers (fuel + 1) acc (writtenField field ++ rest) =
      readOn fuel ((.text field.1, field.2) :: acc) (skipSpace rest) := by
  have hcolon : ∀ s : List Char, skipSpace (':' :: s) = ':' :: s := skipSpace_cons (by decide)
  have hblank : ∀ s : List Char, skipSpace (' ' :: s) = skipSpace s := fun _ => rfl
  have hvalue := h.reads fuel rest hfuel
  simp only [writtenField, List.cons_append, List.append_assoc, readMembers, readString_text]
  simp only [bind, Except.bind, hcolon, hblank, h.skipSpace_write, hvalue]
  rfl

/-- **Entries are read back** when their values are. -/
theorem readMembers_written : ∀ {fields : List (String × Value)}, fields ≠ [] →
    (∀ field ∈ fields, ReadsBack field.2) → ∀ (fuel : Nat) (acc : List (Value × Value))
      (rest : List Char), (writtenFields fields).length ≤ fuel →
        readMembers fuel acc (writtenFields fields ++ '\x7d' :: rest) =
          .ok (Value.ofPairs (acc.reverse ++ named fields), rest)
  | [field], _, h, fuel, acc, rest, hfuel => by
    have hvalue := h field List.mem_cons_self
    simp only [writtenFields_single, writtenField, List.length_cons, List.length_append] at hfuel
    obtain ⟨k, rfl⟩ : ∃ k, fuel = k + 1 := ⟨fuel - 1, by omega⟩
    rw [writtenFields_single, readMembers_step hvalue (by omega), skipSpace_cons (by decide),
      readOn, List.reverse_cons]
    rfl
  | field :: next :: more, _, h, fuel, acc, rest, hfuel => by
    -- an entry uses up one call, and more characters than that are written for it
    have hvalue := h field List.mem_cons_self
    have hmore : ∀ f ∈ next :: more, ReadsBack f.2 := fun f hf => h f (List.mem_cons_of_mem _ hf)
    have hopens : ∀ s : List Char, skipSpace (' ' :: (writtenFields (next :: more) ++ s)) =
        writtenFields (next :: more) ++ s := by
      obtain ⟨tail, htail⟩ := writtenFields_opens next more
      rw [htail]
      exact fun _ => rfl
    simp only [writtenFields_cons, writtenField, List.length_cons, List.length_append] at hfuel
    obtain ⟨k, rfl⟩ : ∃ k, fuel = k + 1 := ⟨fuel - 1, by omega⟩
    rw [writtenFields_cons, List.append_assoc, readMembers_step hvalue (by omega),
      List.cons_append, List.cons_append, skipSpace_cons (by decide), readOn, hopens,
      readMembers_written (List.cons_ne_nil _ _) hmore k _ rest (by omega),
      List.reverse_cons, List.append_assoc]
    rfl

/-- **A record is read back** when its names are distinct and its values are read back. -/
theorem ReadsBack.record {fields : List (String × Value)}
    (hdistinct : (Entries.names fields).Nodup) (h : ∀ field ∈ fields, ReadsBack field.2) :
    ReadsBack (.record fields) where
  opens := ⟨'\x7b', _, .inr rfl, toList_write_record fields⟩
  reads fuel rest hfuel := by
    rw [toList_write_record, List.length_cons, List.length_append] at hfuel
    obtain ⟨k, rfl⟩ : ∃ k, fuel = k + 1 := ⟨fuel - 1, by omega⟩
    rw [toList_write_record, List.cons_append, List.append_assoc, List.singleton_append]
    cases fields with
    | nil => rfl
    | cons field more =>
      have hmembers := readMembers_written (List.cons_ne_nil field more) h k [] rest (by omega)
      rw [List.reverse_nil, List.nil_append, ofPairs_of_nodup hdistinct] at hmembers
      obtain ⟨tail, htail⟩ := writtenFields_opens field more
      rw [htail] at hmembers ⊢
      simp only [readValue, List.cons_append, skipSpace_cons (show isSpace '"' = false by decide)]
      exact hmembers

/-- The values that are made of texts alone: texts, and records of such values with distinct
    names. -/
inductive MadeOfTexts : Value → Prop where
  | text (s : String) : MadeOfTexts (.text s)
  | record {fields : List (String × Value)} (distinct : (Entries.names fields).Nodup)
      (values : ∀ field ∈ fields, MadeOfTexts field.2) : MadeOfTexts (.record fields)

theorem MadeOfTexts.readsBack {v : Value} (h : MadeOfTexts v) : ReadsBack v := by
  induction h with
  | text s => exact .text s
  | record distinct _ ih => exact .record distinct ih

/-- **What is written reads back.** -/
theorem read_write {v : Value} (h : MadeOfTexts v) : read (write v).toList = .ok v := by
  have hreads := h.readsBack
  obtain ⟨c, tail, hc, hwrite⟩ := hreads.opens
  have hmark : ((write v).toList.head? == some '\uFEFF') = false := by
    rw [hwrite]
    rcases hc with rfl | rfl <;> rfl
  have hspace := hreads.skipSpace_write []
  have hvalue := hreads.reads (2 * (write v).toList.length + 2) [] (by omega)
  rw [List.append_nil] at hspace hvalue
  rw [read, hmark, hspace, hvalue]
  rfl

theorem isPrintable_of_mem_writtenField {field : String × Value} {c : Char}
    (h : ∀ c ∈ (write field.2).toList, IsPrintable c) (hc : c ∈ writtenField field) :
    IsPrintable c := by
  have hmarks : IsPrintable '"' ∧ IsPrintable ':' ∧ IsPrintable ' ' := by decide
  rw [writtenField, List.mem_cons, List.mem_append, List.mem_flatMap, List.mem_cons, List.mem_cons,
    List.mem_cons] at hc
  rcases hc with rfl | ⟨d, _, hd⟩ | rfl | rfl | rfl | hc
  · exact hmarks.1
  · exact isPrintable_of_mem_writeChar hd
  · exact hmarks.1
  · exact hmarks.2.1
  · exact hmarks.2.2
  · exact h c hc

/-- Where no value is written with a control character, the entries are not either. -/
theorem isPrintable_of_mem_writtenFields {c : Char} : ∀ {fields : List (String × Value)},
    (∀ field ∈ fields, ∀ c ∈ (write field.2).toList, IsPrintable c) →
      c ∈ writtenFields fields → IsPrintable c
  | [], _, hc => by cases hc
  | [field], h, hc => by
    rw [writtenFields_single] at hc
    exact isPrintable_of_mem_writtenField (h field List.mem_cons_self) hc
  | field :: next :: more, h, hc => by
    have hseparator : IsPrintable ',' ∧ IsPrintable ' ' := by decide
    have hmore : ∀ f ∈ next :: more, ∀ c ∈ (write f.2).toList, IsPrintable c :=
      fun f hf => h f (List.mem_cons_of_mem _ hf)
    rw [writtenFields_cons, List.mem_append, List.mem_cons, List.mem_cons] at hc
    rcases hc with hc | rfl | rfl | hc
    · exact isPrintable_of_mem_writtenField (h field List.mem_cons_self) hc
    · exact hseparator.1
    · exact hseparator.2
    · exact isPrintable_of_mem_writtenFields hmore hc

/-- **No control character is written.** -/
theorem isPrintable_of_mem_write {v : Value} (h : MadeOfTexts v) :
    ∀ c ∈ (write v).toList, IsPrintable c := by
  induction h with
  | text s =>
    intro c hc
    simp only [write] at hc
    exact isPrintable_of_mem_writeString hc
  | @record fields _ _ ih =>
    have hbrace : IsPrintable '\x7b' ∧ IsPrintable '\x7d' := by decide
    intro c hc
    rw [toList_write_record, List.mem_cons, List.mem_append, List.mem_singleton] at hc
    rcases hc with rfl | hc | rfl
    · exact hbrace.1
    · exact isPrintable_of_mem_writtenFields ih hc
    · exact hbrace.2

end Reconcile.Json
