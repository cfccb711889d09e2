import Reconcile.Decimal.Shapes
import Reconcile.Proofs.Decimal.Grammar

/-!
# The grammar of number shapes

What is a number in the wide sense, an integer and a float, said without going through the text:
parts that stand one after the other, each in a form of its own. The four shapes of numbers lie in
one another as far as their parts do.

* `typeLetters`, `TypeLetter`, `NumberEnd`, `WideMantissa`, `Hexadecimal`, `SomeDigits`: the parts;
* `Signed`, **`WideNumber`**, `IntegerShape`, `FloatShape`: the shapes;
* `endsNumber_iff`, `isWideDecimal_iff`, `isHexadecimal_iff`: the reader of each part;
* `takeSign_iff`: a test behind an optional sign;
* **`isNumber_iff`**, `isInteger_iff`, `isFloat_iff`: what the three tests accept;
* `Denotes.wide`, `FloatShape.wide`, `IntegerShape.plain`, `FloatShape.plain`: what lies in what.
-/

namespace Reconcile.Decimal

open Reconcile.Text

/-! ## 1. Grammar -/

/-- The letters that tell the type of a number. -/
def typeLetters : List Char := ['f', 'F', 'd', 'D', 'l', 'L']

/-- An optional type letter. -/
inductive TypeLetter : List Char → Prop where
  | none : TypeLetter []
  | written {c : Char} (h : c ∈ typeLetters) : TypeLetter [c]

/-- What may stand behind the digits: an optional exponent and an optional type letter. -/
inductive NumberEnd : List Char → Prop where
  | mk {es ts : List Char} {e : Int} (he : Exponent es e) (ht : TypeLetter ts) :
    NumberEnd (es ++ ts)

/-- Digits, or a point or comma with digits on one side at least. -/
inductive WideMantissa : List Char → Prop where
  | whole {cs : List Char} {ds : List Nat} (h : Digits cs ds) (hsome : ds ≠ []) : WideMantissa cs
  | pointed {cs fs : List Char} {c : Char} {ds es : List Nat} (h : Digits cs ds)
    (hc : isPoint c = true) (hfraction : Digits fs es) (hsome : ds ≠ [] ∨ es ≠ []) :
    WideMantissa (cs ++ c :: fs)

/-- Hexadecimal digits behind their mark, with an optional letter of a long number. -/
inductive Hexadecimal : List Char → Prop where
  | mk {x : Char} {cs ls : List Char} (hx : x = 'x' ∨ x = 'X') (h : ∀ c ∈ cs, isHexDigit c = true)
    (hsome : cs ≠ []) (hl : ls ∈ [[], ['l'], ['L']]) : Hexadecimal ('0' :: x :: (cs ++ ls))

/-- Digits, one at least. -/
inductive SomeDigits : List Char → Prop where
  | mk {cs : List Char} {ds : List Nat} (h : Digits cs ds) (hsome : ds ≠ []) : SomeDigits cs

/-- Digits on both sides of a point or comma. -/
inductive UnsignedFloat : List Char → Prop where
  | mk {cs fs : List Char} {c : Char} (h : SomeDigits cs) (hc : isPoint c = true)
    (hfraction : SomeDigits fs) : UnsignedFloat (cs ++ c :: fs)

/-- A decimal with its end, or a hexadecimal number. -/
inductive UnsignedNumber : List Char → Prop where
  | decimal {ms ts : List Char} (hm : WideMantissa ms) (ht : NumberEnd ts) :
    UnsignedNumber (ms ++ ts)
  | hexadecimal {hs : List Char} (h : Hexadecimal hs) : UnsignedNumber hs

/-- A text of a language with an optional sign before it. -/
inductive Signed (L : List Char → Prop) : List Char → Prop where
  | mk {ss body : List Char} {minus : Bool} (hs : IsSign ss minus) (h : L body) :
    Signed L (ss ++ body)

/-- A number in the wide sense. -/
def WideNumber : List Char → Prop := Signed UnsignedNumber

/-- An integer: digits with an optional sign. -/
def IntegerShape : List Char → Prop := Signed SomeDigits

/-- A float: digits on both sides of a point or comma, with an optional sign. -/
def FloatShape : List Char → Prop := Signed UnsignedFloat

/-! ## 2. First characters -/

theorem isPoint_cases {c : Char} (h : isPoint c = true) : c = '.' ∨ c = ',' := by
  simpa [isPoint] using h

/-- Neither a point nor a comma is a digit. -/
theorem digitValue?_of_isPoint {c : Char} (h : isPoint c = true) : digitValue? c = none := by
  rcases isPoint_cases h with rfl | rfl <;> rfl

/-- A type letter is none of the characters that plain numbers are made of, and no comma; it may end
    a number by itself. -/
theorem of_mem_typeLetters {c : Char} (h : c ∈ typeLetters) :
    digitValue? c = none ∧ isPoint c = false ∧ isNumeral c = false ∧ endsNumber [c] = true := by
  have hall : (typeLetters.all fun c => digitValue? c = none ∧ isPoint c = false ∧
      isNumeral c = false ∧ endsNumber [c] = true) = true := by decide
  exact of_decide_eq_true (List.all_eq_true.mp hall c h)

theorem noDigit_typeLetter {ts : List Char} (h : TypeLetter ts) : NoDigit ts := by
  cases h with
  | none => exact nofun
  | written h => exact noDigit_cons (of_mem_typeLetters h).1

/-- The end of a number begins with no digit, and with no point or comma. -/
theorem NumberEnd.head {ts : List Char} (h : NumberEnd ts) :
    ∀ c ∈ ts.head?, digitValue? c = none ∧ isPoint c = false := by
  obtain ⟨he, ht⟩ := h
  rcases he.cases_head with rfl | ⟨c, rest, rfl, hc⟩
  · cases ht with
    | none => exact nofun
    | written h =>
      rintro c hc
      obtain rfl := Option.mem_some_iff.mp hc
      exact ⟨(of_mem_typeLetters h).1, (of_mem_typeLetters h).2.1⟩
  · rintro d hd
    obtain rfl : c = d := Option.mem_some_iff.mp hd
    rcases hc with rfl | rfl <;> exact ⟨rfl, rfl⟩

theorem NumberEnd.noDigit {ts : List Char} (h : NumberEnd ts) : NoDigit ts :=
  fun c hc => (h.head c hc).1

/-- Digits begin with no sign, and neither does a point or a comma. -/
theorem WideMantissa.noSign {ms : List Char} (h : WideMantissa ms) (rest : List Char) :
    NoSign (ms ++ rest) := by
  cases h with
  | whole hcs hsome => exact noSign_digits hcs hsome
  | @pointed cs fs c ds es hcs hc _ _ =>
    rw [List.append_assoc]
    cases ds with
    | nil =>
      obtain rfl : cs = [] := List.length_eq_zero_iff.mp hcs.length_eq
      intro d hd
      obtain rfl : c = d := Option.mem_some_iff.mp hd
      rcases isPoint_cases hc with rfl | rfl <;> decide
    | cons v vs => exact noSign_digits hcs (List.cons_ne_nil v vs)

theorem UnsignedNumber.noSign {s : List Char} (h : UnsignedNumber s) : NoSign s := by
  cases h with
  | decimal hm _ => exact hm.noSign _
  | hexadecimal h =>
    cases h with
    | mk =>
      intro c hc
      obtain rfl : '0' = c := Option.mem_some_iff.mp hc
      decide

theorem SomeDigits.noSign {cs : List Char} (h : SomeDigits cs) : NoSign cs := by
  obtain ⟨hcs, hsome⟩ := h
  have hno : NoSign (cs ++ []) := noSign_digits hcs hsome
  rwa [List.append_nil] at hno

theorem UnsignedFloat.noSign {s : List Char} (h : UnsignedFloat s) : NoSign s := by
  obtain ⟨⟨hcs, hsome⟩, _, _⟩ := h
  exact noSign_digits hcs hsome

/-! ## 3. The reader of each part -/

theorem endsWithType_iff {s : List Char} : endsWithType s = true ↔ TypeLetter s := by
  constructor
  · intro h
    match s, h with
    | [], _ => exact .none
    | [c], h => exact .written (List.contains_iff_mem.mp h)
  · intro h
    cases h with
    | none => rfl
    | written h => exact List.contains_iff_mem.mpr h

theorem endsNumber_iff {s : List Char} : endsNumber s = true ↔ NumberEnd s := by
  constructor
  · intro h
    cases s with
    | nil => exact .mk .none .none
    | cons c rest =>
      unfold endsNumber at h
      dsimp only at h
      split at h
      · rename_i hletter
        rcases htake : takeSign rest with ⟨minus, body⟩
        obtain ⟨ss, rfl, hs⟩ := exists_of_takeSign htake
        rw [htake] at h
        dsimp only at h
        split at h
        · cases h
        · rename_i ds tail hsome hspan
          obtain ⟨cs, rfl, hcs⟩ := exists_of_spanDigits hspan
          have hwritten := Exponent.written (by simpa using hletter) hs hcs hsome
          have hend := NumberEnd.mk hwritten (endsWithType_iff.mp h)
          rwa [List.cons_append, List.append_assoc] at hend
      · exact .mk .none (endsWithType_iff.mp h)
  · rintro ⟨he, ht⟩
    cases he with
    | none =>
      cases ht with
      | none => rfl
      | written h => exact (of_mem_typeLetters h).2.2.2
    | @written c ss cs minus ds hc hs hcs hsome =>
      have hletter : (c == 'e' || c == 'E') = true := by simpa using hc
      rw [List.cons_append, List.append_assoc]
      unfold endsNumber
      dsimp only
      rw [if_pos hletter, takeSign_append hs (noSign_digits hcs hsome)]
      dsimp only
      rw [spanDigits_append (noDigit_typeLetter ht) hcs]
      cases ds with
      | nil => exact absurd rfl hsome
      | cons v vs => exact endsWithType_iff.mpr ht

/-- The reader of unsigned decimals accepts a mantissa with the end of a number behind it. -/
theorem isWideDecimal_iff {s : List Char} :
    isWideDecimal s = true ↔ ∃ ms ts, s = ms ++ ts ∧ WideMantissa ms ∧ NumberEnd ts := by
  constructor
  · intro h
    unfold isWideDecimal at h
    split at h
    · -- a point at the front
      rename_i c rest hwhole
      obtain ⟨cs, rfl, hcs⟩ := exists_of_spanDigits hwhole
      obtain ⟨hc, hrest⟩ := Bool.and_eq_true_iff.mp h
      split at hrest
      · cases hrest
      · rename_i fraction tail hsome hfraction
        obtain ⟨fs, rfl, hfs⟩ := exists_of_spanDigits hfraction
        exact ⟨cs ++ c :: fs, tail, by rw [List.append_assoc, List.cons_append],
          .pointed hcs hc hfs (.inr hsome), endsNumber_iff.mp hrest⟩
    · cases h
    · rename_i whole c rest hsome hwhole
      obtain ⟨cs, rfl, hcs⟩ := exists_of_spanDigits hwhole
      split at h
      · -- a point behind digits
        rename_i hc
        rcases hfraction : spanDigits rest with ⟨fraction, tail⟩
        obtain ⟨fs, rfl, hfs⟩ := exists_of_spanDigits hfraction
        rw [hfraction] at h
        exact ⟨cs ++ c :: fs, tail, by rw [List.append_assoc, List.cons_append],
          .pointed hcs hc hfs (.inl hsome), endsNumber_iff.mp h⟩
      · exact ⟨cs, c :: rest, rfl, .whole hcs hsome, endsNumber_iff.mp h⟩
    · rename_i whole hsome hwhole
      obtain ⟨cs, rfl, hcs⟩ := exists_of_spanDigits hwhole
      exact ⟨cs, [], rfl, .whole hcs hsome, .mk .none .none⟩
  · rintro ⟨ms, ts, rfl, hm, ht⟩
    unfold isWideDecimal
    cases hm with
    | @whole cs ds hcs hsome =>
      rw [spanDigits_append ht.noDigit hcs]
      cases ds with
      | nil => exact absurd rfl hsome
      | cons v vs =>
        cases ts with
        | nil => rfl
        | cons c rest =>
          dsimp only
          rw [(ht.head c rfl).2, if_neg Bool.false_ne_true]
          exact endsNumber_iff.mpr ht
    | @pointed cs fs c ds es hcs hc hfs hsome =>
      rw [List.append_assoc, List.cons_append,
        spanDigits_append (noDigit_cons (digitValue?_of_isPoint hc)) hcs]
      cases ds with
      | nil =>
        dsimp only
        rw [hc, spanDigits_append ht.noDigit hfs, Bool.true_and]
        cases es with
        | nil => exact absurd rfl (hsome.resolve_left (· rfl))
        | cons v vs => exact endsNumber_iff.mpr ht
      | cons v vs =>
        dsimp only
        rw [if_pos hc, spanDigits_append ht.noDigit hfs]
        exact endsNumber_iff.mpr ht

theorem isHexadecimal_iff {s : List Char} : isHexadecimal s = true ↔ Hexadecimal s := by
  constructor
  · intro h
    unfold isHexadecimal at h
    split at h
    · rename_i x rest
      rw [Bool.and_eq_true, Bool.and_eq_true] at h
      obtain ⟨⟨hx, hhead⟩, hlong⟩ := h
      rw [← List.takeWhile_append_dropWhile (p := isHexDigit) (l := rest)]
      refine .mk (by simpa using hx) (fun c hc => List.mem_takeWhile_imp hc) ?_ ?_
      · cases rest with
        | nil => cases hhead
        | cons c rest =>
          have hc : isHexDigit c = true := hhead
          rw [List.takeWhile_cons_of_pos hc]
          exact List.cons_ne_nil _ _
      · split at hlong
        · rename_i hdrop
          rw [hdrop]
          exact List.mem_cons_self
        · rename_i c hdrop
          rw [hdrop]
          simpa using hlong
        · cases hlong
    · cases h
  · rintro ⟨hx, hcs, hsome, hl⟩
    rename_i x cs ls
    have hhead : (cs ++ ls).head?.any isHexDigit = true := by
      cases cs with
      | nil => exact absurd rfl hsome
      | cons c cs => exact hcs c List.mem_cons_self
    have hdrop : (cs ++ ls).dropWhile isHexDigit = ls := by
      have hall : ∀ ls ∈ [[], ['l'], ['L']], List.dropWhile isHexDigit ls = ls := by decide
      rw [List.dropWhile_append_of_pos hcs, hall ls hl]
    rw [isHexadecimal, hhead, hdrop, Bool.and_true, Bool.and_eq_true]
    refine ⟨by simpa using hx, ?_⟩
    simp only [List.mem_cons, List.not_mem_nil, or_false] at hl
    rcases hl with rfl | rfl | rfl <;> rfl

/-- Digits are read to their end. -/
theorem spanDigits_eq_iff {s : List Char} {ds : List Nat} :
    spanDigits s = (ds, []) ↔ Digits s ds := by
  constructor
  · intro h
    obtain ⟨cs, hs, hcs⟩ := exists_of_spanDigits h
    rwa [hs, List.append_nil]
  · intro h
    have hspan := spanDigits_append (show NoDigit [] from nofun) h
    rwa [List.append_nil] at hspan

/-! ## 4. The three tests -/

/-- **A test behind an optional sign** accepts what it accepts by itself, with a sign or without,
    when this begins with no sign. -/
theorem takeSign_iff {test : List Char → Bool} {L : List Char → Prop}
    (htest : ∀ body, test body = true ↔ L body) (hno : ∀ body, L body → NoSign body)
    (s : List Char) : test (takeSign s).2 = true ↔ Signed L s := by
  constructor
  · rcases htake : takeSign s with ⟨minus, body⟩
    obtain ⟨ss, rfl, hs⟩ := exists_of_takeSign htake
    exact fun h => .mk hs ((htest body).mp h)
  · intro h
    obtain ⟨hs, hbody⟩ := h
    rw [takeSign_append hs (hno _ hbody)]
    exact (htest _).mpr hbody

theorem unsignedNumber_iff {body : List Char} :
    (isWideDecimal body || isHexadecimal body) = true ↔ UnsignedNumber body := by
  rw [Bool.or_eq_true, isWideDecimal_iff, isHexadecimal_iff]
  constructor
  · intro h
    rcases h with ⟨ms, ts, rfl, hm, ht⟩ | h
    · exact .decimal hm ht
    · exact .hexadecimal h
  · intro h
    cases h with
    | decimal hm ht => exact .inl ⟨_, _, rfl, hm, ht⟩
    | hexadecimal h => exact .inr h

theorem someDigits_iff {body : List Char} : (match spanDigits body with
    | (_ :: _, []) => true
    | _ => false) = true ↔ SomeDigits body := by
  constructor
  · intro h
    split at h
    · rename_i v vs hspan
      exact .mk (spanDigits_eq_iff.mp hspan) (List.cons_ne_nil v vs)
    · cases h
  · intro h
    cases h with
    | @mk ds hcs hsome =>
      rw [spanDigits_eq_iff.mpr hcs]
      cases ds with
      | nil => exact absurd rfl hsome
      | cons v vs => rfl

theorem unsignedFloat_iff {body : List Char} : (match spanDigits body with
    | (_ :: _, c :: rest) =>
      isPoint c && (match spanDigits rest with
        | (_ :: _, []) => true
        | _ => false)
    | _ => false) = true ↔ UnsignedFloat body := by
  constructor
  · intro h
    split at h
    · rename_i v vs c rest hwhole
      obtain ⟨cs, rfl, hcs⟩ := exists_of_spanDigits hwhole
      obtain ⟨hc, hrest⟩ := Bool.and_eq_true_iff.mp h
      exact .mk (.mk hcs (List.cons_ne_nil v vs)) hc (someDigits_iff.mp hrest)
    · cases h
  · intro h
    cases h with
    | mk hcs hc hfs =>
      obtain ⟨hcs, hsome⟩ := hcs
      rename_i ds
      rw [spanDigits_append (noDigit_cons (digitValue?_of_isPoint hc)) hcs]
      cases ds with
      | nil => exact absurd rfl hsome
      | cons v vs => exact Bool.and_eq_true_iff.mpr ⟨hc, someDigits_iff.mpr hfs⟩

/-- **The test for numbers** accepts exactly the numbers in the wide sense. -/
theorem isNumber_iff {s : String} : isNumber s = true ↔ WideNumber s.toList :=
  takeSign_iff (fun _ => unsignedNumber_iff) (fun _ => UnsignedNumber.noSign) s.toList

theorem isInteger_iff {s : String} : isInteger s = true ↔ IntegerShape s.toList :=
  takeSign_iff (fun _ => someDigits_iff) (fun _ => SomeDigits.noSign) s.toList

theorem isFloat_iff {s : String} : isFloat s = true ↔ FloatShape s.toList :=
  takeSign_iff (fun _ => unsignedFloat_iff) (fun _ => UnsignedFloat.noSign) s.toList

/-- No text is an integer and a float: nothing follows the digits of an integer. -/
theorem isFloat_of_isInteger {s : String} (h : isInteger s = true) : isFloat s = false := by
  unfold isInteger at h
  unfold isFloat
  split at h
  · rename_i hspan
    rw [hspan]
  · cases h

/-! ## 5. What lies in what -/

theorem Mantissa.wide {ms : List Char} {whole fraction : List Nat}
    (h : Mantissa ms whole fraction) : WideMantissa ms := by
  cases h with
  | whole hcs hsome => exact .whole hcs hsome
  | pointed hcs hfs hsome => exact .pointed hcs rfl hfs (.inr hsome)

/-- **A plain number is a number in the wide sense**, with a type letter behind it or without. -/
theorem Denotes.wide {s ts : List Char} {d : Decimal} (h : Denotes s d) (ht : TypeLetter ts) :
    WideNumber (s ++ ts) := by
  cases h with
  | mk hs hm he =>
    rw [List.append_assoc, List.append_assoc]
    exact .mk hs (.decimal hm.wide (.mk he ht))

/-- A plain number is made of other characters than type letters, so none stands at its end. -/
theorem Denotes.not_letter {s : List Char} {q : Char} (hq : q ∈ typeLetters) (d : Decimal) :
    ¬ Denotes (s ++ [q]) d := by
  intro h
  have hnumeral : isNumeral q = true :=
    readPlain_numeral (readPlain_of_denotes h) q (List.mem_append_right s List.mem_cons_self)
  rw [(of_mem_typeLetters hq).2.2.1] at hnumeral
  cases hnumeral

/-- An integer is a plain number. -/
theorem IntegerShape.plain {s : List Char} (h : IntegerShape s) : ∃ d, Denotes s d := by
  obtain ⟨hs, hcs, hsome⟩ := h
  have hdenotes := Denotes.mk hs (.whole hcs hsome) .none
  rw [List.append_nil] at hdenotes
  exact ⟨_, hdenotes⟩

/-- A float is a number in the wide sense. -/
theorem FloatShape.wide {s : List Char} (h : FloatShape s) : WideNumber s := by
  obtain ⟨hs, ⟨hcs, hsome⟩, hc, ⟨hfs, hfsome⟩⟩ := h
  have hnumber := UnsignedNumber.decimal (.pointed hcs hc hfs (.inl hsome)) (.mk .none .none)
  rw [List.append_nil, List.append_nil] at hnumber
  exact .mk hs hnumber

/-- A float without a comma has a point, and is a plain number. -/
theorem FloatShape.plain {s : List Char} (h : FloatShape s) (hcomma : ',' ∉ s) :
    ∃ d, Denotes s d := by
  obtain ⟨hs, ⟨hcs, hsome⟩, hc, ⟨hfs, hfsome⟩⟩ := h
  rcases isPoint_cases hc with rfl | rfl
  · have hdenotes := Denotes.mk hs (.pointed hcs hfs hfsome) .none
    rw [List.append_nil] at hdenotes
    exact ⟨_, hdenotes⟩
  · refine absurd ?_ hcomma
    exact List.mem_append_right _ (List.mem_append_right _ List.mem_cons_self)

theorem isPlain_iff {s : String} : isPlain s = true ↔ ∃ d, Denotes s.toList d := by
  rw [isPlain, Option.isSome_iff_exists]
  exact exists_congr fun d => readPlain_iff

end Reconcile.Decimal
