import Reconcile.Proofs.Decimal.WrittenIntegers

/-!
# The grammar of plain numbers

What a plain number looks like and which decimal it denotes, said without a reader: an optional
sign, digits of any script with an optional fraction, and an optional exponent.

* `IsSign`, `Mantissa`, `Exponent`: the parts, each with what it stands for;
* **`Denotes`**: a text that is a plain number, and its decimal, with all digits that are written;
* `spanDigits_append`, `takeSign_append`, `readExponent_iff`: the reader of each part;
* **`readPlain_iff`**: the reader accepts exactly what the grammar says, and reads what it denotes.
-/

namespace Reconcile.Decimal

open Reconcile.Text

/-! ## 1. Grammar -/

/-- A text of digits, with their values. -/
def Digits (cs : List Char) (ds : List Nat) : Prop := cs.map digitValue? = ds.map some

/-- An optional sign, and whether it is a minus. -/
inductive IsSign : List Char → Bool → Prop where
  | none : IsSign [] false
  | plus : IsSign ['+'] false
  | minus : IsSign ['-'] true

/-- Digits before and behind the point: some digits without a point, or a point with some digits
    behind it. -/
inductive Mantissa : List Char → List Nat → List Nat → Prop where
  | whole {cs : List Char} {ds : List Nat} (h : Digits cs ds) (hsome : ds ≠ []) : Mantissa cs ds []
  | pointed {cs fs : List Char} {ds es : List Nat} (h : Digits cs ds) (hfraction : Digits fs es)
    (hsome : es ≠ []) : Mantissa (cs ++ '.' :: fs) ds es

/-- An optional exponent, and its value. -/
inductive Exponent : List Char → Int → Prop where
  | none : Exponent [] 0
  | written {c : Char} {ss cs : List Char} {minus : Bool} {ds : List Nat} (hc : c = 'e' ∨ c = 'E')
    (hs : IsSign ss minus) (h : Digits cs ds) (hsome : ds ≠ []) :
    Exponent (c :: (ss ++ cs)) (if minus then -(ofDigits ds : Int) else ofDigits ds)

/-- A text is a plain number and denotes a decimal: its coefficient has all digits that are written,
    and its exponent puts the point where it stands. -/
inductive Denotes : List Char → Decimal → Prop where
  | mk {ss ms es : List Char} {minus : Bool} {whole fraction : List Nat} {e : Int}
    (hs : IsSign ss minus) (hm : Mantissa ms whole fraction) (he : Exponent es e) :
    Denotes (ss ++ (ms ++ es)) ⟨minus, ofDigits (whole ++ fraction), e - fraction.length⟩

/-! ## 2. Digits -/

theorem digits_cons {c : Char} {cs : List Char} {d : Nat} {ds : List Nat} :
    Digits (c :: cs) (d :: ds) ↔ digitValue? c = some d ∧ Digits cs ds := by
  rw [Digits, List.map_cons, List.map_cons, List.cons.injEq]
  rfl

theorem Digits.length_eq {cs : List Char} {ds : List Nat} (h : Digits cs ds) :
    cs.length = ds.length := by
  have hlength := congrArg List.length h
  rwa [List.length_map, List.length_map] at hlength

theorem Digits.append {cs fs : List Char} {ds es : List Nat} (h : Digits cs ds)
    (hf : Digits fs es) : Digits (cs ++ fs) (ds ++ es) := by
  rw [Digits, List.map_append, List.map_append, h, hf]

/-- A text that does not begin with a digit. -/
def NoDigit (s : List Char) : Prop := ∀ c ∈ s.head?, digitValue? c = none

theorem noDigit_cons {c : Char} {s : List Char} (h : digitValue? c = none) : NoDigit (c :: s) :=
  fun _ hd => Option.mem_some_iff.mp hd ▸ h

/-- Digits before something else are the run of digits at the front. -/
theorem spanDigits_append {tail : List Char} (ht : NoDigit tail) :
    ∀ {cs : List Char} {ds : List Nat}, Digits cs ds → spanDigits (cs ++ tail) = (ds, tail)
  | [], [], _ => by
    cases tail with
    | nil => rfl
    | cons c rest => rw [List.nil_append, spanDigits, ht c rfl]
  | c :: cs, d :: ds, h => by
    obtain ⟨hc, hcs⟩ := digits_cons.mp h
    rw [List.cons_append, spanDigits, hc]
    dsimp only
    rw [spanDigits_append ht hcs]

/-- The run of digits at the front is made of digits, and the rest follows them. -/
theorem exists_of_spanDigits : ∀ {s tail : List Char} {ds : List Nat}, spanDigits s = (ds, tail) →
    ∃ cs, s = cs ++ tail ∧ Digits cs ds
  | [], _, _, h => by
    obtain ⟨rfl, rfl⟩ := Prod.mk.inj h
    exact ⟨[], rfl, rfl⟩
  | c :: rest, tail, ds, h => by
    rw [spanDigits] at h
    cases hdigit : digitValue? c with
    | none =>
      rw [hdigit] at h
      obtain ⟨rfl, rfl⟩ := Prod.mk.inj h
      exact ⟨[], rfl, rfl⟩
    | some v =>
      rw [hdigit] at h
      obtain ⟨rfl, rfl⟩ := Prod.mk.inj h
      obtain ⟨cs, hrest, hcs⟩ := exists_of_spanDigits (s := rest) rfl
      exact ⟨c :: cs, congrArg (c :: ·) hrest, digits_cons.mpr ⟨hdigit, hcs⟩⟩

/-! ## 3. The reader of each part -/

/-- A text that does not begin with a sign. -/
def NoSign (s : List Char) : Prop := ∀ c ∈ s.head?, c ≠ '+' ∧ c ≠ '-'

/-- A digit is no sign. -/
theorem noSign_digits {cs rest : List Char} {ds : List Nat} (h : Digits cs ds) (hsome : ds ≠ []) :
    NoSign (cs ++ rest) := by
  cases cs with
  | nil => exact absurd (List.length_eq_zero_iff.mp h.length_eq.symm) hsome
  | cons c cs =>
    cases ds with
    | nil => exact absurd rfl hsome
    | cons d ds =>
      intro a ha
      obtain rfl : c = a := Option.mem_some_iff.mp ha
      have hc := (digits_cons.mp h).1
      refine ⟨?_, ?_⟩
      · rintro rfl
        cases hc
      · rintro rfl
        cases hc

/-- A sign at the front is taken off. -/
theorem takeSign_append {ss body : List Char} {minus : Bool} (hs : IsSign ss minus)
    (hbody : NoSign body) : takeSign (ss ++ body) = (minus, body) := by
  cases hs with
  | plus => rfl
  | minus => rfl
  | none =>
    rw [List.nil_append]
    unfold takeSign
    split
    · exact absurd rfl (hbody '+' rfl).1
    · exact absurd rfl (hbody '-' rfl).2
    · rfl

/-- What is taken off is a sign. -/
theorem exists_of_takeSign {s body : List Char} {minus : Bool} (h : takeSign s = (minus, body)) :
    ∃ ss, s = ss ++ body ∧ IsSign ss minus := by
  unfold takeSign at h
  split at h
  · obtain ⟨rfl, rfl⟩ := Prod.mk.inj h
    exact ⟨['+'], rfl, .plus⟩
  · obtain ⟨rfl, rfl⟩ := Prod.mk.inj h
    exact ⟨['-'], rfl, .minus⟩
  · obtain ⟨rfl, rfl⟩ := Prod.mk.inj h
    exact ⟨[], rfl, .none⟩

/-- **The reader of exponents** reads exactly what is one. -/
theorem readExponent_iff {s : List Char} {e : Int} : readExponent s = some e ↔ Exponent s e := by
  constructor
  · intro h
    cases s with
    | nil =>
      obtain rfl : 0 = e := Option.some.inj h
      exact .none
    | cons c rest =>
      unfold readExponent at h
      dsimp only at h
      split at h
      · rename_i hletter
        have hc : c = 'e' ∨ c = 'E' := by simpa using hletter
        rcases htake : takeSign rest with ⟨minus, body⟩
        obtain ⟨ss, rfl, hs⟩ := exists_of_takeSign htake
        rw [htake] at h
        dsimp only at h
        split at h
        · cases h
        · rename_i ds hsome hspan
          obtain ⟨cs, rfl, hdigits⟩ := exists_of_spanDigits hspan
          obtain rfl := Option.some.inj h
          rw [List.append_nil]
          exact .written hc hs hdigits hsome
        · cases h
      · cases h
  · intro h
    cases h with
    | none => rfl
    | @written c ss cs minus ds hc hs hdigits hsome =>
      have hletter : (c == 'e' || c == 'E') = true := by simpa using hc
      have hspan : spanDigits cs = (ds, []) := by
        have happend := spanDigits_append (show NoDigit [] from nofun) hdigits
        rwa [List.append_nil] at happend
      have hsign : takeSign (ss ++ cs) = (minus, cs) := by
        refine takeSign_append hs ?_
        have hno : NoSign (cs ++ []) := noSign_digits hdigits hsome
        rwa [List.append_nil] at hno
      unfold readExponent
      dsimp only
      rw [if_pos hletter, hsign]
      dsimp only
      rw [hspan]
      cases ds with
      | nil => exact absurd rfl hsome
      | cons d ds => rfl

/-- An exponent begins with a letter, if with anything. -/
theorem Exponent.cases_head {s : List Char} {e : Int} (h : Exponent s e) :
    s = [] ∨ ∃ c rest, s = c :: rest ∧ (c = 'e' ∨ c = 'E') := by
  cases h with
  | none => exact .inl rfl
  | written hc => exact .inr ⟨_, _, rfl, hc⟩

theorem Exponent.noDigit {s : List Char} {e : Int} (h : Exponent s e) : NoDigit s := by
  rcases h.cases_head with rfl | ⟨c, rest, rfl, rfl | rfl⟩
  · exact nofun
  · exact noDigit_cons rfl
  · exact noDigit_cons rfl

/-! ## 4. The reader -/

theorem assemble_eq_some_iff {minus : Bool} {whole fraction : List Nat} {tail : List Char}
    {d : Decimal} : assemble minus whole fraction tail = some d ↔
      ∃ e, Exponent tail e ∧ ⟨minus, ofDigits (whole ++ fraction), e - fraction.length⟩ = d := by
  rw [assemble, Option.map_eq_some_iff]
  simp only [readExponent_iff]

/-- What is read is what the text denotes. -/
theorem denotes_of_readPlain {s : List Char} {d : Decimal} (h : readPlain s = some d) :
    Denotes s d := by
  unfold readPlain at h
  rcases htake : takeSign s with ⟨minus, body⟩
  obtain ⟨ss, rfl, hs⟩ := exists_of_takeSign htake
  rw [htake] at h
  dsimp only at h
  split at h
  · -- a point behind digits, or at the front
    rename_i whole rest hwhole
    obtain ⟨cs, rfl, hcs⟩ := exists_of_spanDigits hwhole
    split at h
    · cases h
    · rename_i fraction tail hsome hfraction
      obtain ⟨fs, rfl, hfs⟩ := exists_of_spanDigits hfraction
      obtain ⟨e, he, rfl⟩ := assemble_eq_some_iff.mp h
      have hm := Mantissa.pointed hcs hfs hsome
      have hdenotes := Denotes.mk hs hm he
      rwa [List.append_assoc] at hdenotes
  · cases h
  · -- digits without a point
    rename_i whole tail hsome hwhole
    obtain ⟨cs, rfl, hcs⟩ := exists_of_spanDigits hwhole
    obtain ⟨e, he, rfl⟩ := assemble_eq_some_iff.mp h
    exact .mk hs (.whole hcs hsome) he

theorem assemble_exponent (minus : Bool) (whole fraction : List Nat) {tail : List Char} {e : Int}
    (he : Exponent tail e) : assemble minus whole fraction tail =
      some ⟨minus, ofDigits (whole ++ fraction), e - fraction.length⟩ :=
  assemble_eq_some_iff.mpr ⟨e, he, rfl⟩

/-- A mantissa begins with a digit or with a point. -/
theorem Mantissa.noSign {ms rest : List Char} {whole fraction : List Nat}
    (h : Mantissa ms whole fraction) : NoSign (ms ++ rest) := by
  cases h with
  | whole hcs hsome => exact noSign_digits hcs hsome
  | @pointed cs fs _ _ hcs _ _ =>
    rw [List.append_assoc]
    cases whole with
    | nil =>
      obtain rfl : cs = [] := List.length_eq_zero_iff.mp hcs.length_eq
      intro c hc
      obtain rfl : '.' = c := Option.mem_some_iff.mp hc
      decide
    | cons v vs => exact noSign_digits hcs (List.cons_ne_nil v vs)

/-- What a text denotes is read. -/
theorem readPlain_of_denotes {s : List Char} {d : Decimal} (h : Denotes s d) :
    readPlain s = some d := by
  cases h with
  | @mk ss ms es minus whole fraction e hs hm he =>
    unfold readPlain
    rw [takeSign_append hs hm.noSign]
    dsimp only
    cases hm with
    | whole hcs hsome =>
      rw [spanDigits_append he.noDigit hcs, ← assemble_exponent minus whole [] he]
      cases whole with
      | nil => exact absurd rfl hsome
      | cons v vs =>
        rcases he.cases_head with rfl | ⟨c, rest, rfl, rfl | rfl⟩ <;> rfl
    | @pointed cs fs _ _ hcs hfs hsome =>
      rw [List.append_assoc, List.cons_append, spanDigits_append (noDigit_cons rfl) hcs]
      simp only []
      rw [spanDigits_append he.noDigit hfs, ← assemble_exponent minus whole fraction he]
      cases fraction with
      | nil => exact absurd rfl hsome
      | cons v vs => rfl

/-- **The reader reads exactly the plain numbers**, each as the decimal that it denotes. -/
theorem readPlain_iff {s : List Char} {d : Decimal} : readPlain s = some d ↔ Denotes s d :=
  ⟨denotes_of_readPlain, readPlain_of_denotes⟩

/-- A text denotes one decimal at most. -/
theorem Denotes.unique {s : List Char} {d e : Decimal} (hd : Denotes s d) (he : Denotes s e) :
    d = e :=
  Option.some.inj ((readPlain_of_denotes hd).symm.trans (readPlain_of_denotes he))

end Reconcile.Decimal
