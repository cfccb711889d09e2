import Reconcile.Pattern.Reader
import Reconcile.Proofs.Decimal.NumberShapes
import Reconcile.Proofs.Pattern.Language

/-!
# Number shapes as patterns

Each shape of numbers is written as a regular pattern as well. The pattern stands for the texts that
are built as its grammar says, part by part.

* `plainPattern`, `numberPattern`, `integerPattern`, `floatPattern`: the patterns;
* `oneOf`, `atLeast`, `optionally`: the nodes that they are made of, and the texts that these take;
* `takes_digits`, `takes_signed`, `takes_exponent`, `takes_mantissaNode`, `takes_hexadecimal`: the
  parts;
* **`plainPattern_standsFor`**, **`numberPattern_standsFor`**, `integerPattern_standsFor`,
  `floatPattern_standsFor`: the patterns.
-/

namespace Reconcile.Decimal

open Reconcile.Text
open Pattern (Node CharSet Repeats)

/-! ## 1. Patterns -/

/-- The pattern of plain numbers. -/
def plainPattern : String := "[+-]?(\\d+(\\.\\d+)?|\\.\\d+)([eE][+-]?\\d+)?"

/-- The pattern of numbers in the wide sense. -/
def numberPattern : String :=
  "[+-]?(\\d+([.,]\\d*)?|[.,]\\d+)([eE][+-]?\\d+)?[fFdDlL]?|[+-]?0[xX][0-9a-fA-F]+[lL]?"

/-- The pattern of integers. -/
def integerPattern : String := "[+-]?\\d+"

/-- The pattern of floats. -/
def floatPattern : String := "[+-]?\\d+[,.]\\d+"

/-- A pattern can be read, is regular, and stands for the texts of a language. -/
def StandsFor (pattern : String) (L : List Char → Prop) : Prop :=
  ∃ n, Pattern.read pattern.toList = .ok n ∧ n.isRegular = true ∧ ∀ w, n.Takes w ↔ L w

/-! ## 2. Nodes -/

/-- One of some characters. -/
def oneOf (cs : List Char) : Node := .one { items := cs.map fun c => .code c.toNat }

/-- Characters of a set, at least as many as the given number. -/
def atLeast (least : Nat) (set : CharSet) : Node := .loop .greedy least none (.one set)

/-- A part or nothing. -/
def optionally (n : Node) : Node := .loop .greedy 0 (some 1) n

def digitSet : CharSet := { items := [.named .digit false] }

def hexSet : CharSet := { items := [.range 48 57, .range 97 102, .range 65 70] }

variable {w : List Char} {n : Node}

theorem takes_oneOf {cs : List Char} : (oneOf cs).Takes w ↔ ∃ c ∈ cs, w = [c] := by
  have hhas : ∀ c : Char, CharSet.has { items := cs.map fun c => .code c.toNat } c = true ↔
      c ∈ cs := fun c => by
    show ((cs.map fun c => Pattern.Item.code c.toNat).any (·.has false [c.toNat] c) != false) =
      true ↔ _
    simp only [Bool.bne_false, List.any_map, List.any_eq_true, Function.comp_apply,
      Pattern.Item.has, List.contains_iff_mem, List.mem_singleton, Char.toNat_inj, exists_eq_right]
  constructor
  · rintro ⟨c, rfl, hc⟩
    exact ⟨c, (hhas c).mp hc, rfl⟩
  · rintro ⟨c, hc, rfl⟩
    exact ⟨c, rfl, (hhas c).mpr hc⟩

theorem takes_optionally : (optionally n).Takes w ↔ w = [] ∨ n.Takes w := by
  constructor
  · rintro ⟨k, hk, hrepeats⟩
    have hle : k ≤ 1 := hk 1 rfl
    obtain rfl | rfl : k = 0 ∨ k = 1 := by omega
    · exact .inl hrepeats
    · obtain ⟨u, v, rfl, hu, hv⟩ := hrepeats
      rw [show v = [] from hv, List.append_nil]
      exact .inr hu
  · rintro (rfl | h)
    · exact ⟨0, fun _ _ => Nat.zero_le _, rfl⟩
    · refine ⟨1, fun m hm => ?_, w, [], (List.append_nil w).symm, h, rfl⟩
      obtain rfl : 1 = m := Option.some.inj hm
      exact le_refl _

/-- A number of characters of a set. -/
theorem repeats_one_iff {set : CharSet} : ∀ {k : Nat} {w : List Char},
    Repeats (Node.one set).Takes k w ↔ w.length = k ∧ ∀ c ∈ w, set.has c = true
  | 0, w => by
    rw [Repeats, List.length_eq_zero_iff]
    constructor
    · rintro rfl
      exact ⟨rfl, nofun⟩
    · exact fun h => h.1
  | k + 1, w => by
    constructor
    · rintro ⟨_, v, rfl, ⟨c, rfl, hc⟩, hv⟩
      obtain ⟨hlength, hall⟩ := repeats_one_iff.mp hv
      exact ⟨congrArg (· + 1) hlength, List.forall_mem_cons.mpr ⟨hc, hall⟩⟩
    · rintro ⟨hlength, hall⟩
      cases w with
      | nil => cases hlength
      | cons c v =>
        obtain ⟨hc, hv⟩ := List.forall_mem_cons.mp hall
        exact ⟨[c], v, rfl, ⟨c, rfl, hc⟩, repeats_one_iff.mpr ⟨Nat.succ.inj hlength, hv⟩⟩

theorem takes_atLeast {least : Nat} {set : CharSet} :
    (atLeast least set).Takes w ↔ least ≤ w.length ∧ ∀ c ∈ w, set.has c = true := by
  constructor
  · rintro ⟨more, _, hrepeats⟩
    obtain ⟨hlength, hall⟩ := repeats_one_iff.mp hrepeats
    exact ⟨by omega, hall⟩
  · rintro ⟨hle, hall⟩
    exact ⟨w.length - least, nofun, repeats_one_iff.mpr ⟨by omega, hall⟩⟩

/-! ## 3. Parts -/

theorem exists_digits_iff : (∃ ds, Digits w ds) ↔ ∀ c ∈ w, isDigit c = true := by
  constructor
  · rintro ⟨ds, h⟩ c hc
    have hmem : digitValue? c ∈ ds.map some := h ▸ List.mem_map_of_mem hc
    obtain ⟨d, _, hd⟩ := List.mem_map.mp hmem
    rw [isDigit, ← hd, Option.isSome_some]
  · intro hall
    induction w with
    | nil => exact ⟨[], rfl⟩
    | cons c w ih =>
      obtain ⟨hc, hw⟩ := List.forall_mem_cons.mp hall
      obtain ⟨d, hd⟩ := Option.isSome_iff_exists.mp hc
      obtain ⟨ds, hds⟩ := ih hw
      exact ⟨d :: ds, digits_cons.mpr ⟨hd, hds⟩⟩

theorem takes_digits {least : Nat} :
    (atLeast least digitSet).Takes w ↔ ∃ ds, Digits w ds ∧ least ≤ ds.length := by
  have hhas : ∀ c, digitSet.has c = isDigit c := fun c => by
    simp [digitSet, CharSet.has, Pattern.Item.has, Pattern.Class.has]
  rw [takes_atLeast]
  simp only [hhas, ← exists_digits_iff]
  constructor
  · rintro ⟨hle, ds, h⟩
    exact ⟨ds, h, h.length_eq ▸ hle⟩
  · rintro ⟨ds, h, hle⟩
    exact ⟨h.length_eq ▸ hle, ds, h⟩

theorem takes_someDigits : (atLeast 1 digitSet).Takes w ↔ SomeDigits w := by
  rw [takes_digits]
  constructor
  · intro h
    obtain ⟨ds, hds, hle⟩ := h
    exact .mk hds (List.ne_nil_of_length_pos hle)
  · intro h
    obtain ⟨hds, hsome⟩ := h
    exact ⟨_, hds, List.length_pos_iff.mpr hsome⟩

theorem takes_hexDigits : (atLeast 1 hexSet).Takes w ↔ w ≠ [] ∧ ∀ c ∈ w, isHexDigit c = true := by
  have hle : ∀ a b : Char, decide (a ≤ b) = decide (a.toNat ≤ b.toNat) := fun _ _ => rfl
  have hhas : ∀ c, hexSet.has c = isHexDigit c := fun c => by
    simp only [isHexDigit, isPlainDigit, hle]
    simp [hexSet, CharSet.has, Pattern.Item.has, Bool.or_assoc]
  simp only [takes_atLeast, Nat.one_le_iff_ne_zero, ne_eq, List.length_eq_zero_iff, hhas]

def signNode : Node := optionally (oneOf ['+', '-'])

theorem takes_sign : signNode.Takes w ↔ ∃ minus, IsSign w minus := by
  rw [signNode, takes_optionally, takes_oneOf]
  constructor
  · rintro (rfl | ⟨c, hc, rfl⟩)
    · exact ⟨_, .none⟩
    · rcases List.mem_pair.mp hc with rfl | rfl
      · exact ⟨_, .plus⟩
      · exact ⟨_, .minus⟩
  · rintro ⟨minus, h⟩
    cases h with
    | none => exact .inl rfl
    | plus => exact .inr ⟨'+', by decide, rfl⟩
    | minus => exact .inr ⟨'-', by decide, rfl⟩

/-- A part behind an optional sign takes the texts of its language, with a sign or without. -/
theorem takes_signed {L : List Char → Prop} (hn : ∀ w, n.Takes w ↔ L w) :
    (Node.seq signNode n).Takes w ↔ Signed L w := by
  constructor
  · intro h
    obtain ⟨ss, body, rfl, hs, hbody⟩ := h
    obtain ⟨minus, hs⟩ := takes_sign.mp hs
    exact .mk hs ((hn body).mp hbody)
  · intro h
    obtain ⟨hs, hbody⟩ := h
    exact ⟨_, _, rfl, takes_sign.mpr ⟨_, hs⟩, (hn _).mpr hbody⟩

def exponentNode : Node := optionally (.seq (oneOf ['e', 'E']) (.seq signNode (atLeast 1 digitSet)))

theorem takes_exponent : exponentNode.Takes w ↔ ∃ e, Exponent w e := by
  simp only [exponentNode, takes_optionally, Node.Takes, takes_oneOf, takes_sign, takes_someDigits]
  constructor
  · rintro (rfl | ⟨_, _, rfl, ⟨c, hc, rfl⟩, ss, cs, rfl, ⟨minus, hs⟩, hcs, hsome⟩)
    · exact ⟨_, .none⟩
    · show ∃ e, Exponent (c :: (ss ++ cs)) e
      exact ⟨_, .written (List.mem_pair.mp hc) hs hcs hsome⟩
  · rintro ⟨e, h⟩
    cases h with
    | none => exact .inl rfl
    | @written c ss cs minus ds hc hs hcs hsome =>
      exact .inr ⟨[c], ss ++ cs, rfl, ⟨c, List.mem_pair.mpr hc, rfl⟩, ss, cs, rfl, ⟨minus, hs⟩,
        hcs, hsome⟩

def typeNode : Node := optionally (oneOf typeLetters)

theorem takes_type : typeNode.Takes w ↔ TypeLetter w := by
  rw [typeNode, takes_optionally, takes_oneOf]
  constructor
  · rintro (rfl | ⟨c, hc, rfl⟩)
    · exact .none
    · exact .written hc
  · intro h
    cases h with
    | none => exact .inl rfl
    | written hc => exact .inr ⟨_, hc, rfl⟩

/-- Digits with an optional point and digits behind it, or a point with digits behind it. -/
def mantissaNode (points : List Char) (least : Nat) : Node :=
  .alt (.seq (atLeast 1 digitSet) (optionally (.seq (oneOf points) (atLeast least digitSet))))
    (.seq (oneOf points) (atLeast 1 digitSet))

/-- Digits alone, or a point with digits on its sides: enough of them behind it when there are some
    in front, and some behind it when there are none. -/
theorem takes_mantissaNode {points : List Char} {least : Nat} :
    (mantissaNode points least).Takes w ↔ (∃ ds, Digits w ds ∧ ds ≠ []) ∨
      ∃ cs c fs ds es, w = cs ++ c :: fs ∧ c ∈ points ∧ Digits cs ds ∧ Digits fs es ∧
        (ds ≠ [] ∧ least ≤ es.length ∨ ds = [] ∧ es ≠ []) := by
  simp only [mantissaNode, takes_optionally, Node.Takes, takes_oneOf, takes_digits,
    Nat.one_le_iff_ne_zero, ne_eq, List.length_eq_zero_iff]
  constructor
  · rintro (⟨cs, _, rfl, ⟨ds, hcs, hsome⟩, rfl | ⟨_, fs, rfl, ⟨c, hc, rfl⟩, es, hfs, hle⟩⟩ |
      ⟨_, fs, rfl, ⟨c, hc, rfl⟩, es, hfs, hfsome⟩)
    · rw [List.append_nil]
      exact .inl ⟨ds, hcs, hsome⟩
    · exact .inr ⟨cs, c, fs, ds, es, rfl, hc, hcs, hfs, .inl ⟨hsome, hle⟩⟩
    · exact .inr ⟨[], c, fs, [], es, rfl, hc, rfl, hfs, .inr ⟨rfl, hfsome⟩⟩
  · rintro (⟨ds, hcs, hsome⟩ | ⟨cs, c, fs, ds, es, rfl, hc, hcs, hfs, ⟨hsome, hle⟩ | ⟨rfl, hfsome⟩⟩)
    · exact .inl ⟨w, [], (List.append_nil w).symm, ⟨ds, hcs, hsome⟩, .inl rfl⟩
    · exact .inl ⟨cs, c :: fs, rfl, ⟨ds, hcs, hsome⟩,
        .inr ⟨[c], fs, rfl, ⟨c, hc, rfl⟩, es, hfs, hle⟩⟩
    · obtain rfl : cs = [] := List.length_eq_zero_iff.mp hcs.length_eq
      exact .inr ⟨[c], fs, rfl, ⟨c, hc, rfl⟩, es, hfs, hfsome⟩

theorem takes_mantissa :
    (mantissaNode ['.'] 1).Takes w ↔ ∃ whole fraction, Mantissa w whole fraction := by
  rw [takes_mantissaNode]
  constructor
  · rintro (⟨ds, hcs, hsome⟩ | ⟨cs, c, fs, ds, es, rfl, hc, hcs, hfs, hsome⟩)
    · exact ⟨ds, [], .whole hcs hsome⟩
    · obtain rfl := List.mem_singleton.mp hc
      have hfsome : es ≠ [] := hsome.elim (fun h => List.ne_nil_of_length_pos h.2) And.right
      exact ⟨ds, es, .pointed hcs hfs hfsome⟩
  · rintro ⟨whole, fraction, h⟩
    cases h with
    | whole hcs hsome => exact .inl ⟨whole, hcs, hsome⟩
    | pointed hcs hfs hfsome =>
      refine .inr ⟨_, '.', _, whole, fraction, rfl, List.mem_singleton_self _, hcs, hfs, ?_⟩
      by_cases hwhole : whole = []
      · exact .inr ⟨hwhole, hfsome⟩
      · exact .inl ⟨hwhole, List.length_pos_iff.mpr hfsome⟩

theorem takes_wideMantissa : (mantissaNode ['.', ','] 0).Takes w ↔ WideMantissa w := by
  have hpoint : ∀ c, c ∈ ['.', ','] ↔ isPoint c = true := fun c => by simp [isPoint]
  rw [takes_mantissaNode]
  constructor
  · rintro (⟨ds, hcs, hsome⟩ | ⟨cs, c, fs, ds, es, rfl, hc, hcs, hfs, hsome⟩)
    · exact .whole hcs hsome
    · exact .pointed hcs ((hpoint c).mp hc) hfs (hsome.imp And.left And.right)
  · intro h
    cases h with
    | whole hcs hsome => exact .inl ⟨_, hcs, hsome⟩
    | @pointed cs fs c ds es hcs hc hfs hsome =>
      refine .inr ⟨cs, c, fs, ds, es, rfl, (hpoint c).mpr hc, hcs, hfs, ?_⟩
      by_cases hwhole : ds = []
      · exact .inr ⟨hwhole, hsome.resolve_left (not_not.mpr hwhole)⟩
      · exact .inl ⟨hwhole, Nat.zero_le _⟩

/-- A zero with its mark, hexadecimal digits and an optional letter. -/
def hexadecimalNode : Node :=
  .seq (oneOf ['0']) (.seq (oneOf ['x', 'X'])
    (.seq (atLeast 1 hexSet) (optionally (oneOf ['l', 'L']))))

theorem takes_hexadecimal : hexadecimalNode.Takes w ↔ Hexadecimal w := by
  have hlong : ∀ ls, (ls = [] ∨ ∃ c ∈ ['l', 'L'], ls = [c]) ↔ ls ∈ [[], ['l'], ['L']] :=
    fun ls => by simp
  simp only [hexadecimalNode, Node.Takes, takes_oneOf, takes_hexDigits, takes_optionally, hlong]
  constructor
  · rintro ⟨_, _, rfl, ⟨c, hc, rfl⟩, _, _, rfl, ⟨x, hx, rfl⟩, cs, ls, rfl, ⟨hsome, hcs⟩, hl⟩
    obtain rfl := List.mem_singleton.mp hc
    show Hexadecimal ('0' :: x :: (cs ++ ls))
    exact .mk (List.mem_pair.mp hx) hcs hsome hl
  · intro h
    cases h with
    | @mk x cs ls hx hcs hsome hl =>
      exact ⟨['0'], x :: (cs ++ ls), rfl, ⟨'0', List.mem_singleton_self _, rfl⟩, [x], cs ++ ls, rfl,
        ⟨x, List.mem_pair.mpr hx, rfl⟩, cs, ls, rfl, ⟨hsome, hcs⟩, hl⟩

theorem takes_unsignedFloat :
    (Node.seq (atLeast 1 digitSet) (.seq (oneOf [',', '.']) (atLeast 1 digitSet))).Takes w ↔
      UnsignedFloat w := by
  have hpoint : ∀ c, c ∈ [',', '.'] ↔ isPoint c = true := fun c => by simp [isPoint, or_comm]
  simp only [Node.Takes, takes_someDigits, takes_oneOf]
  constructor
  · rintro ⟨cs, _, rfl, hcs, _, fs, rfl, ⟨c, hc, rfl⟩, hfs⟩
    exact .mk hcs ((hpoint c).mp hc) hfs
  · intro h
    cases h with
    | @mk cs fs c hcs hc hfs =>
      exact ⟨cs, c :: fs, rfl, hcs, [c], fs, rfl, ⟨c, (hpoint c).mpr hc, rfl⟩, hfs⟩

/-- A mantissa with an optional exponent and an optional type letter. -/
def decimalNode : Node := .seq (mantissaNode ['.', ','] 0) (.seq exponentNode typeNode)

theorem takes_decimal :
    decimalNode.Takes w ↔ ∃ ms ts, w = ms ++ ts ∧ WideMantissa ms ∧ NumberEnd ts := by
  simp only [decimalNode, Node.Takes, takes_wideMantissa, takes_exponent, takes_type]
  constructor
  · rintro ⟨ms, _, rfl, hm, es, ts, rfl, ⟨e, he⟩, ht⟩
    exact ⟨ms, es ++ ts, rfl, hm, .mk he ht⟩
  · rintro ⟨ms, _, rfl, hm, he, ht⟩
    exact ⟨ms, _, rfl, hm, _, _, rfl, ⟨_, he⟩, ht⟩

/-! ## 4. The patterns -/

theorem integerPattern_standsFor : StandsFor integerPattern IntegerShape :=
  ⟨.seq signNode (atLeast 1 digitSet), rfl, rfl, fun _ => takes_signed fun _ => takes_someDigits⟩

theorem floatPattern_standsFor : StandsFor floatPattern FloatShape :=
  ⟨_, rfl, rfl, fun _ => takes_signed fun _ => takes_unsignedFloat⟩

theorem plainPattern_standsFor : StandsFor plainPattern fun w => ∃ d, Denotes w d := by
  refine ⟨.seq signNode (.seq (mantissaNode ['.'] 1) exponentNode), rfl, rfl, fun w => ?_⟩
  simp only [Node.Takes, takes_sign, takes_mantissa, takes_exponent]
  constructor
  · rintro ⟨ss, _, rfl, ⟨minus, hs⟩, ms, es, rfl, ⟨whole, fraction, hm⟩, e, he⟩
    exact ⟨_, .mk hs hm he⟩
  · rintro ⟨d, hs, hm, he⟩
    exact ⟨_, _, rfl, ⟨_, hs⟩, _, _, rfl, ⟨_, _, hm⟩, _, he⟩

theorem numberPattern_standsFor : StandsFor numberPattern WideNumber := by
  refine ⟨.alt (.seq signNode decimalNode) (.seq signNode hexadecimalNode), rfl, rfl, fun w => ?_⟩
  have hdecimal := takes_signed (w := w) fun _ => takes_decimal
  have hhexadecimal := takes_signed (w := w) fun _ => takes_hexadecimal
  show (Node.seq signNode decimalNode).Takes w ∨ (Node.seq signNode hexadecimalNode).Takes w ↔ _
  rw [hdecimal, hhexadecimal]
  constructor
  · rintro (⟨hs, ms, ts, rfl, hm, ht⟩ | ⟨hs, h⟩)
    · exact .mk hs (.decimal hm ht)
    · exact .mk hs (.hexadecimal h)
  · intro h
    obtain ⟨hs, hbody⟩ := h
    cases hbody with
    | decimal hm ht => exact .inl (.mk hs ⟨_, _, rfl, hm, ht⟩)
    | hexadecimal h => exact .inr (.mk hs h)

end Reconcile.Decimal
