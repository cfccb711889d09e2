import Reconcile.Expectation.Match
import Reconcile.Proofs.Expectation.EmbeddedText
import Reconcile.Proofs.Pattern.Splicing

/-!
# The values that embedded patterns take

The fragments of an expected value stand in one pattern, between literal texts. When each of them is
regular, leaves the pattern around it alone, and makes no mark with what is behind it, the value is
read as if the fragments were matched one by one.

* `FullyMatches`, `Splits`: texts that fragments take, with literal texts between them;
* `Separate`: fragments that can stand in one pattern; `exists_leads`, `read_spliced`: the pattern of
  all of them stands for the texts that split;
* **`accepts_written_iff`**: an actual value is accepted exactly when it splits;
* `fragments_bound_to_context`: fragments that are not separate.
-/

namespace Reconcile.Expectation

open Pattern (Sign Node Fragment Stands Leads Joined NoMark signs literalSign)

variable {first : List Char} {p : Part} {parts : List Part}

/-! ## 1. Values in pieces -/

/-- Whether a fragment, read as a pattern for itself, takes the whole of a text. -/
def FullyMatches (fragment text : List Char) : Prop :=
  ∃ n, Pattern.read fragment = .ok n ∧ n.accepts (String.ofList text) = true

/-- A text made of the literal texts and, between them, texts that the fragments take. -/
def Splits : List Char → List Part → List Char → Prop
  | first, [], w => w = first
  | first, p :: parts, w =>
    ∃ m rest, w = first ++ m ++ rest ∧ FullyMatches p.fragment m ∧ Splits p.literal parts rest

/-- What no fragment may do is to make one mark with the text behind it. -/
def Apart : List Part → Prop
  | [] => True
  | p :: parts =>
    ¬ Joined (signs p.fragment) (signs (spliced p.literal parts)) ∧ Apart parts

theorem Splits.starts : ∀ {parts : List Part} {first w : List Char}, Splits first parts w →
    first <+: w
  | [], _, _, h => h ▸ List.prefix_rfl
  | p :: parts, first, _, ⟨m, rest, hw, _⟩ => by
    rw [hw, List.append_assoc]
    exact List.prefix_append _ _

theorem Splits.ends : ∀ {parts : List Part} {first w : List Char} {p : Part}, Splits first parts w →
    p ∈ parts.getLast? → p.literal <:+ w
  | [q], first, _, p, ⟨m, rest, hw, _, hrest⟩, hp => by
    obtain rfl := Option.some.inj hp
    rw [hw, show rest = q.literal from hrest]
    exact List.suffix_append _ _
  | q :: q' :: parts, first, _, p, ⟨m, rest, hw, _, hrest⟩, hp => by
    rw [hw]
    exact (Splits.ends hrest hp).trans (List.suffix_append _ _)

/-- What a regular pattern takes as a whole is what it stands for. -/
theorem fullyMatches_iff_takes {fragment : List Char} {n : Node}
    (hread : Pattern.read fragment = .ok n) (hregular : n.isRegular = true) {text : List Char} :
    FullyMatches fragment text ↔ n.Takes text := by
  rw [← String.toList_ofList (l := text), ← Pattern.accepts_iff hregular, String.toList_ofList]
  constructor
  · rintro ⟨n', hread', haccepts⟩
    rw [hread] at hread'
    rwa [Except.ok.inj hread']
  · exact fun haccepts => ⟨n, hread, haccepts⟩

theorem fullyMatches_iff {fragment : List Char} {n : Node} (h : Fragment fragment n)
    {text : List Char} : FullyMatches fragment text ↔ n.Takes text :=
  fullyMatches_iff_takes h.read h.regular

/-! ## 2. The pattern of an expected value -/

/-- Fragments that can be read for themselves, none of which makes a mark with what is behind it. -/
structure Separate (parts : List Part) : Prop where
  fragments : ∀ p ∈ parts, ∃ n, Fragment p.fragment n
  apart : Apart parts

theorem Separate.head (h : Separate (p :: parts)) : (∃ n, Fragment p.fragment n) ∧
    ¬ Joined (signs p.fragment) (signs (spliced p.literal parts)) ∧ Separate parts :=
  ⟨h.fragments p List.mem_cons_self, h.apart.1,
    fun q hq => h.fragments q (List.mem_cons_of_mem p hq), h.apart.2⟩

theorem signs_escape_append (text rest : List Char) :
    signs (Pattern.escape text ++ rest) = text.map literalSign ++ signs rest := by
  rw [Pattern.signs_append, Pattern.signs_escape]
  rw [Pattern.signs_escape]
  exact Pattern.not_dangling_literals text

theorem signs_spliced_cons {n : Node} (hfragment : Fragment p.fragment n) (first : List Char)
    (parts : List Part) : signs (spliced first (p :: parts)) =
      first.map literalSign ++ (signs p.fragment ++ signs (spliced p.literal parts)) := by
  rw [spliced, signs_escape_append, List.flatMap_cons, List.append_assoc,
    Pattern.signs_append _ hfragment.not_dangling]
  rfl

/-- What stands behind a fragment ends with no backslash, and begins with no repetition mark. -/
theorem Separate.behind : ∀ {parts : List Part}, Separate parts → ∀ first : List Char,
    .dangling ∉ signs (spliced first parts) ∧ NoMark (signs (spliced first parts))
  | [], _, first => by
    rw [spliced, List.flatMap_nil, signs_escape_append]
    refine ⟨?_, Pattern.noMark_literals first Pattern.noMark_nil⟩
    rw [List.mem_append, not_or]
    exact ⟨Pattern.not_dangling_literals first, List.not_mem_nil⟩
  | p :: parts, h, first => by
    obtain ⟨⟨n, hfragment⟩, _, htail⟩ := h.head
    obtain ⟨hdangling, hmark⟩ := htail.behind p.literal
    rw [signs_spliced_cons hfragment]
    refine ⟨?_, Pattern.noMark_literals first (hfragment.noMark hmark)⟩
    rw [List.mem_append, List.mem_append, not_or, not_or]
    exact ⟨Pattern.not_dangling_literals first, hfragment.not_dangling, hdangling⟩

/-- **The reader goes through literal texts and fragments in turn**, and holds the nodes of all of
    them at the end. -/
theorem exists_leads (size : Nat) : ∀ {parts : List Part} {first : List Char} {ns : List Node}
    {s : Pattern.State}, Separate parts → Stands ns s →
    s.left.map Pattern.Token.sign = signs (spliced first parts) →
    ∃ last ms, Leads size s last ∧ Stands (ns ++ ms) last ∧ last.left = [] ∧
      (∀ m ∈ ms, m.isRegular = true) ∧
      ∀ w, (Node.sequence ms).Takes w ↔ Splits first parts w
  | [], first, ns, s, _, hs, hleft => by
    rw [spliced, List.flatMap_nil, signs_escape_append] at hleft
    obtain ⟨last, hleads, hlast, hend⟩ := hs.literal size List.not_mem_nil hleft
    refine ⟨last, _, hleads, hlast, List.map_eq_nil_iff.mp hend, ?_, fun w =>
      Pattern.takes_literals⟩
    exact List.forall_mem_map.mpr fun _ _ => rfl
  | p :: parts, first, ns, s, h, hs, hleft => by
    obtain ⟨⟨n, hfragment⟩, hjoined, htail⟩ := h.head
    obtain ⟨hdangling, hmark⟩ := htail.behind p.literal
    rw [signs_spliced_cons hfragment] at hleft
    have hdangling' : .dangling ∉ signs p.fragment ++ signs (spliced p.literal parts) := by
      rw [List.mem_append, not_or]
      exact ⟨hfragment.not_dangling, hdangling⟩
    obtain ⟨s₁, hleads₁, hs₁, hleft₁⟩ := hs.literal size hdangling' hleft
    obtain ⟨s₂, ns₂, hleads₂, hs₂, rfl, hleft₂⟩ :=
      hs₁.fragment hfragment size hleft₁ hdangling hmark hjoined
    obtain ⟨s₃, ns₃, hleads₃, hs₃, hend, hregular, htakes⟩ := exists_leads size htail hs₂ hleft₂
    refine ⟨s₃, first.map Node.literal ++ (ns₂ ++ ns₃), hleads₁.trans (hleads₂.trans hleads₃),
      by simpa only [List.append_assoc] using hs₃, hend, ?_, fun w => ?_⟩
    · rw [List.forall_mem_append, List.forall_mem_append]
      exact ⟨List.forall_mem_map.mpr fun _ _ => rfl,
        Pattern.isRegular_sequence.mp hfragment.regular, hregular⟩
    · simp only [Pattern.takes_sequence_append, Pattern.takes_literals, htakes, Splits,
        fullyMatches_iff hfragment]
      constructor
      · rintro ⟨_, _, rfl, rfl, m, rest, rfl, hm, hrest⟩
        exact ⟨m, rest, (List.append_assoc _ _ _).symm, hm, hrest⟩
      · rintro ⟨m, rest, rfl, hm, hrest⟩
        exact ⟨first, _, List.append_assoc _ _ _, rfl, m, rest, rfl, hm, hrest⟩

/-- The pattern of literal texts and fragments is regular, and stands for the texts that are made of
    them. -/
theorem read_spliced (h : Separate parts) (first : List Char) :
    ∃ n, Pattern.read (spliced first parts) = .ok n ∧ n.isRegular = true ∧
      ∀ w, n.Takes w ↔ Splits first parts w := by
  have hclear : Pattern.Clear (Pattern.tokens (spliced first parts)) :=
    Pattern.clear_of_not_mem (h.behind first).1
  have hstart : Stands [] { left := Pattern.tokens (spliced first parts) } :=
    ⟨⟨rfl, rfl, rfl, rfl, rfl, rfl, nofun⟩, [], rfl, rfl⟩
  obtain ⟨last, ms, hleads, hlast, hend, hregular, htakes⟩ :=
    exists_leads (spliced first parts).length h hstart rfl
  exact ⟨_, Pattern.read_of_leads hclear hleads hlast hend hregular,
    Pattern.isRegular_sequence.mpr hregular, htakes⟩

/-! ## 3. Values that are accepted -/

/-- A value whose fragments are delimited, and in whose literal texts no marker stands. -/
structure PlainlyWritten (first : List Char) (parts : List Part) : Prop where
  delimited : Delimited first parts
  first : ¬ closing <:+: first
  literals : ∀ p ∈ parts, ¬ closing <:+: p.literal

/-- A written value is read as one that holds patterns. -/
theorem ofText_written (first : List Char) (hne : parts ≠ []) :
    Expression.ofText (String.ofList (written first parts)) =
      .pattern (String.ofList (written first parts)) := by
  have hopening : opening <:+: written first parts := by
    cases parts with
    | nil => exact absurd rfl hne
    | cons p parts =>
      refine ⟨first ++ ['@'], p.fragment ++ (closing ++ written p.literal parts), ?_⟩
      simp only [written, List.append_assoc, List.cons_append, List.nil_append]
  rw [Expression.ofText, String.toList_ofList, if_pos (occursIn_iff.mpr hopening)]

/-- **Text around a pattern is literal.** Let fragments be written between literal texts, such that
    no marker stands anywhere else. Let each fragment be a regular pattern for itself, which leaves
    the pattern around it alone, and let none make one mark with what is behind it. Then a value is
    accepted exactly when it is made of the literal texts and, between them, texts that the fragments
    take as a whole; it begins with the first literal text and ends with the last one. -/
theorem accepts_written_iff (h : PlainlyWritten first parts) (hne : parts ≠ [])
    (hseparate : Separate parts) (actual : Option String) (caseSensitive : Bool) :
    ∃ accepted, accepts (some (String.ofList (written first parts))) actual caseSensitive =
        .ok accepted ∧
      (accepted = true ↔ Splits first parts (actual.getD "").toList) ∧
      (accepted = true → first <+: (actual.getD "").toList ∧
        ∀ p ∈ parts.getLast?, p.literal <:+ (actual.getD "").toList) := by
  obtain ⟨n, hread, hregular, htakes⟩ := read_spliced hseparate first
  have haccepts : accepts (some (String.ofList (written first parts))) actual caseSensitive =
      .ok (n.accepts (actual.getD "")) := by
    rw [accepts, Expression.ofCell, ofText_written first hne, Expression.accepts, embeddedPattern,
      patternText_written h.delimited h.first h.literals, hread]
    rfl
  have hsplits : n.accepts (actual.getD "") = true ↔ Splits first parts (actual.getD "").toList :=
    (Pattern.accepts_iff hregular _).trans (htakes _)
  exact ⟨_, haccepts, hsplits, fun haccepted =>
    ⟨(hsplits.mp haccepted).starts, fun p hp => (hsplits.mp haccepted).ends hp⟩⟩

/-- Two fragments, the second one with a bar within brackets, between literal texts that are full of
    special characters. -/
theorem accepts_written_iff_code :
    let first := "ID-".toList
    let parts : List Part := [⟨"[A-Z]+".toList, "+ (".toList⟩, ⟨"(?:x|yz)*".toList, ")*".toList⟩]
    (PlainlyWritten first parts ∧ parts ≠ [] ∧ Separate parts) ∧
    ∃ accepted, accepts (some (String.ofList (written first parts))) (some "ID-AB+ (yzx)*") true =
        .ok accepted ∧
      (accepted = true ↔ Splits first parts "ID-AB+ (yzx)*".toList) ∧
      (accepted = true → first <+: "ID-AB+ (yzx)*".toList ∧
        ∀ p ∈ parts.getLast?, p.literal <:+ "ID-AB+ (yzx)*".toList) := by
  intro first parts
  have hwritten : PlainlyWritten first parts :=
    ⟨.of_places (by decide +kernel) (by decide +kernel), by decide, by decide⟩
  have hseparate : Separate parts := by
    refine ⟨?_, ?_, ?_, trivial⟩
    · intro p hp
      rcases List.mem_pair.mp hp with rfl | rfl
      · exact ⟨_, rfl, rfl, _, rfl, rfl, rfl, rfl, rfl, rfl, rfl⟩
      · exact ⟨_, rfl, rfl, _, rfl, rfl, rfl, rfl, rfl, rfl, rfl⟩
    · exact Pattern.not_joined (by decide) (by decide)
    · exact Pattern.not_joined (by decide) (by decide)
  exact ⟨⟨hwritten, nofun, hseparate⟩,
    accepts_written_iff hwritten nofun hseparate (some "ID-AB+ (yzx)*") true⟩

/-- **Fragments that can be read for themselves need not be regular or separate**: an anchor looks at
    the text around its fragment, a possessive repetition takes what is literal, a bar divides the
    whole pattern, and an octal escape or a count goes on behind the fragment. -/
theorem fragments_bound_to_context :
    (let parts : List Part := [⟨"^b".toList, []⟩];
      PlainlyWritten "a".toList parts ∧ Splits "a".toList parts "ab".toList ∧
        accepts (some (String.ofList (written "a".toList parts))) (some "ab") = .ok false) ∧
    (let parts : List Part := [⟨"a*+".toList, "a".toList⟩];
      PlainlyWritten [] parts ∧ Splits [] parts "aa".toList ∧
        accepts (some (String.ofList (written [] parts))) (some "aa") = .ok false) ∧
    (let parts : List Part := [⟨"a|b".toList, "y".toList⟩];
      PlainlyWritten "x".toList parts ∧ (∃ n, Pattern.read "a|b".toList = .ok n) ∧
        ¬ Splits "x".toList parts "xa".toList ∧
        accepts (some (String.ofList (written "x".toList parts))) (some "xa") = .ok true) ∧
    (let parts : List Part := [⟨"\\0".toList, "1".toList⟩];
      PlainlyWritten [] parts ∧ Splits [] parts "\x001".toList ∧
        accepts (some (String.ofList (written [] parts))) (some "\x001") = .ok false) ∧
    (let parts : List Part := [⟨"a\x7b".toList, "2".toList⟩, ⟨"\x7d".toList, []⟩];
      PlainlyWritten [] parts ∧ Splits [] parts "a\x7b2\x7d".toList ∧
        accepts (some (String.ofList (written [] parts))) (some "a\x7b2\x7d") = .ok false) := by
  refine ⟨⟨?_, ?_, ?_⟩, ⟨?_, ?_, ?_⟩, ⟨?_, ?_, ?_, ?_⟩, ⟨?_, ?_, ?_⟩, ⟨?_, ?_, ?_⟩⟩
  · exact ⟨.of_places (by decide +kernel) (by decide +kernel), by decide, by decide⟩
  · exact ⟨"b".toList, [], rfl, ⟨_, rfl, by decide +kernel⟩, rfl⟩
  · decide +kernel
  · exact ⟨.of_places (by decide +kernel) (by decide +kernel), by decide, by decide⟩
  · exact ⟨"a".toList, "a".toList, rfl, ⟨_, rfl, by decide +kernel⟩, rfl⟩
  · decide +kernel
  · exact ⟨.of_places (by decide +kernel) (by decide +kernel), by decide, by decide⟩
  · exact ⟨_, rfl⟩
  · exact fun h => absurd (h.ends rfl) (by decide)
  · decide +kernel
  · exact ⟨.of_places (by decide +kernel) (by decide +kernel), by decide, by decide⟩
  · exact ⟨"\x00".toList, "1".toList, rfl, ⟨_, rfl, by decide +kernel⟩, rfl⟩
  · decide +kernel
  · exact ⟨.of_places (by decide +kernel) (by decide +kernel), by decide, by decide⟩
  · exact ⟨"a\x7b".toList, "2\x7d".toList, rfl, ⟨_, rfl, by decide +kernel⟩,
      "\x7d".toList, [], rfl, ⟨_, rfl, by decide +kernel⟩, rfl⟩
  · decide +kernel

end Reconcile.Expectation
