import Mathlib.Algebra.GroupWithZero.Nat
import Mathlib.Data.List.Basic
import Mathlib.Data.List.Infix
import Reconcile.Expectation.Embedded

/-!
# The text of embedded patterns

An expected value that holds patterns is written as literal texts with fragments between them, each
fragment between its markers. The value is cut at everything that looks like a marker, and what is a
pattern is then told by counting: every other piece is one. Each stray closing marker in a literal
text is one piece more, so it is lost, and what is literal changes places with what is not.

* `written`, `Part`: an expected value, given its literal texts and its fragments;
* `Delimited`: fragments that close where they end, in a text that opens no others;
* `spliced`: the pattern that the value should stand for;
* `cutAtMarkers_append`: a cut at a marker; **`cutAtMarkers_written`**: all of them;
* `count_patternText`: every marker takes a quote away;
* `patternText_written`: a text without stray markers; **`patternText_written_iff`**: every text;
* `stray_marker_swaps`: what becomes of a fragment behind a stray marker.
-/

namespace Reconcile.Expectation

/-! ## 1. Expected values with fragments -/

/-- A fragment, and the literal text behind it. -/
structure Part where
  fragment : List Char
  literal : List Char
  deriving DecidableEq, Repr

/-- The expected value with the given literal text, fragments, and literal texts behind them. -/
def written (first : List Char) : List Part → List Char
  | [] => first
  | p :: parts => first ++ '@' :: opening ++ p.fragment ++ closing ++ written p.literal parts

/-- The pattern that takes the literal texts as they are, and the fragments for what they stand. -/
def spliced (first : List Char) (parts : List Part) : List Char :=
  Pattern.escape first ++ parts.flatMap fun p => p.fragment ++ Pattern.escape p.literal

/-- Nothing within a fragment closes it, and nothing opens one but the fragments themselves. -/
structure Delimited (first : List Char) (parts : List Part) : Prop where
  closed : ∀ p ∈ parts, ¬ closing <:+: p.fragment
  opened : ∀ u v, written first parts = u ++ opening ++ v →
    ∃ k < parts.length, u = written first (parts.take k) ++ ['@']

variable {first : List Char} {p : Part} {parts : List Part}

theorem length_le_written (first : List Char) (parts : List Part) :
    first.length ≤ (written first parts).length := by
  cases parts with
  | nil => exact Nat.le_refl _
  | cons p parts =>
    simp only [written, List.length_append]
    omega

/-- What opens a fragment is at the end of the first literal text, or behind the first fragment. -/
theorem Delimited.length_opened (h : Delimited first (p :: parts)) {u v : List Char}
    (hu : written first (p :: parts) = u ++ opening ++ v) : u.length = first.length + 1 ∨
      first.length + opening.length + p.fragment.length + closing.length + 2 ≤ u.length := by
  obtain ⟨k, _, rfl⟩ := h.opened u v hu
  cases k with
  | zero => exact .inl (by simp [written])
  | succ k =>
    have := length_le_written p.literal (parts.take k)
    refine .inr ?_
    simp only [List.take_succ_cons, written, List.length_append, List.length_cons, List.length_nil]
    omega

/-- What is behind the first fragment is delimited as well. -/
theorem Delimited.tail (h : Delimited first (p :: parts)) : Delimited p.literal parts where
  closed q hq := h.closed q (List.mem_cons_of_mem _ hq)
  opened u v hu := by
    obtain ⟨k, hk, hprefix⟩ := h.opened (first ++ '@' :: opening ++ p.fragment ++ closing ++ u) v
      (by rw [written, hu]; simp only [List.append_assoc])
    cases k with
    | zero =>
      have hlength := congrArg List.length hprefix
      have hmarker : 0 < closing.length := by decide
      simp only [List.take_zero, written, List.length_append, List.length_cons,
        List.length_nil] at hlength
      omega
    | succ k =>
      refine ⟨k, Nat.lt_of_succ_lt_succ hk, ?_⟩
      rw [List.take_succ_cons, written, List.append_assoc _ _ ['@']] at hprefix
      exact List.append_cancel_left hprefix

/-- What opens a fragment can be looked for place by place. -/
theorem Delimited.of_places (hclosed : ∀ p ∈ parts, ¬ closing <:+: p.fragment)
    (hopened : ∀ n < (written first parts).length,
      opening.isPrefixOf ((written first parts).drop n) = true →
        ∃ k < parts.length, (written first parts).take n = written first (parts.take k) ++ ['@']) :
    Delimited first parts where
  closed := hclosed
  opened u v huv := by
    rw [List.append_assoc] at huv
    have hmarker : 0 < opening.length := by decide
    have hplace : u.length < (written first parts).length := by
      rw [huv, List.length_append, List.length_append]
      omega
    have hfound := hopened u.length hplace (by
      rw [huv, List.drop_left]
      exact List.isPrefixOf_iff_prefix.mpr (List.prefix_append _ _))
    rwa [huv, List.take_left] at hfound

/-! ## 2. Markers -/

theorem opening_eq : opening = ['{', 'p', 'a', 't', 't', 'e', 'r', 'n', '(', '\''] := by decide

theorem closing_eq : closing = ['\'', ')', '}'] := by decide

/-- A part occurs in a text when the text is cut somewhere before it and somewhere behind it. -/
theorem occursIn_iff {part : List Char} : ∀ {text : List Char},
    occursIn part text = true ↔ part <:+: text
  | [] => by rw [occursIn, List.isEmpty_iff, List.infix_nil]
  | c :: rest => by
    rw [occursIn, Bool.or_eq_true, List.isPrefixOf_iff_prefix, List.infix_cons_iff, occursIn_iff]

theorem markerLength_le (s : List Char) : markerLength s ≤ s.length := by
  unfold markerLength
  split
  · next h => exact (List.isPrefixOf_iff_prefix.mp h).length_le
  · split
    · next h => exact (List.isPrefixOf_iff_prefix.mp h).length_le
    · split
      · next h => exact (List.isPrefixOf_iff_prefix.mp h).length_le
      · exact Nat.zero_le _

/-- A marker that does not open a fragment closes one. -/
theorem markerLength_of_not_opening {s : List Char} (h : ¬ opening <+: s)
    (htail : ¬ opening <+: s.tail) :
    markerLength s = if closing.isPrefixOf s then closing.length else 0 := by
  have hsigned : ('@' :: opening).isPrefixOf s = false := by
    rw [← Bool.not_eq_true, List.isPrefixOf_iff_prefix]
    rintro ⟨t, rfl⟩
    exact htail ⟨t, rfl⟩
  have hplain : opening.isPrefixOf s = false := by
    rwa [← Bool.not_eq_true, List.isPrefixOf_iff_prefix]
  rw [markerLength, hsigned, hplain, if_neg Bool.false_ne_true, if_neg Bool.false_ne_true]

/-- A text that begins with a marker is cut behind it. -/
theorem cutAtMarkers_marker {s : List Char} {n : Nat} (h : markerLength s = n + 1) :
    cutAtMarkers s = [] :: cutAtMarkers (s.drop (n + 1)) := by
  cases s with
  | nil => cases h
  | cons c rest =>
    rw [cutAtMarkers, h]
    rfl

theorem cutAtMarkers_ne_nil (s : List Char) : cutAtMarkers s ≠ [] := by
  cases s with
  | nil =>
    rw [cutAtMarkers]
    exact List.cons_ne_nil _ _
  | cons c rest =>
    rw [cutAtMarkers]
    split
    · split <;> exact List.cons_ne_nil _ _
    · exact List.cons_ne_nil _ _

/-- Any other text gives its first character to the first piece of the rest. -/
theorem cutAtMarkers_cons {c : Char} {rest : List Char} (h : markerLength (c :: rest) = 0) :
    cutAtMarkers (c :: rest) = (cutAtMarkers rest).modifyHead (c :: ·) := by
  rw [cutAtMarkers, h]
  dsimp only
  cases hcut : cutAtMarkers rest with
  | nil => exact absurd hcut (cutAtMarkers_ne_nil rest)
  | cons piece pieces => rfl

/-- **A cut at a marker.** What stands before it is cut as it is on its own, when no marker of it
    reaches into what follows. -/
theorem cutAtMarkers_append {m b : List Char} (hne : m ≠ [])
    (hmarker : markerLength (m ++ b) = m.length) : ∀ {a : List Char},
    (∀ s t, a = s ++ t → t ≠ [] → markerLength (t ++ (m ++ b)) = markerLength t) →
    cutAtMarkers (a ++ (m ++ b)) = cutAtMarkers a ++ cutAtMarkers b
  | [], _ => by
    obtain ⟨n, hn⟩ := Nat.exists_eq_succ_of_ne_zero (List.length_eq_zero_iff.not.mpr hne)
    rw [List.nil_append, cutAtMarkers_marker (hmarker.trans hn), ← Nat.succ_eq_add_one, ← hn,
      List.drop_left, cutAtMarkers]
    rfl
  | c :: rest, hsame => by
    have hrest : ∀ n, ∀ s t, rest.drop n = s ++ t → t ≠ [] →
        markerLength (t ++ (m ++ b)) = markerLength t := fun n s t hst => by
      refine hsame (c :: (rest.take n ++ s)) t ?_
      rw [List.cons_append, List.append_assoc, ← hst, List.take_append_drop]
    have hhead := hsame [] (c :: rest) rfl (List.cons_ne_nil c rest)
    cases hlength : markerLength (c :: rest) with
    | zero =>
      have ih := cutAtMarkers_append hne hmarker (hrest 0)
      rw [List.drop_zero] at ih
      rw [hlength, List.cons_append] at hhead
      rw [List.cons_append, cutAtMarkers_cons hhead, cutAtMarkers_cons hlength, ih]
      obtain ⟨piece, pieces, hcut⟩ := List.exists_cons_of_ne_nil (cutAtMarkers_ne_nil rest)
      rw [hcut]
      rfl
    | succ n =>
      have hle := markerLength_le (c :: rest)
      rw [hlength] at hhead hle
      rw [cutAtMarkers_marker hhead, cutAtMarkers_marker hlength, List.drop_append_of_le_length hle,
        List.drop_succ_cons, cutAtMarkers_append hne hmarker (hrest n)]
      rfl
  termination_by a => a.length

/-- A text without markers is one piece. -/
theorem cutAtMarkers_of_none : ∀ {a : List Char},
    (∀ s t, a = s ++ t → t ≠ [] → markerLength t = 0) → cutAtMarkers a = [a]
  | [], _ => by rw [cutAtMarkers]
  | c :: rest, hnone => by
    rw [cutAtMarkers_cons (hnone [] (c :: rest) rfl (List.cons_ne_nil c rest)),
      cutAtMarkers_of_none fun s t hst => hnone (c :: s) t (congrArg (c :: ·) hst)]
    rfl

/-! ## 3. The pieces of an expected value -/

theorem closing_prefix_at_sign (s rest : List Char) :
    closing.isPrefixOf (s ++ '@' :: rest) = closing.isPrefixOf s := by
  rcases s with _ | ⟨a, _ | ⟨b, _ | ⟨c, s⟩⟩⟩ <;>
    simp [closing_eq, List.isPrefixOf]

theorem closing_prefix_at_closing {s : List Char} (hs : s ≠ []) (rest : List Char) :
    closing.isPrefixOf (s ++ (closing ++ rest)) = closing.isPrefixOf s := by
  rcases s with _ | ⟨a, _ | ⟨b, _ | ⟨c, s⟩⟩⟩ <;>
    simp_all [closing_eq, List.isPrefixOf]

/-- Where nothing opens before what follows, and nothing closes across its beginning, it does not
    add to a marker, and all markers before it close. -/
theorem markerLength_append {s t rest : List Char} (ht : t ≠ [])
    (hopened : ∀ u v, s ++ t ++ rest = u ++ opening ++ v → (s ++ t).length < u.length)
    (hclosing : closing.isPrefixOf (t ++ rest) = closing.isPrefixOf t) :
    markerLength (t ++ rest) = markerLength t ∧
      markerLength t = if closing.isPrefixOf t then closing.length else 0 := by
  obtain ⟨c, t, rfl⟩ := List.exists_cons_of_ne_nil ht
  have hhere : ¬ opening <+: c :: t ++ rest := fun ⟨v, hv⟩ => by
    have hlength := hopened s v (by rw [List.append_assoc, ← hv, List.append_assoc])
    rw [List.length_append] at hlength
    omega
  have hthere : ¬ opening <+: t ++ rest := fun ⟨v, hv⟩ => by
    have hlength := hopened (s ++ [c]) v (by
      simp only [List.append_assoc, List.cons_append, List.nil_append, hv])
    simp only [List.length_append, List.length_cons, List.length_nil] at hlength
    omega
  have halone : markerLength (c :: t) = if closing.isPrefixOf (c :: t) then closing.length else 0 :=
    markerLength_of_not_opening (fun h => hhere (h.trans (List.prefix_append _ _)))
      fun h => hthere (h.trans (List.prefix_append _ _))
  rw [markerLength_of_not_opening hhere hthere, hclosing]
  exact ⟨halone.symm, halone⟩

theorem markerLength_opening (b : List Char) :
    markerLength ('@' :: opening ++ b) = ('@' :: opening).length := by
  have hprefix : ('@' :: opening).isPrefixOf ('@' :: opening ++ b) = true :=
    List.isPrefixOf_iff_prefix.mpr (List.prefix_append _ _)
  rw [markerLength, if_pos hprefix]
  rfl

theorem markerLength_closing (b : List Char) : markerLength (closing ++ b) = closing.length := by
  have hhere : ¬ opening <+: closing ++ b := by simp [opening_eq, closing_eq]
  have hthere : ¬ opening <+: (closing ++ b).tail := by simp [opening_eq, closing_eq]
  rw [markerLength_of_not_opening hhere hthere,
    if_pos (List.isPrefixOf_iff_prefix.mpr (List.prefix_append _ _))]

/-- **An expected value is cut at the markers of its fragments**, and within its literal texts. -/
theorem cutAtMarkers_written : ∀ {first : List Char} {parts : List Part}, Delimited first parts →
    cutAtMarkers (written first parts) =
      cutAtMarkers first ++ parts.flatMap fun p => p.fragment :: cutAtMarkers p.literal
  | first, [], _ => by rw [written, List.flatMap_nil, List.append_nil]
  | first, p :: parts, h => by
    have hlength := fun u v => h.length_opened (u := u) (v := v)
    have hmarker : 0 < opening.length := by decide
    have hwhole : written first (p :: parts) =
        first ++ ('@' :: opening ++ (p.fragment ++ (closing ++ written p.literal parts))) := by
      simp only [written, List.append_assoc]
    have hfirst : cutAtMarkers (written first (p :: parts)) = cutAtMarkers first ++
        cutAtMarkers (p.fragment ++ (closing ++ written p.literal parts)) := by
      rw [hwhole]
      refine cutAtMarkers_append (List.cons_ne_nil _ _) (markerLength_opening _) ?_
      rintro s t rfl ht
      refine (markerLength_append (s := s) ht (fun u v huv => ?_) (closing_prefix_at_sign t _)).1
      have := hlength u v (hwhole.trans huv)
      omega
    have hfragment : cutAtMarkers (p.fragment ++ (closing ++ written p.literal parts)) =
        p.fragment :: cutAtMarkers (written p.literal parts) := by
      have hmarkers : ∀ s t, p.fragment = s ++ t → t ≠ [] →
          markerLength (t ++ (closing ++ written p.literal parts)) = markerLength t ∧
            markerLength t = 0 := fun s t hst ht => by
        have hopened : ∀ u v, s ++ t ++ (closing ++ written p.literal parts) = u ++ opening ++ v →
            (s ++ t).length < u.length := fun u v huv => by
          rw [← hst] at huv ⊢
          have hu := hlength (first ++ '@' :: opening ++ u) v (by
            rw [hwhole, huv]
            simp only [List.append_assoc])
          simp only [List.length_append, List.length_cons] at hu
          omega
        have hclosed : ¬ closing.isPrefixOf t = true := fun hprefix => h.closed p List.mem_cons_self
          (hst ▸ (List.isPrefixOf_iff_prefix.mp hprefix).isInfix.trans
            (List.suffix_append s t).isInfix)
        obtain ⟨hsame, hlone⟩ := markerLength_append ht hopened (closing_prefix_at_closing ht _)
        exact ⟨hsame, hlone.trans (if_neg hclosed)⟩
      have hne : closing ≠ [] := by decide
      rw [cutAtMarkers_append hne (markerLength_closing _) fun s t hst ht => (hmarkers s t hst ht).1,
        cutAtMarkers_of_none fun s t hst ht => (hmarkers s t hst ht).2]
      rfl
    rw [hfirst, hfragment, cutAtMarkers_written h.tail]
    rfl

/-- The only markers within a literal text are closing ones. -/
theorem Delimited.markerLength_literal (h : Delimited first parts) {s t : List Char}
    (hst : first = s ++ t) (ht : t ≠ []) :
    markerLength t = if closing.isPrefixOf t then closing.length else 0 := by
  have hmarker : 0 < opening.length := by decide
  cases parts with
  | nil =>
    have hends : ∀ u v, s ++ t ++ [] = u ++ opening ++ v → (s ++ t).length < u.length := by
      intro u v huv
      rw [List.append_nil, ← hst] at huv
      obtain ⟨k, hk, _⟩ := h.opened u v huv
      exact absurd hk (Nat.not_lt_zero k)
    exact (markerLength_append ht hends (by rw [List.append_nil])).2
  | cons p parts =>
    subst hst
    have hopened : ∀ u v, s ++ t ++ '@' :: (opening ++ (p.fragment ++
        (closing ++ written p.literal parts))) = u ++ opening ++ v → (s ++ t).length < u.length := by
      intro u v huv
      have := h.length_opened (u := u) (v := v) (by
        rw [← huv]
        simp only [written, List.append_assoc, List.cons_append])
      omega
    exact (markerLength_append ht hopened (closing_prefix_at_sign t _)).2

/-- A literal text without closing markers is one piece. -/
theorem Delimited.cutAtMarkers_literal (h : Delimited first parts) (hplain : ¬ closing <:+: first) :
    cutAtMarkers first = [first] := by
  refine cutAtMarkers_of_none fun s t hst ht => ?_
  rw [h.markerLength_literal hst ht, if_neg]
  exact fun hprefix => hplain (hst ▸ (List.isPrefixOf_iff_prefix.mp hprefix).isInfix.trans
    (List.suffix_append s t).isInfix)

/-! ## 4. Texts without stray markers -/

theorem joinPieces_parts : ∀ parts : List Part,
    joinPieces false (parts.flatMap fun p => [p.fragment, p.literal]) =
      parts.flatMap fun p => p.fragment ++ Pattern.escape p.literal
  | [] => rfl
  | p :: parts => by
    rw [List.flatMap_cons, List.flatMap_cons]
    show p.fragment ++ (Pattern.escape p.literal ++
      joinPieces false (parts.flatMap fun p => [p.fragment, p.literal])) = _
    rw [joinPieces_parts parts, List.append_assoc]

/-- The pieces of literal texts without stray markers are these texts. -/
theorem flatMap_pieces : ∀ {first : List Char} {parts : List Part}, Delimited first parts →
    (∀ p ∈ parts, ¬ closing <:+: p.literal) →
    (parts.flatMap fun p => p.fragment :: cutAtMarkers p.literal) =
      parts.flatMap fun p => [p.fragment, p.literal]
  | _, [], _, _ => rfl
  | _, p :: parts, h, hplain => by
    obtain ⟨hp, hparts⟩ := List.forall_mem_cons.mp hplain
    rw [List.flatMap_cons, List.flatMap_cons, h.tail.cutAtMarkers_literal hp,
      flatMap_pieces h.tail hparts]

/-- **Without stray markers, literal texts are escaped and fragments are not.** -/
theorem patternText_written (h : Delimited first parts) (hfirst : ¬ closing <:+: first)
    (hparts : ∀ p ∈ parts, ¬ closing <:+: p.literal) :
    patternText (String.ofList (written first parts)) = spliced first parts := by
  rw [patternText, String.toList_ofList, cutAtMarkers_written h, h.cutAtMarkers_literal hfirst,
    flatMap_pieces h hparts, spliced, ← joinPieces_parts]
  rfl

/-! ## 5. What stray markers take away -/

/-- The number of markers in a text, as it is cut. -/
def markers (s : List Char) : Nat := (cutAtMarkers s).length - 1

theorem length_cutAtMarkers (s : List Char) : (cutAtMarkers s).length = markers s + 1 := by
  have := List.length_pos_iff.mpr (cutAtMarkers_ne_nil s)
  unfold markers
  omega

theorem count_escape : ∀ s : List Char, (Pattern.escape s).count '\'' = s.count '\''
  | [] => rfl
  | c :: rest => by
    rw [Pattern.escape]
    split
    · rw [List.count_cons_of_ne (by decide), List.count_cons, List.count_cons, count_escape rest]
    · rw [List.count_cons, List.count_cons, count_escape rest]

/-- Pieces keep their quotes, in whatever way they are joined. -/
theorem count_joinPieces : ∀ (pieces : List (List Char)) (literal : Bool),
    (joinPieces literal pieces).count '\'' = (pieces.map (List.count '\'')).sum
  | [], _ => rfl
  | piece :: pieces, literal => by
    rw [joinPieces, List.count_append, count_joinPieces pieces, List.map_cons, List.sum_cons]
    cases literal with
    | true => rw [if_pos rfl, count_escape]
    | false => rfl

/-- Every marker has one quote. -/
theorem count_marker {s : List Char} {n : Nat} (h : markerLength s = n + 1) :
    (s.take (n + 1)).count '\'' = 1 := by
  have hprefix : ∀ m : List Char, m.isPrefixOf s = true → m.length = n + 1 → m.count '\'' = 1 →
      (s.take (n + 1)).count '\'' = 1 := fun m hm hlength hcount => by
    rw [← hlength, ← List.prefix_iff_eq_take.mp (List.isPrefixOf_iff_prefix.mp hm), hcount]
  unfold markerLength at h
  split at h
  · next hm => exact hprefix _ hm h (by decide)
  · split at h
    · next hm => exact hprefix _ hm h (by decide)
    · split at h
      · next hm => exact hprefix _ hm h (by decide)
      · cases h

/-- **A cut loses one quote for every marker.** -/
theorem count_cutAtMarkers : ∀ s : List Char,
    ((cutAtMarkers s).map (List.count '\'')).sum + markers s = s.count '\''
  | [] => by
    rw [markers, cutAtMarkers]
    rfl
  | c :: rest => by
    cases hlength : markerLength (c :: rest) with
    | zero =>
      have ih := count_cutAtMarkers rest
      obtain ⟨piece, pieces, hcut⟩ := List.exists_cons_of_ne_nil (cutAtMarkers_ne_nil rest)
      rw [markers, hcut] at ih
      rw [markers, cutAtMarkers_cons hlength, hcut, List.count_cons, ← ih]
      simp only [List.modifyHead_cons, List.map_cons, List.sum_cons, List.count_cons,
        List.length_cons]
      omega
    | succ n =>
      have ih := count_cutAtMarkers (rest.drop n)
      have hcount : (c :: rest).count '\'' = ((c :: rest).take (n + 1)).count '\'' +
          ((c :: rest).drop (n + 1)).count '\'' := by
        rw [← List.count_append, List.take_append_drop]
      rw [hcount, count_marker hlength, List.drop_succ_cons, ← ih, markers,
        cutAtMarkers_marker hlength, List.drop_succ_cons, List.map_cons, List.sum_cons,
        List.length_cons, length_cutAtMarkers]
      simp only [List.count_nil]
      omega
  termination_by s => s.length

/-- The quotes of what an expected value is read as: those of its texts, but for stray markers. -/
theorem count_pieces : ∀ (first : List Char) (parts : List Part),
    ((cutAtMarkers first ++ parts.flatMap fun p => p.fragment :: cutAtMarkers p.literal).map
        (List.count '\'')).sum + (markers first + (parts.map fun p => markers p.literal).sum) =
      (spliced first parts).count '\''
  | first, [] => by
    have := count_cutAtMarkers first
    simpa [spliced, count_escape] using this
  | first, p :: parts => by
    have hfirst := count_cutAtMarkers first
    have hrest := count_pieces p.literal parts
    simp only [spliced, List.map_append, List.sum_append, List.count_append, count_escape,
      List.flatMap_cons, List.cons_append, List.map_cons, List.sum_cons] at hfirst hrest ⊢
    omega

/-- A text that a closing marker stands in has a marker. -/
theorem markers_ne_zero_of_closing : ∀ {s : List Char}, closing <:+: s → markers s ≠ 0
  | [], h => by
    rw [List.infix_nil, closing_eq] at h
    cases h
  | c :: rest, h => by
    cases hlength : markerLength (c :: rest) with
    | zero =>
      have hrest : closing <:+: rest := by
        refine (List.infix_cons_iff.mp h).resolve_left fun hprefix => ?_
        unfold markerLength at hlength
        rw [if_pos (List.isPrefixOf_iff_prefix.mpr hprefix)] at hlength
        split at hlength
        · cases hlength
        · split at hlength <;> cases hlength
      rw [markers, cutAtMarkers_cons hlength, List.length_modifyHead]
      exact markers_ne_zero_of_closing hrest
    | succ n =>
      rw [markers, cutAtMarkers_marker hlength, List.length_cons, length_cutAtMarkers]
      exact Nat.succ_ne_zero _

/-- **What is literal stays literal exactly when no closing marker stands in it.** Let fragments be
    written between literal texts, such that nothing within a fragment closes it and nothing else
    opens one. Then the value is read by the pieces of its literal texts, cut at the closing markers
    in them: every other piece is escaped. These are the literal texts themselves, and the fragments
    are what is used as a pattern, exactly when no literal text has such a marker. -/
theorem patternText_written_iff (h : Delimited first parts) :
    patternText (String.ofList (written first parts)) = joinPieces true (cutAtMarkers first ++
      parts.flatMap fun p => p.fragment :: cutAtMarkers p.literal) ∧
    (patternText (String.ofList (written first parts)) = spliced first parts ↔
      ¬ closing <:+: first ∧ ∀ p ∈ parts, ¬ closing <:+: p.literal) := by
  have hread : patternText (String.ofList (written first parts)) =
      joinPieces true (cutAtMarkers first ++
        parts.flatMap fun p => p.fragment :: cutAtMarkers p.literal) := by
    rw [patternText, String.toList_ofList, cutAtMarkers_written h]
  refine ⟨hread, fun hsame => ?_, fun hplain => patternText_written h hplain.1 hplain.2⟩
  -- equal texts have equally many quotes, and each stray marker would have lost one
  have hcount := count_pieces first parts
  rw [← count_joinPieces _ true, ← hread, hsame] at hcount
  have hnone : markers first = 0 ∧ (parts.map fun p => markers p.literal).sum = 0 := by omega
  refine ⟨fun hclosing => markers_ne_zero_of_closing hclosing hnone.1, fun p hp hclosing => ?_⟩
  exact markers_ne_zero_of_closing hclosing
    (List.sum_eq_zero_iff_forall_eq_nat.mp hnone.2 _ (List.mem_map_of_mem hp))

/-- The first literal text has a quote of its own, and the second one brackets. -/
theorem patternText_written_iff_report :
    let first := "it's ".toList
    let parts : List Part := [⟨"[0-9]+".toList, " (of ".toList⟩, ⟨"\\d\x7b2\x7d".toList, ")".toList⟩]
    Delimited first parts ∧ (patternText (String.ofList (written first parts)) =
        joinPieces true (cutAtMarkers first ++
          parts.flatMap fun p => p.fragment :: cutAtMarkers p.literal) ∧
      (patternText (String.ofList (written first parts)) = spliced first parts ↔
        ¬ closing <:+: first ∧ ∀ p ∈ parts, ¬ closing <:+: p.literal)) := by
  intro first parts
  have h : Delimited first parts := .of_places (by decide +kernel) (by decide +kernel)
  exact ⟨h, patternText_written_iff h⟩

/-- **A stray closing marker turns the fragment behind it into a literal**, and is lost itself. -/
theorem stray_marker_swaps :
    Delimited "a')\x7db".toList [⟨"x+".toList, "c".toList⟩] ∧
    patternText (String.ofList (written "a')\x7db".toList [⟨"x+".toList, "c".toList⟩])) =
      "abx\\+c".toList ∧
    spliced "a')\x7db".toList [⟨"x+".toList, "c".toList⟩] = "a'\\)\\\x7dbx+c".toList :=
  ⟨.of_places (by decide +kernel) (by decide +kernel), by decide +kernel, by decide +kernel⟩

end Reconcile.Expectation
