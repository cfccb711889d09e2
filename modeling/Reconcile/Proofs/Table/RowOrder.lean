import Reconcile.Proofs.Table.KeyedAccount

/-!
# The order of the actual rows

A keyed run looks actual rows up by key. Where no key comes twice among them, and no expected key is
equal to two of them, their order does not count: what every expected row takes, and which rows are
left over, is the same. Only the numbers in the names of surplus rows, and their order, differ.

* `TellsApart`: keys tell the actual rows apart;
* `Passage.TakesSameRow`, `passages_perm`: each passage takes the same row in both orders;
* `leftOver_perm`: the same rows are left over;
* `SameButOrder`: two reports that differ in the order of surplus rows only;
* **`keyed_ignores_actual_order`**: the reports of two orders of the actual rows are so.
-/

namespace Reconcile.Table

open Reconcile.Diff Reconcile.Expectation

variable {s : Settings} {expected actual actual' : List Row}

/-! ## 1. Rows that are told apart -/

variable (s expected actual) in
/-- No two actual rows have equal keys, and no expected row has the key of two of them. -/
structure TellsApart : Prop where
  distinct : DistinctKeys s (actual.map (actualKey s))
  one : ∀ e ∈ expected, actual.Pairwise fun a b =>
    rowsMatch s e a = true → rowsMatch s e b = true → False

theorem DistinctKeys.perm {keys keys' : List RowKey} (h : keys.Perm keys')
    (hdistinct : DistinctKeys s keys) : DistinctKeys s keys' :=
  h.pairwise hdistinct fun {k l} hkl => by rwa [sameKey_comm]

/-- No row that is told apart is marked as a duplicate. -/
theorem TellsApart.unmarked (h : DistinctKeys s (actual.map (actualKey s))) :
    ∀ c ∈ candidates s actual, c.duplicateOf = none :=
  (no_candidate_repeats s actual).mpr fun _ => h

/-! ## 2. What both orders take -/

/-- Two passages of one expected row that take the same actual row, wherever it stands. -/
structure Passage.TakesSameRow (p q : Passage) : Prop where
  number : p.number = q.number
  row : p.row = q.row
  taken : p.taken.map Candidate.row = q.taken.map Candidate.row
  unmarked : (∀ c, p.taken = some c → c.duplicateOf = none) ∧
    ∀ c, q.taken = some c → c.duplicateOf = none
  repeats : p.repeats = q.repeats

/-- They are routed alike: the number of the actual row does not matter. -/
theorem Passage.TakesSameRow.route {p q : Passage} (h : p.TakesSameRow q) : p.route s = q.route s := by
  have htaken := h.taken
  unfold Passage.route
  rw [h.number, h.row, h.repeats]
  cases hp : p.taken with
  | none =>
    rw [hp, Option.map_none, eq_comm, Option.map_eq_none_iff] at htaken
    rw [htaken]
  | some c =>
    rw [hp, Option.map_some, eq_comm, Option.map_eq_some_iff] at htaken
    obtain ⟨d, hq, hrow⟩ := htaken
    rw [hq]
    dsimp only
    rw [h.unmarked.1 c hp, h.unmarked.2 d hq, hrow]

/-- The pairing is the same in both orders, up to the order of what is left over. -/
theorem pairing_perm (h : TellsApart s expected actual) (hperm : actual.Perm actual') :
    (pairing s expected actual).1 = (pairing s expected actual').1 ∧
      (pairing s expected actual).2.Perm (pairing s expected actual').2 :=
  firstMatches_perm (rowsMatch s) expected hperm h.one

/-- **Each passage takes the same row in both orders.** -/
theorem passages_perm (h : TellsApart s expected actual) (hperm : actual.Perm actual') :
    List.Forall₂ Passage.TakesSameRow (passages s expected actual) (passages s expected actual') := by
  have hunmarked := TellsApart.unmarked h.distinct
  have hunmarked' := TellsApart.unmarked (h.distinct.perm (hperm.map _))
  have htaken : (passages s expected actual).map (fun p => p.taken.map Candidate.row) =
      (passages s expected actual').map fun p => p.taken.map Candidate.row := by
    have hpairing := (pairing_perm h hperm).1
    rwa [pairing_eq, pairing_eq] at hpairing
  have hrepeats : (passages s expected actual).map Passage.repeats =
      (passages s expected actual').map Passage.repeats := by
    rw [passages, passages, (passagesFrom_map s expected 1 [] _).2.2,
      (passagesFrom_map s expected 1 [] _).2.2]
  refine List.forall₂_iff_get.mpr ⟨by simpa using congrArg List.length hrepeats, fun i hi hi' => ?_⟩
  have hp := List.getElem?_eq_getElem hi
  have hq := List.getElem?_eq_getElem hi'
  obtain ⟨hnumber, hrow⟩ := passage_at s hp
  obtain ⟨hnumber', hrow'⟩ := passage_at s hq
  refine ⟨hnumber.trans hnumber'.symm, Option.some.inj (hrow.symm.trans hrow'), ?_, ⟨?_, ?_⟩, ?_⟩
  · have hsame := getElem?_of_map_eq htaken hp
    rw [List.getElem?_map, hq, Option.map_some] at hsame
    exact (Option.some.inj hsame).symm
  · exact fun c hc => hunmarked c ((mem_candidates_iff s expected actual).mpr
      (.inl ⟨_, List.getElem_mem hi, hc⟩))
  · exact fun c hc => hunmarked' c ((mem_candidates_iff s expected actual').mpr
      (.inl ⟨_, List.getElem_mem hi', hc⟩))
  · have hsame := getElem?_of_map_eq hrepeats hp
    rw [List.getElem?_map, hq, Option.map_some] at hsame
    exact (Option.some.inj hsame).symm

theorem leftOver_perm (h : TellsApart s expected actual) (hperm : actual.Perm actual') :
    ((leftOver s expected actual).map Candidate.row).Perm
      ((leftOver s expected actual').map Candidate.row) := by
  have hpairing := (pairing_perm h hperm).2
  rwa [pairing_eq, pairing_eq] at hpairing

/-! ## 3. The two reports -/

/-- The rows of a report for surplus rows, each with its place. -/
def surplusAt (s : Settings) (rows : List (Nat × Row)) : List Tree :=
  rows.map fun q => extraRow s s!"Extra row #{q.1 + 1}" q.2

/-- Two reports that differ in the order of their surplus rows and in the numbers of these only. -/
structure SameButOrder (s : Settings) (rows rows' : List Row) (t u : Tree) : Prop where
  success : t.success = u.success
  comment : t.comment = u.comment
  sections : ∀ p : Section, p ≠ .extra → t.child? p.name = u.child? p.name
  extras : ∃ surplus surplus' : List (Nat × Row),
    sectionRows t .extra = surplusAt s surplus ∧ sectionRows u .extra = surplusAt s surplus' ∧
    (∀ q ∈ surplus, rows[q.1]? = some q.2) ∧ (∀ q ∈ surplus', rows'[q.1]? = some q.2) ∧
    (surplus.map Prod.snd).Perm (surplus'.map Prod.snd)

/-- The reported ones of left-over candidates that are not marked. -/
theorem reported_unmarked {left : List Candidate} (h : ∀ c ∈ left, c.duplicateOf = none) :
    left.filter (isReported s) = if s.tableExtraPolicy = .ignore then [] else left := by
  split
  · rename_i hpolicy
    refine List.filter_eq_nil_iff.mpr fun c hc => ?_
    rw [isReported, h c hc, hpolicy]
    decide
  · rename_i hpolicy
    refine List.filter_eq_self.mpr fun c _ => ?_
    rw [isReported, bne_iff_ne.mpr hpolicy, Bool.true_or]

/-- Where each of the reported candidates stands, and its row. -/
def placed (cs : List Candidate) : List (Nat × Row) := cs.map fun c => (c.place, c.row)

theorem surplusRows_placed {left : List Candidate} (hmem : ∀ c ∈ left, c ∈ candidates s actual)
    (h : ∀ c ∈ left, c.duplicateOf = none) :
    (left.filter (isReported s)).map (surplusRow s) =
      surplusAt s (placed (left.filter (isReported s))) := by
  rw [surplusAt, placed, List.map_map]
  refine List.map_congr_left fun c hc => ?_
  have hleft := (List.mem_filter.mp hc).1
  rw [surplusRow, h c hleft, (candidate_of_mem (hmem c hleft)).1]
  rfl

/-- Outcomes of left-over candidates that are not marked: all are the same. -/
theorem routeLeftovers_outcomes {left left' : List Candidate}
    (h : ∀ c ∈ left, c.duplicateOf = none) (h' : ∀ c ∈ left', c.duplicateOf = none)
    (hlength : left.length = left'.length) :
    (routeLeftovers s left).map (fun r => r.row.success) =
      (routeLeftovers s left').map fun r => r.row.success := by
  have houtcome : ∀ (cs : List Candidate), (∀ c ∈ cs, c.duplicateOf = none) →
      (routeLeftovers s cs).map (fun r => r.row.success) =
        List.replicate (cs.filter (isReported s)).length (s.tableExtraPolicy != .fail) := by
    intro cs hcs
    rw [routeLeftovers_eq, List.map_map]
    refine List.map_eq_replicate_iff.mpr fun c hc => ?_
    have hnone := hcs c (List.mem_filter.mp hc).1
    rw [Function.comp_apply, surplusRow, markIf_success, extraRow_success, hnone]
    exact Bool.and_true _
  rw [houtcome left h, houtcome left' h', reported_unmarked h, reported_unmarked h']
  split
  · rfl
  · rw [hlength]

/-- What a keyed report says, from the outcomes of its rows and the rows of a section. -/
theorem keyedReport_congr (n left : Nat) {routed routed' : List RoutedRow}
    (h : routed.map (fun r => r.row.success) = routed'.map fun r => r.row.success) :
    (keyedReport s n left routed).success = (keyedReport s n left routed').success ∧
      (keyedReport s n left routed).comment = (keyedReport s n left routed').comment ∧
      ∀ p, rowsOf p routed = rowsOf p routed' → (keyedReport s n left routed).child? p.name =
        (keyedReport s n left routed').child? p.name := by
  rw [keyedReport, keyedReport]
  split
  · exact ⟨rfl, rfl, fun _ _ => rfl⟩
  · obtain ⟨hsuccess, hcomment⟩ := report_verdict s.caps h
    refine ⟨hsuccess, hcomment, fun p hp => ?_⟩
    have hsection := child?_section s.caps routed none p
    rw [hp] at hsection
    exact hsection.trans (child?_section s.caps routed' none p).symm

/-- The surplus rows of a report whose candidates are not marked. -/
theorem sectionRows_unmarked (hcaps : s.caps = {}) {routed : List RoutedRow}
    (hrouted : List.Forall₂ (fun p r => p.route s = .ok r) (passages s expected actual) routed)
    (hunmarked : ∀ c ∈ leftOver s expected actual, c.duplicateOf = none) :
    sectionRows (keyedReport s expected.length (leftOver s expected actual).length
        (routed ++ routeLeftovers s (leftOver s expected actual))) .extra =
      surplusAt s (placed ((leftOver s expected actual).filter (isReported s))) := by
  rw [sectionRows_keyedReport hcaps (nothing_routed hrouted), rowsOf_append,
    rowsOf_eq_nil (routed_ne_extra hrouted), rowsOf_leftovers, List.nil_append,
    surplusRows_placed (fun c => leftOver_mem) hunmarked]

theorem placed_at {q : Nat × Row}
    (hq : q ∈ placed ((leftOver s expected actual).filter (isReported s))) :
    actual[q.1]? = some q.2 := by
  obtain ⟨c, hc, rfl⟩ := List.mem_map.mp hq
  exact (candidate_of_mem (leftOver_mem (List.mem_filter.mp hc).1)).2.1

/-- **The reports of both orders** differ in their surplus rows only. -/
theorem keyedReport_perm (hcaps : s.caps = {}) (h : TellsApart s expected actual)
    (hperm : actual.Perm actual') {routed : List RoutedRow}
    (hrouted : List.Forall₂ (fun p r => p.route s = .ok r) (passages s expected actual) routed)
    (hrouted' : List.Forall₂ (fun p r => p.route s = .ok r) (passages s expected actual') routed) :
    SameButOrder s actual actual'
      (keyedReport s expected.length (leftOver s expected actual).length
        (routed ++ routeLeftovers s (leftOver s expected actual)))
      (keyedReport s expected.length (leftOver s expected actual').length
        (routed ++ routeLeftovers s (leftOver s expected actual'))) := by
  have hunmarked : ∀ c ∈ leftOver s expected actual, c.duplicateOf = none := fun c hc =>
    TellsApart.unmarked h.distinct c (leftOver_mem hc)
  have hunmarked' : ∀ c ∈ leftOver s expected actual', c.duplicateOf = none := fun c hc =>
    TellsApart.unmarked (h.distinct.perm (hperm.map _)) c (leftOver_mem hc)
  have hleft := leftOver_perm h hperm
  have hlength : (leftOver s expected actual).length = (leftOver s expected actual').length := by
    simpa using hleft.length_eq
  have houtcomes : (routed ++ routeLeftovers s (leftOver s expected actual)).map
        (fun r => r.row.success) =
      (routed ++ routeLeftovers s (leftOver s expected actual')).map fun r => r.row.success := by
    rw [List.map_append, List.map_append, routeLeftovers_outcomes hunmarked hunmarked' hlength]
  have hextras := sectionRows_unmarked hcaps hrouted hunmarked
  rw [hlength] at hextras ⊢
  obtain ⟨hsuccess, hcomment, hsections⟩ := keyedReport_congr (s := s) expected.length
    (leftOver s expected actual').length houtcomes
  refine ⟨hsuccess, hcomment, fun p hp => hsections p ?_, _, _, hextras,
    sectionRows_unmarked hcaps hrouted' hunmarked', fun q => placed_at, fun q => placed_at, ?_⟩
  · rw [rowsOf_append, rowsOf_append, rowsOf_leftovers_of_ne _ _ hp, rowsOf_leftovers_of_ne _ _ hp]
  · rw [placed, placed, List.map_map, List.map_map, reported_unmarked hunmarked,
      reported_unmarked hunmarked']
    split
    · exact .refl _
    · exact hleft

/-! ## 4. The two runs -/

/-- **The order of the actual rows does not matter.** Whatever the policy for surplus rows and the
    tolerances of numeric columns are, and whether duplicates are looked for or not: when keys tell
    the actual rows apart, a keyed run without caps and the run over the same actual rows in another
    order fail alike, or give reports that differ in the order and the numbers of the surplus rows
    only. -/
theorem keyed_ignores_actual_order {s : Settings} {expected actual actual' : Supply}
    (hkeyed : s.isKeyed = true) (hcaps : s.caps = {}) (he : expected.IsReadable)
    (ha : actual.IsReadable) (ha' : actual'.IsReadable)
    (hheader : actual'.source.header = actual.source.header)
    (hrows : actual.source.rows.Perm actual'.source.rows)
    (h : TellsApart s expected.source.rows actual.source.rows) :
    BothGive (SameButOrder s actual.source.rows actual'.source.rows)
      (compare s expected actual).result (compare s expected actual').result := by
  have hsame : (passages s expected.source.rows actual'.source.rows).mapM (Passage.route s) =
      (passages s expected.source.rows actual.source.rows).mapM (Passage.route s) :=
    (mapM_congr_of_forall₂ ((passages_perm h hrows).imp fun _ _ => Passage.TakesSameRow.route)).symm
  rw [compare_of_readable he ha, compare_of_readable he ha',
    compareSources_of_readable hkeyed he.source ha.source,
    compareSources_of_readable hkeyed he.source ha'.source, hheader]
  cases checkKeyColumns s expected.source.header actual.source.header with
  | error f => exact .error f
  | ok _ =>
    dsimp only
    rw [compareKeyed_result he.source.fault ha.source.fault,
      compareKeyed_result he.source.fault ha'.source.fault, hsame]
    cases hrouted : (passages s expected.source.rows actual.source.rows).mapM (Passage.route s) with
    | error b => exact .error _
    | ok routed =>
      exact .ok (keyedReport_perm hcaps h hrows (mapM_eq_ok_iff.mp hrouted)
        (mapM_eq_ok_iff.mp (hsame.trans hrouted)))

/-- Two expected rows compete for one actual row, up to a tolerance; two actual rows are left over,
    in either order. -/
theorem keyed_ignores_actual_order_stock :
    let s : Settings :=
      { keyColumns := ["Item"], numericColumns := [("Item", ⟨false, 1, 0⟩)], checkDuplicates := true
        extraPolicy := some .info }
    let expected := stockOf [("6", "3"), ("7", "1"), ("15", "2")]
    let actual := stockOf [("7", "3"), ("9", "4"), ("20", "5")]
    let actual' := stockOf [("20", "5"), ("7", "3"), ("9", "4")]
    ∃ t u, (compare s expected actual).result = .ok t ∧ (compare s expected actual').result = .ok u ∧
      t.children ≠ [] ∧ SameButOrder s actual.source.rows actual'.source.rows t u := by
  intro s expected actual actual'
  obtain ⟨t, ht, hsome⟩ := exists_of_any (r := (compare s expected actual).result)
    (p := fun t => !t.children.isEmpty) (by decide +kernel)
  have hperm : actual.source.rows.Perm actual'.source.rows := by decide +kernel
  have happart : TellsApart s expected.source.rows actual.source.rows :=
    ⟨by decide +kernel, by decide +kernel⟩
  have hsame : BothGive (SameButOrder s actual.source.rows actual'.source.rows)
      (compare s expected actual).result (compare s expected actual').result :=
    keyed_ignores_actual_order (by decide) rfl (stockOf_isReadable _) (stockOf_isReadable _)
      (stockOf_isReadable _) rfl hperm happart
  obtain ⟨u, hu, hsame⟩ := hsame.of_ok ht
  exact ⟨t, u, ht, hu, by simpa using hsome, hsame⟩

end Reconcile.Table
