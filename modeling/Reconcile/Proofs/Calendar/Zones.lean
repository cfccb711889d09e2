import Reconcile.Calendar.Reader

/-!
# Zones of moments

A format asks for a distance from universal time, or it does not: the moments that are read with one
format either all have a zone, or none of them has. So moments of one format that denote the same
instant are the same.

* `take_zone`, `ofFields_zone`: the part that says the zone, among the parts of a date;
* `exists_reading`: how a date is read;
* `asksForZone`, **`zone_isSome_of_readDate`**: what a date pattern says about the zone;
* `same_iff_of_readDate`: moments of one pattern.
-/

namespace Reconcile.Calendar

/-! ## 1. Parts of a date -/

/-- One part says the zone, and the others leave it. -/
theorem Reading.take_zone {afternoon : Bool} {r r' : Reading} {d : Directive} {cs : List Char}
    (h : r.take afternoon d cs = some r') : r'.zone.isSome = (r.zone.isSome || d == .zone) := by
  cases d
  case zone =>
    obtain ⟨z, _, rfl⟩ := Option.map_eq_some_iff.mp h
    simp
  case weekdayName | weekdayShort | monthName | monthShort =>
    obtain ⟨i, _, rfl⟩ := Option.map_eq_some_iff.mp h
    simp
  all_goals
    obtain rfl := Option.some.inj h
    simp

theorem Reading.foldlM_zone {afternoon : Bool} : ∀ {fields : List (Directive × List Char)}
    {r r' : Reading}, fields.foldlM (fun r (d, cs) => r.take afternoon d cs) r = some r' →
    r'.zone.isSome = (r.zone.isSome || (fields.map Prod.fst).contains .zone)
  | [], r, r', h => by
    obtain rfl := Option.some.inj h
    simp
  | (d, cs) :: fields, r, r', h => by
    rw [List.foldlM_cons] at h
    obtain ⟨mid, hmid, hrest⟩ := Option.bind_eq_some_iff.mp h
    have hzone := Reading.take_zone hmid
    have ih := Reading.foldlM_zone hrest
    rw [ih, hzone, List.map_cons, List.contains_cons, Bool.or_assoc]
    cases d <;> rfl

theorem Reading.ofFields_zone {fields : List (Directive × List Char)} {r : Reading}
    (h : Reading.ofFields fields = some r) :
    r.zone.isSome = (fields.map Prod.fst).contains .zone := by
  have hzone := Reading.foldlM_zone h
  rwa [show ({} : Reading).zone.isSome = false from rfl, Bool.false_or] at hzone

/-- A moment has the zone of its parts. -/
theorem Reading.moment?_zone {rule : IsoRule} {r : Reading} {m : Moment}
    (h : r.moment? rule = some m) :
    m.zone = r.zone := by
  unfold Reading.moment? at h
  split at h
  · obtain ⟨day, _, hparts⟩ := Option.bind_eq_some_iff.mp h
    unfold Moment.ofParts? at hparts
    dsimp only at hparts
    split at hparts
    · obtain rfl := Option.some.inj hparts
      rfl
    · cases hparts
  · cases h

/-! ## 2. Formats -/

/-- What was taken of a text is told for each directive of the format. -/
theorem FormatPart.scan_fields {parts : List FormatPart} {value : String}
    {fields : List (Directive × List Char)} (h : FormatPart.scan parts value = some fields) :
    fields.map Prod.fst = FormatPart.fields parts := by
  unfold FormatPart.scan at h
  split at h
  · cases h
  · dsimp only at h
    split at h
    · obtain rfl := Option.some.inj h
      rw [List.map_map]
      exact List.zipIdx_map_fst 0 _
    · cases h

/-- A date that was read: the format of its pattern took the text apart, and the parts gave it. -/
theorem exists_reading {pattern : String} {value : Option String} {rule : IsoRule} {m : Moment}
    (h : readDate pattern value rule = .ok (some m)) :
    ∃ directives parts fields r v, value = some v ∧ directivesOf pattern = .ok directives ∧
      readFormat? directives = some parts ∧ FormatPart.scan parts v = some fields ∧
      Reading.ofFields fields = some r ∧ r.moment? rule = some m := by
  cases value with
  | none => cases h
  | some v =>
    unfold readDate at h
    dsimp only at h
    split at h
    · cases h
    · rename_i directives hdirectives
      unfold readWith at h
      split at h
      · cases h
      · rename_i parts hparts
        split at h
        · cases h
        · have hread := Except.ok.inj h
          obtain ⟨fields, hscan, hmoment⟩ := Option.bind_eq_some_iff.mp hread
          obtain ⟨r, hfields, hr⟩ := Option.bind_eq_some_iff.mp hmoment
          exact ⟨directives, parts, fields, r, v, rfl, hdirectives, hparts, hscan, hfields, hr⟩

/-- Whether the format that a date pattern stands for asks for a distance from universal time. -/
def asksForZone (pattern : String) : Bool :=
  (directivesOf pattern).toOption.any fun directives =>
    (readFormat? directives).any fun parts => (FormatPart.fields parts).contains .zone

/-- **The moments of a pattern** have a zone when the pattern asks for one, and only then. -/
theorem zone_isSome_of_readDate {pattern : String} {value : Option String} {rule : IsoRule}
    {m : Moment} (h : readDate pattern value rule = .ok (some m)) :
    m.zone.isSome = asksForZone pattern := by
  obtain ⟨directives, parts, fields, r, v, _, hdirectives, hparts, hscan, hfields, hr⟩ :=
    exists_reading h
  have hzone : m.zone.isSome = (FormatPart.fields parts).contains .zone := by
    rw [Reading.moment?_zone hr, Reading.ofFields_zone hfields, FormatPart.scan_fields hscan]
  rw [hzone, asksForZone, hdirectives]
  simp [Except.toOption, hparts]

/-- Two moments of one pattern are the same when they denote the same instant. -/
theorem same_iff_of_readDate {pattern : String} {value value' : Option String} {rule : IsoRule}
    {m m' : Moment} (h : readDate pattern value rule = .ok (some m))
    (h' : readDate pattern value' rule = .ok (some m')) :
    m.same m' = (m.instant == m'.instant) := by
  have hzone := zone_isSome_of_readDate h
  have hzone' := zone_isSome_of_readDate h'
  rw [Moment.same, hzone, hzone', beq_self_eq_true, Bool.true_and]

end Reconcile.Calendar
