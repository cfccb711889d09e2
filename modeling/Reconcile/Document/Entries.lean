/-!
# Entries by name

Lists of named entries that keep the order in which the names first came. Writing to a name that
is there already replaces its value and moves nothing, so a name comes at most once in what was
only written to.
-/

namespace Reconcile.Entries

/-- Writes an entry: in its place when the name is there, at the end when it is new. -/
def put {α : Type} (name : String) (value : α) : List (String × α) → List (String × α)
  | [] => [(name, value)]
  | (n, v) :: rest => if n == name then (n, value) :: rest else (n, v) :: put name value rest

/-- The entries after all the given ones were written. -/
def ofList {α : Type} (pairs : List (String × α)) : List (String × α) :=
  pairs.foldl (fun entries (name, value) => put name value entries) []

def names {α : Type} (entries : List (String × α)) : List String := entries.map (·.1)

/-- Writing an entry adds its name at the end, unless it is there already. -/
theorem names_put {α : Type} (name : String) (value : α) : ∀ entries : List (String × α),
    names (put name value entries) =
      if name ∈ names entries then names entries else names entries ++ [name]
  | [] => rfl
  | (n, v) :: rest => by
    have ih := names_put name value rest
    rw [put]
    by_cases h : n = name
    · rw [if_pos (beq_iff_eq.mpr h), if_pos (h ▸ List.mem_cons_self)]
      rfl
    · rw [if_neg (mt beq_iff_eq.mp h)]
      show n :: names (put name value rest) = if name ∈ n :: names rest then _ else _
      rw [ih]
      by_cases hrest : name ∈ names rest
      · rw [if_pos hrest, if_pos (List.mem_cons_of_mem n hrest)]
        rfl
      · have hnew : name ∉ n :: names rest := fun hmem =>
          (List.mem_cons.mp hmem).elim (fun hn => h hn.symm) hrest
        rw [if_neg hrest, if_neg hnew]
        rfl

/-- Where no name came twice, none does after an entry was written. -/
theorem nodup_names_put {α : Type} {entries : List (String × α)} (h : (names entries).Nodup)
    (name : String) (value : α) : (names (put name value entries)).Nodup := by
  rw [names_put]
  split
  · exact h
  · rename_i hnew
    rw [List.nodup_append]
    exact ⟨h, by simp, fun a ha b hb hab => hnew (List.mem_singleton.mp hb ▸ hab ▸ ha)⟩

/-- Where no name comes twice, every entry is found under its name. -/
theorem lookup_of_nodup {α : Type} {e : String × α} :
    ∀ {entries : List (String × α)}, (names entries).Nodup → e ∈ entries →
      entries.lookup e.1 = some e.2
  | [], _, he => by cases he
  | first :: rest, h, he => by
    obtain ⟨hfirst, hrest⟩ : first.1 ∉ names rest ∧ (names rest).Nodup := List.nodup_cons.mp h
    rcases List.mem_cons.mp he with rfl | he
    · exact List.lookup_cons_self
    · have hmem : e.1 ∈ names rest := List.mem_map_of_mem he
      have hne : e.1 ≠ first.1 := fun heq => hfirst (heq ▸ hmem)
      rw [List.lookup_cons, beq_eq_false_iff_ne.mpr hne]
      exact lookup_of_nodup hrest he

/-- What is found under a name is an entry. -/
theorem mem_of_lookup {α : Type} {name : String} {value : α} {entries : List (String × α)}
    (h : entries.lookup name = some value) : (name, value) ∈ entries := by
  obtain ⟨before, after, hentries, _⟩ := List.lookup_eq_some_iff.mp h
  rw [hentries]
  exact List.mem_append_right before List.mem_cons_self

/-- An entry makes no difference to what is found under other names. -/
theorem lookup_insert {α : Type} {name : String} {e : String × α} (h : name ≠ e.1)
    (before after : List (String × α)) :
    (before ++ e :: after).lookup name = (before ++ after).lookup name := by
  rw [List.lookup_append, List.lookup_append, List.lookup_cons, beq_eq_false_iff_ne.mpr h]

/-- What was written is the new entry or was there before. -/
theorem mem_put {α : Type} {name : String} {value : α} {entries : List (String × α)}
    {e : String × α} (h : e ∈ put name value entries) : e = (name, value) ∨ e ∈ entries := by
  induction entries with
  | nil => exact .inl (List.mem_singleton.mp h)
  | cons first rest ih =>
    obtain ⟨n, v⟩ := first
    rw [put] at h
    by_cases hn : n = name
    · rw [if_pos (beq_iff_eq.mpr hn), hn] at h
      exact (List.mem_cons.mp h).imp_right (List.mem_cons_of_mem _)
    · rw [if_neg (mt beq_iff_eq.mp hn)] at h
      rcases List.mem_cons.mp h with rfl | h
      · exact .inr List.mem_cons_self
      · exact (ih h).imp_right (List.mem_cons_of_mem _)

/-- What is left after all entries were written is one of them. -/
theorem mem_of_mem_ofList {α : Type} {pairs : List (String × α)} {e : String × α}
    (h : e ∈ ofList pairs) : e ∈ pairs := by
  have hfold : ∀ pairs entries : List (String × α),
      e ∈ pairs.foldl (fun entries (name, value) => put name value entries) entries →
        e ∈ entries ∨ e ∈ pairs := by
    intro pairs
    induction pairs with
    | nil => exact fun entries h => .inl h
    | cons p rest ih =>
      intro entries h
      rcases ih _ h with h | h
      · rcases mem_put h with rfl | h
        · exact .inr List.mem_cons_self
        · exact .inl h
      · exact .inr (List.mem_cons_of_mem p h)
  exact (hfold pairs [] h).resolve_left List.not_mem_nil

/-- A new name is written at the end. -/
theorem put_of_new {α : Type} {name : String} (value : α) : ∀ {entries : List (String × α)},
    name ∉ names entries → put name value entries = entries ++ [(name, value)]
  | [], _ => rfl
  | (n, v) :: rest, h => by
    obtain ⟨hne, hrest⟩ := List.ne_and_not_mem_of_not_mem_cons h
    rw [put, if_neg (mt beq_iff_eq.mp hne.symm), put_of_new value hrest]
    rfl

/-- Where no name comes twice, entries that are written one after the other stand in their order,
    whatever they are written to, if a new name always goes to the end. -/
theorem foldl_of_nodup {α β : Type} {write : β → String × α → β} (image : List (String × α) → β)
    (hnew : ∀ entries e, e.1 ∉ names entries → write (image entries) e = image (entries ++ [e])) :
    ∀ pairs entries : List (String × α), (names (entries ++ pairs)).Nodup →
      pairs.foldl write (image entries) = image (entries ++ pairs) := by
  intro pairs
  induction pairs with
  | nil => exact fun entries _ => congrArg image (List.append_nil entries).symm
  | cons p rest ih =>
    intro entries h
    rw [List.append_cons] at h
    have hmem : p.1 ∉ names entries := by
      rw [names, List.map_append, List.map_append, List.nodup_append] at h
      have hnodup := (List.nodup_append.mp h.1).2.2
      exact fun hmem => hnodup _ hmem _ (List.mem_singleton_self _) rfl
    rw [List.foldl_cons, List.append_cons, ← ih _ h, ← hnew entries p hmem]

/-- Where no name comes twice, writing all entries gives the same ones. -/
theorem ofList_of_nodup {α : Type} {pairs : List (String × α)} (h : (names pairs).Nodup) :
    ofList pairs = pairs :=
  foldl_of_nodup id (fun _ e => put_of_new e.2) pairs [] h

/-- No name comes twice in what was only written to. -/
theorem nodup_names_ofList {α : Type} (pairs : List (String × α)) : (names (ofList pairs)).Nodup := by
  have hfold : ∀ (pairs entries : List (String × α)), (names entries).Nodup →
      (names (pairs.foldl (fun entries (name, value) => put name value entries) entries)).Nodup := by
    intro pairs
    induction pairs with
    | nil => exact fun _ h => h
    | cons p rest ih => exact fun entries h => ih _ (nodup_names_put h p.1 p.2)
  exact hfold pairs [] List.nodup_nil

end Reconcile.Entries
