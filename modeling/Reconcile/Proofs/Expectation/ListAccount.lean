import Mathlib.Data.List.Nodup
import Reconcile.Expectation.Check
import Reconcile.Proofs.Traversal
import Reconcile.Proofs.Turns

/-!
# The account of two lists of values

A comparison of lists accounts for every value. Each expected one has its turn: it takes the first
actual value left that it accepts, and has a leaf that says so. What nobody took is reported after
these leaves, in its order.

* `Search.Describes`, **`searchList_describes`**: what a search finds, said without the search;
* `ValueLeaf`: what the leaf of an expected value says of what it takes;
* `ListAccount`: what a report says of the two lists;
* `consumeAll_cons`, `consumeAll_account`: one turn, and all turns one after the other;
* **`compareLists_accounts`**: every report of two lists is such an account.
-/

namespace Reconcile.Expectation

open Reconcile.Diff

/-! ## 1. Searches -/

/-- The value that a search takes, with its place. -/
def Search.taken? : Search → Option (Nat × Option String)
  | .found place value => some (place, value)
  | .missing | .unreadable _ => none

/-- What was found among the values that are left: the first that is not refused is accepted, all
    are refused, or the expected value cannot be evaluated on the first that is not refused. -/
def Search.Describes (expected : Option String) (left : List (Nat × Option String)) : Search → Prop
  | .found place value => ∃ before after, left = before ++ (place, value) :: after ∧
      (∀ q ∈ before, accepts expected q.2 = .ok false) ∧ accepts expected value = .ok true
  | .missing => ∀ q ∈ left, accepts expected q.2 = .ok false
  | .unreadable cause => ∃ before q after, left = before ++ q :: after ∧
      (∀ p ∈ before, accepts expected p.2 = .ok false) ∧
      accepts expected q.2 = .error (.malformed cause)

/-- One more value that is refused does not change what is found after it. -/
theorem Search.Describes.cons {expected : Option String} {left : List (Nat × Option String)}
    {q : Nat × Option String} (hq : accepts expected q.2 = .ok false) {search : Search}
    (h : search.Describes expected left) : search.Describes expected (q :: left) := by
  cases search with
  | found place value =>
    obtain ⟨before, after, rfl, hbefore, hvalue⟩ := h
    exact ⟨q :: before, after, rfl, List.forall_mem_cons.mpr ⟨hq, hbefore⟩, hvalue⟩
  | missing => exact List.forall_mem_cons.mpr ⟨hq, h⟩
  | unreadable cause =>
    obtain ⟨before, p, after, rfl, hbefore, hp⟩ := h
    exact ⟨q :: before, p, after, rfl, List.forall_mem_cons.mpr ⟨hq, hbefore⟩, hp⟩

/-- **A search that returns finds the first value that is not refused.** -/
theorem searchList_describes {expected : Option String} :
    ∀ {left : List (Nat × Option String)} {search : Search},
    searchList expected left = .ok search → search.Describes expected left
  | [], search, h => by
    obtain rfl : Search.missing = search := Except.ok.inj h
    exact fun _ hq => absurd hq List.not_mem_nil
  | (place, value) :: rest, search, h => by
    rw [searchList] at h
    cases hvalue : accepts expected value with
    | ok accepted =>
      rw [hvalue] at h
      cases accepted with
      | true =>
        obtain rfl := Except.ok.inj h
        exact ⟨[], rest, rfl, fun _ hq => absurd hq List.not_mem_nil, hvalue⟩
      | false => exact (searchList_describes h).cons hvalue
    | error f =>
      rw [hvalue] at h
      cases f with
      | malformed cause =>
        obtain rfl := Except.ok.inj h
        exact ⟨[], (place, value), rest, rfl, fun _ hq => absurd hq List.not_mem_nil, hvalue⟩
      | breakdown b => cases h

/-! ## 2. What a report accounts for -/

/-- The actual values with their places. -/
def valuesOf (actual : List (Option String)) : List (Nat × Option String) :=
  actual.zipIdx.map fun (value, place) => (place, value)

/-- What an expected value takes of those that are free, and its leaf. It takes the first that it
    accepts. It takes nothing, and the leaf is a mismatch, when it refuses all of them; and the leaf
    is an error when it cannot be evaluated on one before which it refuses all. -/
inductive ValueLeaf (name : String) (expected : Option String)
    (free : List (Nat × Option String)) : Option (Nat × Option String) → Leaf → Prop where
  | matched {place : Nat} {value : Option String} (isFree : (place, value) ∈ free)
      (isMatch : accepts expected value = .ok true)
      (first : ∀ q ∈ free, q.1 < place → accepts expected q.2 = .ok false) :
      ValueLeaf name expected free (some (place, value))
        { name, expected, actual := value, outcome := .matched }
  | mismatch (refused : ∀ q ∈ free, accepts expected q.2 = .ok false) :
      ValueLeaf name expected free none { name, expected, actual := none, outcome := .mismatch }
  | unreadable {q : Nat × Option String} {cause : Cause} (isFree : q ∈ free)
      (isError : accepts expected q.2 = .error (.malformed cause))
      (first : ∀ p ∈ free, p.1 < q.1 → accepts expected p.2 = .ok false) :
      ValueLeaf name expected free none
        { name, expected, actual := none, outcome := .error, error := some cause.message }

/-- A report accounts for two lists of values, with what each expected value takes, the leaves of
    the expected values, and the actual ones that are unexpected. There is a leaf for each expected
    value, in order, and it takes among what those before it did not take. Every actual value is
    taken once or unexpected, and there is a comment when the lists do not match. -/
structure ListAccount (expected actual : List (Option String)) (label : String)
    (taken : List (Option (Nat × Option String))) (leaves : List Leaf)
    (unexpected : List (Nat × Option String)) (t : Tree) : Prop where
  turns : taken.length = expected.length
  length : leaves.length = expected.length
  leaf : ∀ (i : Nat) (e : Option String) (o : Option (Nat × Option String)) (leaf : Leaf),
    expected[i]? = some e → taken[i]? = some o → leaves[i]? = some leaf →
      ValueLeaf (label ++ "#" ++ toString (i + 1)) e (untaken (taken.take i) (valuesOf actual)) o
        leaf
  stands : ∀ q ∈ unexpected, actual[q.1]? = some q.2
  increasing : unexpected.Pairwise fun p q => p.1 < q.1
  accounted : ∀ (place : Nat) (value : Option String), actual[place]? = some value →
    Xor (∃! i : Nat, taken[i]? = some (some (place, value))) ((place, value) ∈ unexpected)
  fields : t.fields = leaves ++ unexpected.map fun (place, value) =>
    unexpectedLeaf label place value
  children : t.children = []
  name : t.name = some (if label.isEmpty then "Values" else label ++ "values")
  comment : t.comment = if t.success then none else some "Lists of values don't match"

/-! ## 3. Places -/

/-- A value stands at its place. -/
theorem mem_valuesOf {actual : List (Option String)} {q : Nat × Option String} :
    q ∈ valuesOf actual ↔ actual[q.1]? = some q.2 := by
  obtain ⟨place, value⟩ := q
  rw [← List.mk_mem_zipIdx_iff_getElem?, valuesOf, List.mem_map]
  constructor
  · rintro ⟨p, hp, heq⟩
    cases heq
    exact hp
  · exact fun h => ⟨_, h, rfl⟩

/-- Values stand in the order of their places. -/
theorem valuesOf_pairwise (actual : List (Option String)) :
    (valuesOf actual).Pairwise fun p q => p.1 < q.1 := by
  have hplaces : ((valuesOf actual).map Prod.fst).Pairwise (· < ·) := by
    rw [valuesOf, List.map_map]
    show (actual.zipIdx.map Prod.snd).Pairwise (· < ·)
    rw [List.zipIdx_map_snd]
    exact List.pairwise_lt_range'
  exact List.pairwise_map.mp hplaces

section Ordered

variable {left before after : List (Nat × Option String)} {q : Nat × Option String}
  (hleft : left.Pairwise fun p q => p.1 < q.1) (hsplit : left = before ++ q :: after)
include hleft hsplit

/-- What has a smaller place stands before. -/
theorem mem_before {p : Nat × Option String} (hp : p ∈ left) (hlt : p.1 < q.1) : p ∈ before := by
  rw [hsplit] at hp hleft
  refine (List.mem_append.mp hp).resolve_right fun hp => ?_
  rcases List.mem_cons.mp hp with rfl | hp
  · exact absurd hlt (Nat.lt_irrefl _)
  · have hafter := (List.pairwise_cons.mp (List.pairwise_append.mp hleft).2.1).1 p hp
    exact absurd hlt (Nat.lt_asymm hafter)

/-- Only one value stands at a place. -/
theorem filter_place : left.filter (·.1 != q.1) = left.filter fun p => some q ≠ some p := by
  refine List.filter_congr fun p hp => ?_
  rw [Bool.eq_iff_iff, bne_iff_ne, decide_eq_true_iff]
  refine not_congr ⟨fun heq => ?_, fun heq => by rw [Option.some.inj heq]⟩
  have hplaces : (left.map Prod.fst).Nodup := List.pairwise_map.mpr (hleft.imp Nat.ne_of_lt)
  have hq : q ∈ left := hsplit ▸ List.mem_append_right before List.mem_cons_self
  rw [List.inj_on_of_nodup_map hplaces hp hq heq]

end Ordered

/-! ## 4. Turns -/

/-- The leaf of an expected value, from what it found. -/
def Search.leaf (name : String) (expected : Option String) : Search → Leaf
  | .found _ value => { name, expected, actual := value, outcome := .matched }
  | .missing => { name, expected, actual := none, outcome := .mismatch }
  | .unreadable cause =>
    { name, expected, actual := none, outcome := .error, error := some cause.message }

variable {label : String}

/-- One turn: an expected value has its leaf, and leaves to others what it did not take. -/
theorem consumeAll_cons (number : Nat) (e : Option String) (rest : List (Option String))
    {left : List (Nat × Option String)} (hleft : left.Pairwise fun p q => p.1 < q.1) :
    consumeAll label number (e :: rest) left = do
      let search ← searchList e left
      let (leaves, last) ← consumeAll label (number + 1) rest
        (left.filter fun q => search.taken? ≠ some q)
      return (search.leaf (label ++ "#" ++ toString number) e :: leaves, last) := by
  rw [consumeAll]
  cases hsearch : searchList e left with
  | error b => rfl
  | ok search =>
    have hall : search.taken? = none → (left.filter fun q => search.taken? ≠ some q) = left :=
      fun hnone => List.filter_eq_self.mpr fun _ _ => by rw [hnone]; rfl
    show _ = (consumeAll label (number + 1) rest _ >>= _)
    cases search with
    | found place value =>
      obtain ⟨before, after, hsplit, _⟩ := searchList_describes hsearch
      rw [Search.taken?, ← filter_place hleft hsplit]
      rfl
    | missing =>
      rw [hall rfl]
      rfl
    | unreadable cause =>
      rw [hall rfl]
      rfl

/-- The value that an expected one takes of those that are left. -/
def takes (expected : Option String) (left : List (Nat × Option String)) :
    Option (Nat × Option String) :=
  (searchList expected left).toOption.bind Search.taken?

theorem takes_of_ok {expected : Option String} {left : List (Nat × Option String)} {search : Search}
    (h : searchList expected left = .ok search) : takes expected left = search.taken? := by
  rw [takes, h]
  rfl

/-- Only what is left is taken. -/
theorem takes_mem {expected : Option String} {left : List (Nat × Option String)}
    {q : Nat × Option String} (h : takes expected left = some q) : q ∈ left := by
  cases hsearch : searchList expected left with
  | error b =>
    rw [takes, hsearch] at h
    cases h
  | ok search =>
    rw [takes_of_ok hsearch] at h
    cases search with
    | found place value =>
      cases h
      obtain ⟨before, after, rfl, _⟩ := searchList_describes hsearch
      exact List.mem_append_right before List.mem_cons_self
    | missing => cases h
    | unreadable cause => cases h

/-- The leaf of a search says what was found. -/
theorem Search.Describes.leaf {name : String} {e : Option String}
    {left : List (Nat × Option String)} (hleft : left.Pairwise fun p q => p.1 < q.1)
    {search : Search} (h : search.Describes e left) :
    ValueLeaf name e left search.taken? (search.leaf name e) := by
  cases search with
  | found place value =>
    obtain ⟨before, after, hsplit, hbefore, hvalue⟩ := h
    refine .matched (hsplit ▸ List.mem_append_right before List.mem_cons_self) hvalue ?_
    exact fun q hq hlt => hbefore q (mem_before hleft hsplit hq hlt)
  | missing => exact .mismatch h
  | unreadable cause =>
    obtain ⟨before, q, after, hsplit, hbefore, hq⟩ := h
    refine .unreadable (hsplit ▸ List.mem_append_right before List.mem_cons_self) hq ?_
    exact fun p hp hlt => hbefore p (mem_before hleft hsplit hp hlt)

/-- **All turns**: each expected value has a leaf, and takes among what those before it did not
    take. -/
theorem consumeAll_account : ∀ (expected : List (Option String)) {number : Nat}
    {left : List (Nat × Option String)} {leaves : List Leaf} {last : List (Nat × Option String)},
    left.Pairwise (fun p q => p.1 < q.1) →
    consumeAll label number expected left = .ok (leaves, last) →
    last = (turns takes expected left).2 ∧ leaves.length = expected.length ∧
    ∀ (i : Nat) (e : Option String) (o : Option (Nat × Option String)) (leaf : Leaf),
      expected[i]? = some e → (turns takes expected left).1[i]? = some o →
      leaves[i]? = some leaf →
      ValueLeaf (label ++ "#" ++ toString (i + number)) e
        (untaken ((turns takes expected left).1.take i) left) o leaf
  | [], number, left, leaves, last, _, h => by
    rw [consumeAll] at h
    cases h
    exact ⟨rfl, rfl, fun i e o leaf he => absurd he (by simp)⟩
  | e :: rest, number, left, leaves, last, hleft, h => by
    rw [consumeAll_cons number e rest hleft] at h
    obtain ⟨search, hsearch, h⟩ := bind_ok_iff.mp h
    obtain ⟨⟨more, last⟩, hrest, h⟩ := bind_ok_iff.mp h
    cases h
    rw [← takes_of_ok hsearch] at hrest
    obtain ⟨rfl, hlength, hmore⟩ := consumeAll_account rest (hleft.filter _) hrest
    refine ⟨rfl, congrArg (· + 1) hlength, fun i e' o leaf he ho hl => ?_⟩
    rw [turns_cons] at ho ⊢
    cases i with
    | zero =>
      obtain rfl := Option.some.inj he
      obtain rfl := Option.some.inj ho
      obtain rfl := Option.some.inj hl
      rw [List.take_zero, untaken_nil, Nat.zero_add, takes_of_ok hsearch]
      exact (searchList_describes hsearch).leaf hleft
    | succ i =>
      have hlater := hmore i e' o leaf he ho hl
      rw [List.take_succ_cons, untaken_cons, Nat.add_right_comm]
      exact hlater

/-! ## 5. Reports -/

variable {expected actual : List (Option String)}

/-- A report of two lists has the leaves of the turns, and a leaf for what is left over. -/
theorem compareLists_ok {t : Tree} (h : compareLists expected actual label = .ok t) :
    ∃ leaves last, consumeAll label 1 expected (valuesOf actual) = .ok (leaves, last) ∧
      t.fields = leaves ++ last.map (fun (place, value) => unexpectedLeaf label place value) ∧
      t.children = [] ∧ t.success = t.fields.all Leaf.passes ∧
      t.name = some (if label.isEmpty then "Values" else label ++ "values") ∧
      t.comment = if t.success then none else some "Lists of values don't match" := by
  rw [compareLists] at h
  obtain ⟨⟨leaves, last⟩, hconsume, h⟩ := bind_ok_iff.mp h
  obtain rfl := Except.ok.inj h
  refine ⟨leaves, last, hconsume, rfl, rfl, ?_, rfl, ?_⟩
  · rw [Tree.success_eq]
    exact Bool.and_true _
  · rw [Tree.success_eq]
    show _ = if (_ && true) = true then _ else _
    rw [Bool.and_true]
    rfl

/-- Every value is taken by one expected value, or by nobody. -/
theorem taken_or_untaken (expected actual : List (Option String)) {q : Nat × Option String}
    (hq : q ∈ valuesOf actual) :
    Xor (∃! i : Nat, (turns takes expected (valuesOf actual)).1[i]? = some (some q))
      (q ∈ untaken (turns takes expected (valuesOf actual)).1 (valuesOf actual)) := by
  rw [mem_untaken]
  by_cases htaken : some q ∈ (turns takes expected (valuesOf actual)).1
  · obtain ⟨i, hi⟩ := List.mem_iff_getElem?.mp htaken
    exact .inl ⟨⟨i, hi, fun j hj => turns_once (fun _ _ _ => takes_mem) hj hi⟩,
      fun h => h.2 htaken⟩
  · exact .inr ⟨⟨hq, htaken⟩, fun ⟨i, hi, _⟩ => htaken (List.mem_of_getElem? hi)⟩

/-- **A comparison of lists accounts for every value**, also where expected values are expressions,
    overlap in what they accept, or are malformed. Each expected value has one leaf, in order, and
    takes the first value it accepts of those not taken before; every actual value is taken once or
    reported as unexpected, in its order; and there is a comment when the comparison fails. -/
theorem compareLists_accounts {t : Tree} (h : compareLists expected actual label = .ok t) :
    ∃ taken leaves unexpected, ListAccount expected actual label taken leaves unexpected t := by
  obtain ⟨leaves, last, hconsume, hfields, hchildren, _, hname, hcomment⟩ := compareLists_ok h
  obtain ⟨rfl, hlength, hleaf⟩ := consumeAll_account expected (valuesOf_pairwise actual) hconsume
  rw [turns_left] at hfields
  exact ⟨_, leaves, _,
    { turns := turns_length takes expected (valuesOf actual)
      length := hlength
      leaf := hleaf
      stands := fun q hq => mem_valuesOf.mp (mem_untaken.mp hq).1
      increasing := (valuesOf_pairwise actual).filter _
      accounted := fun place value hvalue =>
        taken_or_untaken expected actual (mem_valuesOf.mpr hvalue)
      fields := hfields
      children := hchildren
      name := hname
      comment := hcomment }⟩

/-- Expressions that overlap in what they accept, a bound that is no number, a value that is not
    there, and one too many. -/
theorem compareLists_accounts_overlap :
    let expected : List (Option String) := [some "@\x7bisNumber\x7d", some "7",
      some "@\x7bisGreaterThan(x)\x7d", none, some "3"]
    let actual : List (Option String) := [some "a", some "7", none, some "3"]
    ∃ t, compareLists expected actual "v" = .ok t ∧
      (∃ taken leaves unexpected, ListAccount expected actual "v" taken leaves unexpected t) ∧
      t.fields.map (fun leaf => (leaf.name, leaf.actual, leaf.outcome)) =
        [("v#1", some "7", .matched), ("v#2", none, .mismatch), ("v#3", none, .error),
          ("v#4", none, .matched), ("v#5", some "3", .matched),
          ("vunexpected #1", some "a", .mismatch)] := by
  intro expected actual
  have hleaves : (compareLists expected actual "v").toOption.map
      (fun t => t.fields.map fun leaf => (leaf.name, leaf.actual, leaf.outcome)) =
        some [("v#1", some "7", .matched), ("v#2", none, .mismatch), ("v#3", none, .error),
          ("v#4", none, .matched), ("v#5", some "3", .matched),
          ("vunexpected #1", some "a", .mismatch)] := by decide +kernel
  cases h : compareLists expected actual "v" with
  | error b =>
    rw [h] at hleaves
    cases hleaves
  | ok t =>
    rw [h] at hleaves
    exact ⟨t, rfl, compareLists_accounts h, Option.some.inj hleaves⟩

end Reconcile.Expectation
