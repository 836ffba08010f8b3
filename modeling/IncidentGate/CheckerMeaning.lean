import IncidentGate.PlannedCheckers

/-!
What the operators of a declarative checker say of a mapping of facts, and where the
evaluation means it.

Every operator but two refuses unless its relation holds. The bounds refuse where the opposite
strict comparison holds, so a bound compared with a NaN is passed over; and collections that share a
NaN are equal in Python, though a NaN equals nothing.
-/

namespace IncidentGate.CheckerMeaning

open Lib.TextPattern PlannedCheckers

/-! ### The meaning -/

mutual

/-- The values are equal; a NaN equals nothing, wherever it stands. -/
def equal : Fact → Fact → Bool
  | .none, .none => true
  | .str s, .str t => s = t
  | .list xs, .list ys => equalItems xs ys
  | .map xs, .map ys => xs.length = ys.length && equalFields xs ys
  | x, y =>
    match x.number, y.number with
    | some p, some q => p.eq q
    | _, _ => false

def equalItems : List Fact → List Fact → Bool
  | [], [] => true
  | x :: xs, y :: ys => equal x y && equalItems xs ys
  | _, _ => false

def equalFields : List (String × Fact) → List (String × Fact) → Bool
  | [], _ => true
  | (k, v) :: rest, ys => (Fact.find k ys).any (equal v) && equalFields rest ys

end

mutual

/-- A NaN stands somewhere in the value. -/
def hasNaN : Fact → Bool
  | .float .nan _ => true
  | .list xs => itemsHaveNaN xs
  | .map fields => fieldsHaveNaN fields
  | _ => false

def itemsHaveNaN : List Fact → Bool
  | [] => false
  | x :: xs => hasNaN x || itemsHaveNaN xs

def fieldsHaveNaN : List (String × Fact) → Bool
  | [] => false
  | (_, v) :: rest => hasNaN v || fieldsHaveNaN rest

end

/-- Both are numbers, or both are of one type. -/
def SameKind (x y : Fact) : Prop := x.isNumber ∧ y.isNumber ∨ x.type = y.type

/-- Both have a value, and the first is less than the second or equal to it. -/
def AtMost (x y : Fact) : Prop :=
  ∃ p q, x.number = some p ∧ y.number = some q ∧ (p.lt q ∨ p.eq q)

/-- No element twice, and the elements are those of the other list. -/
def SameElements (xs ys : List Fact) : Prop :=
  xs.Pairwise (fun x y => ¬ equal x y) ∧ (∀ x ∈ xs, ∃ y ∈ ys, equal x y) ∧
    ∀ y ∈ ys, ∃ x ∈ xs, equal y x

/-- What an operator asks of a fact that is there. -/
def Asks (op : Operator) (actual value : Fact) (other : Option Fact) : Prop :=
  match op with
  | .eq => SameKind actual value ∧ equal actual value
  | .gte => actual.isNumber ∧ AtMost value actual
  | .lte => actual.isNumber ∧ AtMost actual value
  | .sequence_eq => actual.isList ∧ equal actual value
  | .set_eq => ∃ xs ys, actual = .list xs ∧ value = .list ys ∧ SameElements xs ys
  | .path_eq => ∃ o, other = some o ∧ actual.type = o.type ∧ equal actual o
  | .absent => False

/-- What an assertion says of the facts. -/
def Means (a : Assertion) (facts : Fact) : Prop :=
  if a.operator = .absent then lookup facts a.path = none
  else ∃ actual, lookup facts a.path = some actual ∧
    Asks a.operator actual a.value (a.other_path.bind (lookup facts))

def isNaN (x : Fact) : Prop := x.number = some .nan

/-- The assertion bounds a number, and one of the two it compares is not a number at all. -/
def BoundsNaN (a : Assertion) (facts : Fact) : Prop :=
  (a.operator = .gte ∨ a.operator = .lte) ∧ ∃ actual, lookup facts a.path = some actual ∧
    actual.isNumber ∧ (isNaN actual ∨ isNaN a.value)

/-- What an operator compares is equal in Python. -/
def Alike (op : Operator) (actual value : Fact) (other : Option Fact) : Prop :=
  match op with
  | .eq | .sequence_eq => actual.eq value
  | .set_eq => ∃ xs ys, actual = .list xs ∧ value = .list ys ∧ Fact.sameSet xs ys ∧ Fact.noRepeat xs
  | .path_eq => ∃ o, other = some o ∧ actual.eq o
  | .gte | .lte | .absent => False

/-- The assertion compares two collections that are equal in Python and share a NaN. -/
def SharesNaN (a : Assertion) (facts : Fact) : Prop :=
  ∃ actual, lookup facts a.path = some actual ∧ hasNaN actual ∧
    Alike a.operator actual a.value (a.other_path.bind (lookup facts))

/-- A NaN is in the way of the assertion. -/
def MeetsNaN (a : Assertion) (facts : Fact) : Prop := BoundsNaN a facts ∨ SharesNaN a facts

/-! ### Numbers and equality -/

lemma hasNaN_of_isSame {x y : Fact} (h : x.isSame y = true) : hasNaN x = true := by
  unfold Fact.isSame at h
  split at h
  · rfl
  · cases h

mutual

/-- Python's equality is equality where there is no NaN. -/
lemma equal_iff : ∀ x y : Fact, equal x y = true ↔ x.eq y = true ∧ hasNaN x = false
  | .list xs, y => by
    cases y with
    | list ys => simpa [equal, Fact.eq, hasNaN] using equalItems_iff xs ys
    | _ => simp [equal, Fact.eq, Fact.number]
  | .map xs, y => by
    cases y with
    | map ys => simp [equal, Fact.eq, hasNaN, equalFields_iff xs ys, and_assoc]
    | _ => simp [equal, Fact.eq, Fact.number]
  | .float p _, y => by
    cases p <;> cases y <;> simp [equal, Fact.eq, hasNaN, Fact.number, PyReal.eq]
  | .none, y | .bool _, y | .int _, y | .str _, y => by
    cases y <;> simp [equal, Fact.eq, hasNaN, Fact.number]

lemma equalItems_iff : ∀ xs ys : List Fact,
    equalItems xs ys = true ↔ Fact.eqItems xs ys = true ∧ itemsHaveNaN xs = false
  | [], ys => by cases ys <;> simp [equalItems, Fact.eqItems, itemsHaveNaN]
  | x :: xs, [] => by simp [equalItems, Fact.eqItems]
  | x :: xs, y :: ys => by
    have hsame : hasNaN x = false → x.isSame y = false := fun hx => by
      by_contra h
      simp [hasNaN_of_isSame (by simpa using h)] at hx
    simp only [equalItems, Fact.eqItems, itemsHaveNaN, Bool.and_eq_true, Bool.or_eq_true,
      Bool.or_eq_false_iff, equal_iff x y, equalItems_iff xs ys]
    constructor
    · rintro ⟨⟨heq, hx⟩, hitems, hxs⟩
      exact ⟨⟨.inr heq, hitems⟩, hx, hxs⟩
    · rintro ⟨⟨halike, hitems⟩, hx, hxs⟩
      exact ⟨⟨halike.resolve_left (by simp [hsame hx]), hx⟩, hitems, hxs⟩

lemma equalFields_iff : ∀ xs ys : List (String × Fact),
    equalFields xs ys = true ↔ Fact.eqFields xs ys = true ∧ fieldsHaveNaN xs = false
  | [], ys => by simp [equalFields, Fact.eqFields, fieldsHaveNaN]
  | (k, v) :: xs, ys => by
    have hsame : hasNaN v = false → ∀ w, v.isSame w = false := fun hv w => by
      by_contra h
      simp [hasNaN_of_isSame (by simpa using h)] at hv
    simp only [equalFields, Fact.eqFields, fieldsHaveNaN, Bool.and_eq_true, Bool.or_eq_true,
      Bool.or_eq_false_iff, Option.any_eq_true, equal_iff v, equalFields_iff xs ys]
    constructor
    · rintro ⟨⟨w, hw, heq, hv⟩, hfields, hxs⟩
      exact ⟨⟨⟨w, hw, .inr heq⟩, hfields⟩, hv, hxs⟩
    · rintro ⟨⟨⟨w, hw, halike⟩, hfields⟩, hv, hxs⟩
      exact ⟨⟨w, hw, halike.resolve_left (by simp [hsame hv w]), hv⟩, hfields, hxs⟩

end

lemma alike_of_equal {x y : Fact} (h : equal x y = true) : x.alike y = true := by
  simp [Fact.alike, ((equal_iff x y).mp h).1]

lemma equal_of_alike {x y : Fact} (h : x.alike y = true) (hx : hasNaN x = false) :
    equal x y = true := by
  refine (equal_iff x y).mpr ⟨?_, hx⟩
  rcases Bool.or_eq_true_iff.mp h with hsame | heq
  · simp [hasNaN_of_isSame hsame] at hx
  · exact heq

lemma number_of_isNumber {x : Fact} (h : x.isNumber = true) : ∃ p, x.number = some p := by
  cases x with
  | int n => exact ⟨_, rfl⟩
  | float p => exact ⟨_, rfl⟩
  | _ => cases h

lemma same_type_iff {x y : Fact} : same_type x y = true ↔ SameKind x y := by
  unfold same_type SameKind
  cases x <;> cases y <;> simp [Fact.isNumber, Fact.type]

lemma eq_nan (p : PyReal) : p.eq .nan = false := by cases p <;> simp [PyReal.eq]

lemma not_nan_of_eq {x y : Fact} (hx : x.hashable = true) (h : x.eq y = true) :
    hasNaN x = false := by
  cases x with
  | float p _ =>
    cases p with
    | nan => cases y <;> simp [Fact.eq, Fact.number, PyReal.eq] at h
    | _ => rfl
  | list xs => cases hx
  | map fields => cases hx
  | _ => rfl

lemma not_nan_of_eq_right {x y : Fact} (hy : y.hashable = true) (h : x.eq y = true) :
    hasNaN y = false := by
  cases y with
  | float p _ =>
    cases p with
    | nan => cases x <;> simp [Fact.eq, Fact.number, eq_nan] at h
    | _ => rfl
  | list xs => cases hy
  | map fields => cases hy
  | _ => rfl

lemma hashable_of_alike {x y : Fact} (h : x.alike y = true) (hy : y.hashable = true) :
    x.hashable = true ∧ hasNaN x = hasNaN y := by
  rcases Bool.or_eq_true_iff.mp h with hsame | heq
  · unfold Fact.isSame at hsame
    split at hsame
    · exact ⟨rfl, rfl⟩
    · cases hsame
  · have hx : x.hashable = true := by
      cases x <;> cases y <;> simp_all [Fact.eq, Fact.hashable, Fact.number]
    exact ⟨hx, by rw [not_nan_of_eq hx heq, not_nan_of_eq_right hy heq]⟩

lemma noRepeat_iff {xs : List Fact} :
    Fact.noRepeat xs = true ↔ xs.Pairwise (fun x y => ¬ x.alike y) := by
  induction xs with
  | nil => simp [Fact.noRepeat]
  | cons x xs ih => simp [Fact.noRepeat, ih]

lemma sameSet_iff {xs ys : List Fact} :
    Fact.sameSet xs ys = true ↔
      (∀ x ∈ xs, ∃ y ∈ ys, x.alike y = true) ∧ ∀ y ∈ ys, ∃ x ∈ xs, y.alike x = true := by
  simp [Fact.sameSet]

lemma itemsHaveNaN_iff {xs : List Fact} : itemsHaveNaN xs = true ↔ ∃ x ∈ xs, hasNaN x = true := by
  induction xs with
  | nil => simp [itemsHaveNaN]
  | cons x xs ih => simp [itemsHaveNaN, ih]

lemma sameElements_iff {xs ys : List Fact} (hys : ys.all Fact.hashable = true)
    (hxs : itemsHaveNaN xs = false) :
    SameElements xs ys ↔ Fact.sameSet xs ys = true ∧ Fact.noRepeat xs = true := by
  rw [noRepeat_iff, sameSet_iff]
  have hx : ∀ x ∈ xs, hasNaN x = false := fun x hmem => by
    by_contra h
    simp [itemsHaveNaN_iff.mpr ⟨x, hmem, by simpa using h⟩] at hxs
  constructor
  · -- equal values are alike, and without a NaN alike ones are equal
    rintro ⟨hdistinct, hsub, hsup⟩
    refine ⟨⟨fun x hmem => ?_, fun y hmem => ?_⟩, hdistinct.imp_of_mem ?_⟩
    · obtain ⟨y, hy, heq⟩ := hsub x hmem
      exact ⟨y, hy, alike_of_equal heq⟩
    · obtain ⟨x, hx, heq⟩ := hsup y hmem
      exact ⟨x, hx, alike_of_equal heq⟩
    · intro x y hmem _ hne halike
      exact hne (equal_of_alike halike (hx x hmem))
  · -- a NaN on the right would be like a value on the left, which has none
    rintro ⟨⟨hsub, hsup⟩, hdistinct⟩
    have hy : ∀ y ∈ ys, hasNaN y = false := fun y hmem => by
      obtain ⟨x, hxmem, halike⟩ := hsup y hmem
      obtain ⟨z, hzmem, hxz⟩ := hsub x hxmem
      have hhash := (hashable_of_alike hxz (List.all_eq_true.mp hys z hzmem)).1
      rw [(hashable_of_alike halike hhash).2]
      exact hx x hxmem
    refine ⟨hdistinct.imp fun hne heq => hne (alike_of_equal heq), fun x hmem => ?_,
      fun y hmem => ?_⟩
    · obtain ⟨y, hymem, halike⟩ := hsub x hmem
      exact ⟨y, hymem, equal_of_alike halike (hx x hmem)⟩
    · obtain ⟨x, hxmem, halike⟩ := hsup y hmem
      exact ⟨x, hxmem, equal_of_alike halike (hy y hmem)⟩

/-! ### What acceptance gives -/

/-- The checks of one accepted assertion, with the facts it is known to hold of. -/
structure Accepted (a : Assertion) : Prop where
  paired : a.operator = .path_eq → ∃ path, a.other_path = some path ∧ path ≠ ""
  single : a.operator ≠ .path_eq → a.other_path = none
  numeric : a.operator = .gte ∨ a.operator = .lte → a.value.isNumber
  collection : a.operator = .sequence_eq ∨ a.operator = .set_eq → a.value.isList
  known : ∃ facts, a.holds facts

lemma validated {isidentifier : String → Bool} {assertions : List Assertion}
    (h : assertions.forM (validate_assertion isidentifier) = .ok ()) :
    ∀ a ∈ assertions, validate_assertion isidentifier a = .ok () := by
  induction assertions with
  | nil => simp
  | cons a rest ih =>
    rw [List.forM_eq_forM, List.forM_cons] at h
    obtain ⟨ha, hrest⟩ := bind_ok.mp h
    exact List.forall_mem_cons.mpr ⟨ha, ih hrest⟩

lemma accepted_of_validate {isidentifier : String → Bool} {s : CheckerSpec}
    (h : validate_spec isidentifier s = .ok ()) {a : Assertion} (ha : a ∈ s.assertions) :
    Accepted a := by
  unfold validate_spec at h
  obtain ⟨hassertions, hknown⟩ := bind_ok.mp h
  have hchecks := validated hassertions a ha
  simp only [validate_assertion, refuseIf_bind_ok, refuseIf_ok] at hchecks
  obtain ⟨-, hpaired, hsingle, hnumeric, hcollection⟩ := hchecks
  simp only [refuseIf_ok, Bool.or_eq_false_iff, Bool.not_eq_false', evaluate,
    List.all_eq_true] at hknown
  refine ⟨fun hop => ?_, fun hop => ?_, fun hop => ?_, fun hop => ?_, ⟨_, hknown.2 a ha⟩⟩
  · cases hother : a.other_path with
    | none => simp [hop, hother] at hpaired
    | some path => exact ⟨path, rfl, by simpa [hop, hother] using hpaired⟩
  · simpa [hop] using hsingle
  · rcases hop with hop | hop <;> simpa [hop] using hnumeric
  · rcases hop with hop | hop <;> simpa [hop] using hcollection

/-! ### Evaluation and meaning -/

section

variable {a : Assertion} {facts : Fact}

lemma holds_iff (ha : Accepted a) (hop : a.operator ≠ .absent) :
    a.holds facts = true ↔ ∃ actual, lookup facts a.path = some actual ∧
      a.operator.holds actual a.value (a.other_path.bind (lookup facts)) = true := by
  unfold Assertion.holds
  rw [if_neg hop]
  cases hactual : lookup facts a.path with
  | none => simp
  | some actual =>
    by_cases hpath : a.operator = .path_eq
    · obtain ⟨path, hother, hne⟩ := ha.paired hpath
      rw [hother]
      cases hvalue : lookup facts path <;> simp [hpath, hne, hvalue, Operator.holds]
    · simp [ha.single hpath]

lemma hashable_of_accepted (ha : Accepted a) (hop : a.operator = .set_eq) {ys : List Fact}
    (hys : a.value = .list ys) : ys.all Fact.hashable = true := by
  obtain ⟨known, hholds⟩ := ha.known
  obtain ⟨actual, -, hactual⟩ := (holds_iff ha (by simp [hop])).mp hholds
  rw [hop, hys] at hactual
  cases actual with
  | list xs =>
    simp only [Operator.holds, Bool.and_eq_true] at hactual
    exact hactual.1.1.2
  | _ => simp [Operator.holds] at hactual

lemma ordered_numbers {x y : Fact} (hx : x.isNumber = true) (hy : y.isNumber = true)
    (hn : ¬ (isNaN x ∨ isNaN y)) :
    ∃ p q, x.number = some p ∧ y.number = some q ∧ p ≠ .nan ∧ q ≠ .nan := by
  obtain ⟨p, hp⟩ := number_of_isNumber hx
  obtain ⟨q, hq⟩ := number_of_isNumber hy
  simp only [isNaN, hp, hq, Option.some.injEq, not_or] at hn
  exact ⟨p, q, hp, hq, hn⟩

/-- Where no NaN is compared, a bound refuses exactly the numbers beyond it. -/
lemma gte_iff {x y : Fact} (hy : y.isNumber = true)
    (hn : x.isNumber = true → ¬ (isNaN x ∨ isNaN y)) :
    Operator.gte.holds x y none = true ↔ x.isNumber = true ∧ AtMost y x := by
  by_cases hx : x.isNumber = true
  · obtain ⟨p, q, hp, hq, hpn, hqn⟩ := ordered_numbers hx hy (hn hx)
    simp [Operator.holds, same_type, hy, hx, hp, hq, AtMost, PyReal.not_lt_iff hpn hqn]
  · simp [Operator.holds, same_type, hy, hx]

lemma lte_iff {x y : Fact} (hy : y.isNumber = true)
    (hn : x.isNumber = true → ¬ (isNaN x ∨ isNaN y)) :
    Operator.lte.holds x y none = true ↔ x.isNumber = true ∧ AtMost x y := by
  by_cases hx : x.isNumber = true
  · obtain ⟨p, q, hp, hq, hpn, hqn⟩ := ordered_numbers hx hy (hn hx)
    simp [Operator.holds, same_type, hy, hx, hp, hq, AtMost, PyReal.not_lt_iff hqn hpn]
  · simp [Operator.holds, same_type, hy, hx]

lemma set_eq_iff {x y : Fact} (hy : ∀ ys, y = .list ys → ys.all Fact.hashable = true)
    (hn : ¬ (hasNaN x = true ∧ Alike .set_eq x y none)) :
    Operator.set_eq.holds x y none = true ↔ Asks .set_eq x y none := by
  simp only [Asks]
  constructor
  · intro h
    cases x with
    | list xs =>
      cases y with
      | list ys =>
        simp only [Operator.holds, Bool.and_eq_true] at h
        have hnone : itemsHaveNaN xs = false := by
          by_contra hnan
          exact hn ⟨by simpa [hasNaN] using hnan, xs, ys, rfl, rfl, h.1.2, h.2⟩
        exact ⟨xs, ys, rfl, rfl, (sameElements_iff (hy ys rfl) hnone).mpr ⟨h.1.2, h.2⟩⟩
      | _ => simp [Operator.holds] at h
    | _ => simp [Operator.holds] at h
  · rintro ⟨xs, ys, rfl, rfl, hsame⟩
    have hnone : itemsHaveNaN xs = false := by
      by_contra hnan
      obtain ⟨x, hmem, hx⟩ := itemsHaveNaN_iff.mp (by simpa using hnan)
      obtain ⟨y, -, heq⟩ := hsame.2.1 x hmem
      simp [((equal_iff x y).mp heq).2] at hx
    have hhash : xs.all Fact.hashable = true := List.all_eq_true.mpr fun x hmem => by
      obtain ⟨y, hymem, heq⟩ := hsame.2.1 x hmem
      exact (hashable_of_alike (alike_of_equal heq) (List.all_eq_true.mp (hy ys rfl) y hymem)).1
    obtain ⟨hset, hrepeat⟩ := (sameElements_iff (hy ys rfl) hnone).mp hsame
    simp [Operator.holds, hhash, hy ys rfl, hset, hrepeat]

lemma holds_iff_means (ha : Accepted a) (hn : ¬ MeetsNaN a facts) :
    a.holds facts = true ↔ Means a facts := by
  -- absence is asked of the path, every other operator of a value that is there
  by_cases habsent : a.operator = .absent
  · simp [Assertion.holds, Means, habsent]
  rw [holds_iff ha habsent, Means, if_neg habsent]
  refine exists_congr fun actual => and_congr_right fun hactual => ?_
  have hnumbers : a.operator = .gte ∨ a.operator = .lte → actual.isNumber = true →
      ¬ (isNaN actual ∨ isNaN a.value) :=
    fun hop hactual' hnan => hn (.inl ⟨hop, actual, hactual, hactual', hnan⟩)
  have hshares : ¬ (hasNaN actual = true ∧
      Alike a.operator actual a.value (a.other_path.bind (lookup facts))) :=
    fun h => hn (.inr ⟨actual, hactual, h⟩)
  cases hop : a.operator with
  | eq =>
    rw [hop] at hshares
    simp only [Operator.holds, Asks, Bool.and_eq_true, same_type_iff, equal_iff]
    refine and_congr_right fun _ => (and_iff_left_of_imp fun heq => ?_).symm
    by_contra hnan
    exact hshares ⟨by simpa using hnan, heq⟩
  | gte => exact gte_iff (ha.numeric (.inl hop)) (hnumbers (.inl hop))
  | lte => exact lte_iff (ha.numeric (.inr hop)) (hnumbers (.inr hop))
  | absent => exact absurd hop habsent
  | sequence_eq =>
    rw [hop] at hshares
    have hiff : equal actual a.value = true ↔ actual.eq a.value = true := by
      rw [equal_iff]
      refine and_iff_left_of_imp fun heq => ?_
      by_contra hnan
      exact hshares ⟨by simpa using hnan, heq⟩
    cases actual <;> simp [Operator.holds, Asks, Fact.isList, hiff]
  | set_eq =>
    rw [hop] at hshares
    exact set_eq_iff (fun ys => hashable_of_accepted ha hop) hshares
  | path_eq =>
    rw [hop] at hshares
    cases hother : a.other_path.bind (lookup facts) with
    | none => simp [Operator.holds, Asks]
    | some o =>
      have hiff : equal actual o = true ↔ actual.eq o = true := by
        rw [equal_iff]
        refine and_iff_left_of_imp fun heq => ?_
        by_contra hnan
        exact hshares ⟨by simpa using hnan, o, hother, heq⟩
      simp [Operator.holds, Asks, hiff]

/-- A bound is passed over where a NaN is compared, and never holds there. -/
lemma holds_of_boundsNaN (ha : Accepted a) (h : BoundsNaN a facts) :
    a.holds facts = true ∧ ¬ Means a facts := by
  obtain ⟨hop, actual, hactual, hnumber, hnan⟩ := h
  have hvalue := ha.numeric hop
  obtain ⟨p, hp⟩ := number_of_isNumber hnumber
  obtain ⟨q, hq⟩ := number_of_isNumber hvalue
  have hpq : p = .nan ∨ q = .nan := by simpa [isNaN, hp, hq] using hnan
  have hpq' := PyReal.nan_not_lt hpq
  have hqp' := PyReal.nan_not_lt hpq.symm
  have hsingle : a.other_path = none := ha.single (by rcases hop with hop | hop <;> simp [hop])
  rcases hop with hop | hop <;>
    simp [Assertion.holds, Means, Operator.holds, Asks, AtMost, hop, hactual, hsingle, same_type,
      hnumber, hvalue, hp, hq, hpq', hqp']

lemma type_of_eq {x y : Fact} (h : x.eq y = true) (hx : hasNaN x = true) : x.type = y.type := by
  cases x with
  | list xs => cases y <;> simp_all [Fact.eq, Fact.number, Fact.type]
  | map xs => cases y <;> simp_all [Fact.eq, Fact.number, Fact.type]
  | float p _ => cases p <;> cases y <;> simp_all [Fact.eq, Fact.number, PyReal.eq, hasNaN]
  | _ => simp [hasNaN] at hx

lemma not_equal_of_hasNaN {x : Fact} (hx : hasNaN x = true) (y : Fact) : ¬ equal x y = true :=
  fun h => by simp [((equal_iff x y).mp h).2] at hx

lemma holds_of_sharesNaN (ha : Accepted a) (h : SharesNaN a facts) :
    a.holds facts = true ∧ ¬ Means a facts := by
  obtain ⟨actual, hactual, hnan, halike⟩ := h
  have hop : a.operator ≠ .absent := by
    intro hop
    rw [hop] at halike
    exact halike
  have hmeans : Means a facts ↔
      Asks a.operator actual a.value (a.other_path.bind (lookup facts)) := by
    simp [Means, hop, hactual]
  rw [holds_iff ha hop, hmeans]
  refine ⟨⟨actual, hactual, ?_⟩, fun hasks => ?_⟩
  · -- Python compares the one NaN by its identity
    cases hcase : a.operator with
    | eq =>
      rw [hcase] at halike
      have hkind : same_type actual a.value = true :=
        same_type_iff.mpr (.inr (type_of_eq halike hnan))
      exact Bool.and_eq_true_iff.mpr ⟨hkind, halike⟩
    | sequence_eq =>
      rw [hcase] at halike
      have htype := type_of_eq halike hnan
      have hlist := ha.collection (.inl hcase)
      cases actual with
      | list xs => exact halike
      | _ => cases hvalue : a.value <;> simp_all [Fact.type, Fact.isList]
    | set_eq =>
      rw [hcase] at halike
      obtain ⟨xs, ys, rfl, hys, hset, hrepeat⟩ := halike
      have hhash := hashable_of_accepted ha hcase hys
      have hxs : xs.all Fact.hashable = true := List.all_eq_true.mpr fun x hmem => by
        obtain ⟨y, hymem, heq⟩ := (sameSet_iff.mp hset).1 x hmem
        exact (hashable_of_alike heq (List.all_eq_true.mp hhash y hymem)).1
      simp [Operator.holds, hys, hxs, hhash, hset, hrepeat]
    | path_eq =>
      rw [hcase] at halike
      obtain ⟨o, hother, heq⟩ := halike
      simp [Operator.holds, hother, heq, type_of_eq heq hnan]
    | absent => exact absurd hcase hop
    | _ =>
      rw [hcase] at halike
      exact halike.elim
  · -- a NaN equals nothing
    cases hcase : a.operator with
    | eq =>
      rw [hcase] at hasks
      exact not_equal_of_hasNaN hnan _ hasks.2
    | sequence_eq =>
      rw [hcase] at hasks
      exact not_equal_of_hasNaN hnan _ hasks.2
    | set_eq =>
      rw [hcase] at hasks
      obtain ⟨xs, ys, rfl, -, hsame⟩ := hasks
      obtain ⟨x, hmem, hx⟩ := itemsHaveNaN_iff.mp (show itemsHaveNaN xs = true from hnan)
      obtain ⟨y, -, heq⟩ := hsame.2.1 x hmem
      exact not_equal_of_hasNaN hx y heq
    | path_eq =>
      rw [hcase] at hasks
      obtain ⟨o, -, -, heq⟩ := hasks
      exact not_equal_of_hasNaN hnan o heq
    | absent => exact hop hcase
    | _ =>
      rw [hcase] at halike
      exact halike.elim

lemma holds_of_meetsNaN (ha : Accepted a) (h : MeetsNaN a facts) :
    a.holds facts = true ∧ ¬ Means a facts :=
  h.elim (holds_of_boundsNaN ha) (holds_of_sharesNaN ha)

end

/-! ### The checker -/

/-- No assertion meets a NaN, or one that meets none and does not hold refuses beside it. -/
def NaNFree (s : CheckerSpec) (facts : Fact) : Prop :=
  (∀ a ∈ s.assertions, ¬ MeetsNaN a facts) ∨
    ∃ a ∈ s.assertions, ¬ MeetsNaN a facts ∧ ¬ Means a facts

/-- **An accepted checker means what its operators say** exactly where no bound lets a NaN pass and
no two collections share one. -/
theorem evaluate_means_iff (isidentifier : String → Bool) (s : CheckerSpec)
    (h : validate_spec isidentifier s = .ok ()) (facts : Fact) :
    (evaluate s facts = true ↔ ∀ a ∈ s.assertions, Means a facts) ↔ NaNFree s facts := by
  have haccepted : ∀ a ∈ s.assertions, Accepted a := fun a => accepted_of_validate h
  simp only [evaluate, List.all_eq_true]
  constructor
  · intro hiff
    by_contra hnot
    unfold NaNFree at hnot
    push Not at hnot
    obtain ⟨⟨a, ha, hnan⟩, hrest⟩ := hnot
    have hholds : ∀ b ∈ s.assertions, b.holds facts = true := fun b hb => by
      by_cases hb' : MeetsNaN b facts
      · exact (holds_of_meetsNaN (haccepted b hb) hb').1
      · exact (holds_iff_means (haccepted b hb) hb').mpr (hrest b hb hb')
    exact (holds_of_meetsNaN (haccepted a ha) hnan).2 (hiff.mp hholds a ha)
  · rintro (hfree | ⟨a, ha, hfree, hmeans⟩)
    · exact forall₂_congr fun a ha => holds_iff_means (haccepted a ha) (hfree a ha)
    · exact ⟨fun hall => absurd ((holds_iff_means (haccepted a ha) hfree).mp (hall a ha)) hmeans,
        fun hall => absurd (hall a ha) hmeans⟩

def t6_incident : CheckerSpec :=
  spec "check_t6_incident_checkout_three_consecutive_successes" "T6"
    [⟨"checkout.http_200_consecutive", .gte, .int 3, none⟩]

def ascii_identifier (part : String) : Bool :=
  match part.toList with
  | [] => false
  | c :: cs => (c.isAlpha || c = '_') && cs.all fun c => c.isAlphanum || c = '_'

/-- A reading that is not a number. -/
def nan_facts : Fact := .map [("checkout", .map [("http_200_consecutive", .float .nan 0)])]

theorem evaluate_means_of_nan :
    (evaluate t6_incident nan_facts = true ↔ ∀ a ∈ t6_incident.assertions, Means a nan_facts) ↔
      NaNFree t6_incident nan_facts :=
  evaluate_means_iff ascii_identifier t6_incident (by decide +kernel) nan_facts

/-- The evaluation of a spec that passes its own validation is true of a NaN, which no bound
holds of. -/
theorem nan_passes_bound :
    validate_spec ascii_identifier t6_incident = .ok () ∧
      ¬ (evaluate t6_incident nan_facts = true ↔
        ∀ a ∈ t6_incident.assertions, Means a nan_facts) := by
  have hvalid : validate_spec ascii_identifier t6_incident = .ok () := by decide +kernel
  have hmem : (⟨"checkout.http_200_consecutive", .gte, .int 3, none⟩ : Assertion) ∈
      t6_incident.assertions := List.mem_singleton.mpr rfl
  have hnan : BoundsNaN ⟨"checkout.http_200_consecutive", .gte, .int 3, none⟩ nan_facts :=
    ⟨.inl rfl, .float .nan 0, rfl, rfl, .inl rfl⟩
  obtain ⟨hholds, hmeans⟩ := holds_of_boundsNaN (accepted_of_validate hvalid hmem) hnan
  refine ⟨hvalid, fun hiff => hmeans (hiff.mp ?_ _ hmem)⟩
  simpa [evaluate, t6_incident, spec_assertions] using hholds

end IncidentGate.CheckerMeaning
