import Mathlib.Algebra.Order.Field.Rat
import Mathlib.Tactic.NormNum
import RegulatoryTrees.Proofs.Value.StrictEquality

/-!
# Strict equality is an equivalence

Among values whose mappings have text keys, strict equality is symmetric and transitive, and a value is equal to itself unless a
NaN lies somewhere within it. It holds exactly of values that are alike (`Alike`): of one shape, with numbers that have one exact
value, truth values only beside truth values, sequences alike item by item and mappings alike under every key
(`strictEquals_equivalence`).
-/

namespace RegulatoryTrees

/-! ## Numbers -/

/-- The exact value of a finite double. -/
def Double.toRat? : Double → Option ℚ
  | .finite negative m => some (signedUnits negative m / unitsInOne)
  | _ => none

namespace Number

/-- The exact value of a number that is neither infinite nor NaN. -/
def toRat? : Number → Option ℚ
  | .whole n => some n
  | .real d => d.toRat?

/-- Two numbers are equal without any rounding: they have one exact value, or they are one infinity. -/
inductive ExactlyEqual : Number → Number → Prop where
  | finite {x y : Number} {q : ℚ} (hx : x.toRat? = some q) (hy : y.toRat? = some q) : ExactlyEqual x y
  | infinite (negative : Bool) : ExactlyEqual (.real (.infinite negative)) (.real (.infinite negative))

/-- There are some units in one, so that values can be divided by them. -/
theorem unitsInOne_ne_zero : (unitsInOne : ℚ) ≠ 0 := by
  have h : unitsInOne ≠ 0 := by decide +kernel
  exact_mod_cast h

/-- A number has no place on the number line, or one beyond all finite numbers, or that of its exact value. -/
theorem position?_cases (x : Number) :
    x.position? = none ∨ (∃ negative, x = .real (.infinite negative)) ∨
      ∃ units : Int, x.position? = some (0, units) ∧ x.toRat? = some (units / unitsInOne : ℚ) := by
  cases x with
  | whole n =>
    refine Or.inr (Or.inr ⟨n * unitsInOne, rfl, ?_⟩)
    have hvalue : ((n * unitsInOne : Int) : ℚ) / unitsInOne = n := by
      push_cast
      exact mul_div_cancel_right₀ _ unitsInOne_ne_zero
    rw [toRat?, hvalue]
  | real d =>
    cases d with
    | nan => exact Or.inl rfl
    | infinite negative => exact Or.inr (Or.inl ⟨negative, rfl⟩)
    | finite negative m => exact Or.inr (Or.inr ⟨Double.signedUnits negative m, rfl, rfl⟩)

/-- Finite numbers stand at one place exactly when they have one value. -/
theorem units_eq_iff {a b : Int} : (a / unitsInOne : ℚ) = b / unitsInOne ↔ a = b := by
  rw [div_left_inj' unitsInOne_ne_zero]
  exact Int.cast_inj

/-- What stands among the finite numbers has the value of its place. -/
theorem toRat?_of_position? {x : Number} {units : Int} (h : x.position? = some (0, units)) :
    x.toRat? = some (units / unitsInOne : ℚ) := by
  rcases position?_cases x with hx | ⟨negative, rfl⟩ | ⟨a, hx, hvalue⟩
  · rw [hx] at h
    cases h
  · cases negative <;> simp [position?, Double.position?] at h
  · have ha : a = units := by
      rw [hx] at h
      simpa using h
    rw [hvalue, ha]

/-- A number with a value stands at the place of its value. -/
theorem exists_position?_of_toRat? {x : Number} {q : ℚ} (h : x.toRat? = some q) :
    ∃ units : Int, x.position? = some (0, units) ∧ q = units / unitsInOne := by
  rcases position?_cases x with hx | ⟨negative, rfl⟩ | ⟨a, hx, hvalue⟩
  · rw [position?_eq_none.1 hx] at h
    exact nomatch h
  · exact nomatch h
  · exact ⟨a, hx, Option.some.inj (h.symm.trans hvalue)⟩

/-- At an end of the number line stands the infinity there and nothing else. -/
theorem eq_infinite_of_position? {x : Number} {negative : Bool}
    (h : x.position? = (Number.real (.infinite negative)).position?) : x = .real (.infinite negative) := by
  rcases position?_cases x with hx | ⟨negative', rfl⟩ | ⟨a, hx, -⟩
  · rw [hx] at h
    cases negative <;> cases h
  · cases negative <;> cases negative' <;> simp_all [position?, Double.position?]
  · rw [hx] at h
    cases negative <;> simp [position?, Double.position?] at h

/-- Numbers count as one value when they are exactly equal. -/
theorem sameValue_iff_exactlyEqual {x y : Number} : x.sameValue y = true ↔ x.ExactlyEqual y := by
  rw [sameValue_iff]
  constructor
  · rintro ⟨heq, hplace⟩
    rcases position?_cases x with hx | ⟨negative, rfl⟩ | ⟨units, hx, hvalue⟩
    · exact absurd hx hplace
    · rw [eq_infinite_of_position? heq.symm]
      exact .infinite negative
    · exact .finite hvalue (toRat?_of_position? (heq.symm.trans hx))
  · intro h
    cases h with
    | infinite negative =>
      refine ⟨rfl, ?_⟩
      cases negative <;> exact nofun
    | finite hx hy =>
      obtain ⟨a, ha, rfl⟩ := exists_position?_of_toRat? hx
      obtain ⟨b, hb, hab⟩ := exists_position?_of_toRat? hy
      rw [ha, hb, units_eq_iff.1 hab]
      exact ⟨rfl, nofun⟩

end Number

namespace Value

/-! ## Definitions -/

/-- A value without sets and recurrences in which the keys of every mapping are different texts. -/
inductive HasTextKeys : Value → Prop where
  | scalar (s : Scalar) : HasTextKeys (.scalar s)
  | missing : HasTextKeys .missing
  | sequence {kind : SequenceKind} {items : List Value} (hk : kind ≠ .set) (h : ∀ x ∈ items, HasTextKeys x) :
    HasTextKeys (.sequence kind items)
  | mapping {fields : List (String × Value)} (hk : (fields.map Prod.fst).Nodup) (h : ∀ f ∈ fields, HasTextKeys f.2) :
    HasTextKeys (.mapping (fields.map entryOf))

/-- A NaN lies somewhere within a value. -/
inductive HoldsNaN : Value → Prop where
  | nan : HoldsNaN (.double .nan)
  | sequence {kind : SequenceKind} {items : List Value} {x : Value} (hx : x ∈ items) (h : HoldsNaN x) :
    HoldsNaN (.sequence kind items)
  | mapping {entries : List (Scalar × Value)} {e : Scalar × Value} (he : e ∈ entries) (h : HoldsNaN e.2) :
    HoldsNaN (.mapping entries)

/-- Two values have one shape and equal parts. Numbers are exactly equal, moments both or neither name their distance from
universal time and are one instant, and any other scalar, so also a truth value, is alike to itself only; sequences are alike item
by item, and under every key both mappings hold values that are alike, or neither holds one. -/
inductive Alike : Value → Value → Prop where
  | number {a b : Scalar} {x y : Number} (ha : a.number? = some x) (hb : b.number? = some y) (h : x.ExactlyEqual y) :
    Alike (.scalar a) (.scalar b)
  | moment {m n : Moment} (hzone : m.offset.isSome = n.offset.isSome)
    (h : m.clock - m.offset.getD 0 * 1000000 = n.clock - n.offset.getD 0 * 1000000) :
    Alike (.scalar (.moment m)) (.scalar (.moment n))
  | itself {s : Scalar} (hs : s.number? = none) : Alike (.scalar s) (.scalar s)
  | missing : Alike .missing .missing
  | sequence {j k : SequenceKind} {xs ys : List Value} (h : List.Forall₂ Alike xs ys) :
    Alike (.sequence j xs) (.sequence k ys)
  | mapping {xs ys : List (Scalar × Value)} (h : ∀ key, Option.Rel Alike (lookupKey xs key) (lookupKey ys key)) :
    Alike (.mapping xs) (.mapping ys)

/-! ## Values with text keys -/

/-- Fields with different names are entries with different keys. -/
theorem pairwise_entryOf {fields : List (String × Value)} (h : (fields.map Prod.fst).Nodup) :
    (fields.map entryOf).Pairwise fun a b => a.1.sameKey b.1 = false := by
  rw [List.pairwise_map]
  refine (List.pairwise_map.1 h).imp ?_
  intro a b hne
  simpa [entryOf, sameKey_text] using hne

/-- Different texts are different keys. -/
theorem HasTextKeys.hasDistinctKeys {v : Value} (h : v.HasTextKeys) : v.HasDistinctKeys := by
  induction h with
  | scalar s => exact .scalar s
  | missing => exact .missing
  | sequence _ _ ih => exact .sequence ih
  | mapping hk _ ih =>
    refine .mapping (pairwise_entryOf hk) ?_
    intro e he
    obtain ⟨f, hf, rfl⟩ := List.mem_map.1 he
    exact ih f hf

/-! ## Scalars -/

/-- Scalars that are no numbers and count as the same are alike. -/
theorem alike_of_bareContent {a b : Scalar} (ha : a.number? = none) (h : a.bareContent = b.bareContent) :
    Alike (.scalar a) (.scalar b) := by
  have hsame := Scalar.bareContent_eq_iff.2 h
  split at hsame
  · obtain ⟨hzone, hinstant⟩ := Scalar.Content.instant.inj h
    exact .moment hzone hinstant
  · rw [← beq_iff_eq.1 hsame]
    exact .itself ha

/-- Scalars are strictly equal exactly when they are alike. -/
theorem strictEquals_scalar_iff {a b : Scalar} : a.strictEquals b = true ↔ Alike (.scalar a) (.scalar b) := by
  rw [Scalar.strictEquals_iff]
  constructor
  · rintro ⟨heq, hnan⟩
    have hnumbers := Scalar.number?_rel heq
    unfold Scalar.content Scalar.contentBy at heq hnan
    cases ha : a.number? with
    | some x =>
      rw [ha] at hnumbers hnan
      cases hb : b.number? with
      | some y =>
        rw [hb] at hnumbers
        cases hnumbers with
        | some hplace =>
          have hx : x.position? ≠ none := fun h => hnan (congrArg Scalar.Content.number h)
          exact .number ha hb (Number.sameValue_iff_exactlyEqual.1 (Number.sameValue_iff.2 ⟨hplace, hx⟩))
      | none =>
        rw [hb] at hnumbers
        cases hnumbers
    | none =>
      rw [ha] at hnumbers heq
      cases hb : b.number? with
      | some y =>
        rw [hb] at hnumbers
        cases hnumbers
      | none =>
        rw [hb] at heq
        exact alike_of_bareContent ha heq
  · intro h
    cases h with
    | number ha hb h =>
      obtain ⟨hplace, hx⟩ := Number.sameValue_iff.1 (Number.sameValue_iff_exactlyEqual.2 h)
      rw [Scalar.content, Scalar.content, Scalar.contentBy, Scalar.contentBy, ha, hb]
      exact ⟨congrArg Scalar.Content.number hplace, fun h => hx (Scalar.Content.number.inj h)⟩
    | @moment m n hzone h => exact ⟨congrArg₂ Scalar.Content.instant hzone h, nofun⟩
    | itself hs =>
      refine ⟨rfl, ?_⟩
      rw [Scalar.content, Scalar.contentBy, hs]
      exact Scalar.bareContent_ne_number a none

/-- A scalar is equal to itself unless it is NaN. -/
theorem strictEquals_self_scalar_iff (s : Scalar) : s.strictEquals s = true ↔ ¬HoldsNaN (.scalar s) := by
  rw [Scalar.strictEquals_iff, and_iff_right rfl, not_iff_not]
  constructor
  · intro h
    cases s with
    | double d =>
      have hd : (Number.real d).position? = none := Scalar.Content.number.inj h
      cases Number.position?_eq_none.1 hd
      exact .nan
    | int n => exact nomatch Scalar.Content.number.inj h
    | _ => exact nomatch h
  · intro h
    cases h
    rfl

/-! ## Mappings -/

section Mapping

variable {xs ys : List (Scalar × Value)}

/-- What is found beside a value is related to it. -/
theorem exists_of_rel_some {R : Value → Value → Prop} {x : Value} {found : Option Value} (h : Option.Rel R (some x) found) :
    ∃ y, found = some y ∧ R x y := by
  cases h with
  | some hxy => exact ⟨_, rfl, hxy⟩

/-- The keys of a mapping are keys of another one that holds a value under each of them. -/
theorem keyContents_subset (hx : (keyContents xs).Nodup)
    (h : ∀ key x, lookupKey xs key = some x → ∃ y, lookupKey ys key = some y) : keyContents xs ⊆ keyContents ys := by
  intro content hc
  obtain ⟨e, he, rfl⟩ := List.mem_map.1 hc
  obtain ⟨y, hy⟩ := h e.1 e.2 (lookupKey_of_mem hx he)
  obtain ⟨e', he', hk, -⟩ := exists_of_lookupKey hy
  exact hk ▸ List.mem_map_of_mem he'

/-- Mappings with different keys that hold values under the same ones are of one length. -/
theorem length_eq_of_lookupKey_rel (hx : (keyContents xs).Nodup) (hy : (keyContents ys).Nodup)
    (h : ∀ key, Option.Rel Alike (lookupKey xs key) (lookupKey ys key)) : xs.length = ys.length := by
  have hsubset : keyContents xs ⊆ keyContents ys := by
    refine keyContents_subset hx ?_
    intro key x hfound
    have hrel := h key
    rw [hfound] at hrel
    obtain ⟨y, hy, -⟩ := exists_of_rel_some hrel
    exact ⟨y, hy⟩
  have hsubset' : keyContents ys ⊆ keyContents xs := by
    refine keyContents_subset hy ?_
    intro key y hfound
    have hrel := h key
    rw [hfound] at hrel
    generalize lookupKey xs key = found at hrel
    cases hrel
    exact ⟨_, rfl⟩
  have hperm := (List.perm_ext_iff_of_nodup hx hy).2 fun content => ⟨fun hc => hsubset hc, fun hc => hsubset' hc⟩
  simpa [keyContents] using hperm.length_eq

/-- A mapping with different keys is equal to itself when all of its values are. -/
theorem strictEquals_self_mapping_iff (hx : (keyContents xs).Nodup) :
    strictEquals (.mapping xs) (.mapping xs) = true ↔ ∀ e ∈ xs, strictEquals e.2 e.2 = true := by
  rw [strictEquals, beq_self_eq_true, Bool.true_and, strictEqualsEntries_eq_all, List.all_eq_true]
  refine forall₂_congr ?_
  intro e he
  rw [lookupKey_of_mem hx he]
  rfl

end Mapping

/-! ## All values -/

/-- Only values that are alike are strictly equal. -/
theorem alike_of_strictEquals {v w : Value} (hv : v.HasTextKeys) (h : strictEquals v w = true) : Alike v w := by
  induction hv generalizing w with
  | scalar a =>
    cases w with
    | scalar b => exact strictEquals_scalar_iff.1 h
    | missing | sequence | mapping | recurrence => exact absurd h Bool.false_ne_true
  | missing =>
    cases w with
    | missing => exact .missing
    | scalar | sequence | mapping | recurrence => exact absurd h Bool.false_ne_true
  | sequence hset _ ih =>
    cases w with
    | sequence k ys =>
      obtain ⟨hset', -, -⟩ | ⟨-, -, hitems⟩ := strictEquals_sequence_iff.1 h
      · exact absurd hset' hset
      · have hitems := strictEqualsItems_iff.1 hitems
        refine .sequence (List.forall₂_iff_get.2 ⟨hitems.length_eq, ?_⟩)
        intro i hi hi'
        exact ih _ (List.get_mem _ _) (hitems.get hi hi')
    | scalar | missing | mapping | recurrence => exact absurd h Bool.false_ne_true
  | mapping hk _ ih =>
    cases w with
    | mapping ys =>
      refine .mapping (lookupKey_rel (nodup_keyContents (pairwise_entryOf hk)) h fun e he _ heq => ?_)
      obtain ⟨f, hf, rfl⟩ := List.mem_map.1 he
      exact ih f hf heq
    | scalar | missing | sequence | recurrence => exact absurd h Bool.false_ne_true

/-- Values that are alike are strictly equal. -/
theorem strictEquals_of_alike {v w : Value} (hv : v.HasTextKeys) (hw : w.HasTextKeys) (h : Alike v w) :
    strictEquals v w = true := by
  induction hv generalizing w with
  | scalar a =>
    cases hw with
    | scalar b => exact strictEquals_scalar_iff.2 h
    | missing | sequence | mapping => cases h
  | missing =>
    cases h
    rfl
  | @sequence j xs hj _ ih =>
    cases h with
    | @sequence _ k _ ys h =>
      cases hw with
      | sequence hk hys =>
        refine strictEquals_sequence_iff.2 (.inr ⟨hj, hk, strictEqualsItems_iff.2 (List.forall₂_iff_get.2 ⟨h.length_eq, ?_⟩)⟩)
        intro i hi hi'
        exact ih _ (List.get_mem _ _) (hys _ (List.get_mem _ _)) (h.get hi hi')
  | @mapping fields hk _ ih =>
    cases hw with
    | @mapping fields' hk' hvalues =>
      cases h with
      | mapping h =>
        have hx := nodup_keyContents (pairwise_entryOf hk)
        have hy := nodup_keyContents (pairwise_entryOf hk')
        rw [strictEquals, Bool.and_eq_true, beq_iff_eq, strictEqualsEntries_iff hx]
        refine ⟨length_eq_of_lookupKey_rel hx hy h, ?_⟩
        intro key x hfound
        have hrel := h key
        rw [hfound] at hrel
        obtain ⟨y, hfound', halike⟩ := exists_of_rel_some hrel
        obtain ⟨e, he, -, rfl⟩ := exists_of_lookupKey hfound
        obtain ⟨e', he', -, rfl⟩ := exists_of_lookupKey hfound'
        obtain ⟨f, hf, rfl⟩ := List.mem_map.1 he
        obtain ⟨f', hf', rfl⟩ := List.mem_map.1 he'
        exact ⟨_, hfound', ih f hf (hvalues f' hf') halike⟩
    | scalar | missing | sequence => cases h

/-- A value with text keys is equal to itself exactly when no NaN lies within it. -/
theorem strictEquals_self_iff {v : Value} (hv : v.HasTextKeys) : strictEquals v v = true ↔ ¬v.HoldsNaN := by
  induction hv with
  | scalar s =>
    rw [strictEquals]
    exact strictEquals_self_scalar_iff s
  | missing =>
    refine iff_of_true rfl ?_
    intro hnan
    cases hnan
  | @sequence kind items hset _ ih =>
    rw [strictEquals_sequence_iff, or_iff_right (fun hset' => hset hset'.1), and_iff_right hset, and_iff_right hset,
      strictEqualsItems_iff, List.forall₂_same]
    constructor
    · intro h hnan
      cases hnan with
      | sequence hx hnan => exact (ih _ hx).1 (h _ hx) hnan
    · intro h x hx
      exact (ih x hx).2 fun hnan => h (.sequence hx hnan)
  | @mapping fields hk _ ih =>
    rw [strictEquals_self_mapping_iff (nodup_keyContents (pairwise_entryOf hk))]
    constructor
    · intro h hnan
      cases hnan with
      | mapping he hnan =>
        obtain ⟨f, hf, rfl⟩ := List.mem_map.1 he
        exact (ih f hf).1 (h _ he) hnan
    · intro h e he
      obtain ⟨f, hf, rfl⟩ := List.mem_map.1 he
      exact (ih f hf).2 fun hnan => h (.mapping he hnan)

/-- Values with text keys that are strictly equal are so the other way round. -/
theorem strictEquals_symm {v w : Value} (hv : v.HasTextKeys) (h : strictEquals v w = true) : strictEquals w v = true := by
  have hsame := interchangeable_of_strictEquals hv.hasDistinctKeys h
  have hself : strictEquals v v = true := by rw [(hsame v).2, h]
  rw [← (hsame v).1, hself]

/-- A value that is equal to the second of two equal ones is equal to the first. -/
theorem strictEquals_trans {v w u : Value} (hv : v.HasTextKeys) (h : strictEquals v w = true) (h' : strictEquals w u = true) :
    strictEquals v u = true := by
  rw [(interchangeable_of_strictEquals hv.hasDistinctKeys h u).1, h']

/-- Strict equality is an equivalence that converts nothing. Among values with text keys it is symmetric and transitive; a value is
equal to itself unless a NaN lies within it; and it holds of two values exactly when they are alike. -/
theorem strictEquals_equivalence {v w : Value} (hv : v.HasTextKeys) (hw : w.HasTextKeys) :
    (strictEquals v w = true → strictEquals w v = true) ∧
    (∀ u, strictEquals v w = true → strictEquals w u = true → strictEquals v u = true) ∧
    (strictEquals v v = true ↔ ¬v.HoldsNaN) ∧
    (strictEquals v w = true ↔ Alike v w) := by
  refine ⟨strictEquals_symm hv, ?_, strictEquals_self_iff hv, ?_⟩
  · intro u h h'
    exact strictEquals_trans hv h h'
  · constructor
    · exact alike_of_strictEquals hv
    · exact strictEquals_of_alike hv hw

end Value

/-! ## A holding in whole numbers and in doubles -/

namespace Holding

/-- The greatest number up to which doubles hold every whole one, as a double. -/
def limit : Double := .finite false ⟨2 ^ 53 * unitsInOne, by decide +kernel⟩

/-- A holding in whole numbers, with a list. -/
def whole (units : Int) : Value := .record [("units", .int units), ("paid", .list [.bool true, .null])]

/-- A holding of as many units as the limit, with a tuple, and its keys in another order. -/
def real : Value := .record [("paid", .tuple [.bool true, .null]), ("units", .double limit)]

theorem hasTextKeys_pair {kind : SequenceKind} (hk : kind ≠ .set) (a b : Scalar) :
    (Value.sequence kind [.scalar a, .scalar b]).HasTextKeys := by
  refine .sequence hk ?_
  intro x hx
  simp only [List.mem_cons, List.not_mem_nil, or_false] at hx
  rcases hx with rfl | rfl <;> exact .scalar _

theorem hasTextKeys_whole (units : Int) : (whole units).HasTextKeys := by
  refine .mapping (by simp) ?_
  intro f hf
  simp only [List.mem_cons, List.not_mem_nil, or_false] at hf
  rcases hf with rfl | rfl
  · exact .scalar _
  · exact hasTextKeys_pair (by decide) _ _

theorem hasTextKeys_real : real.HasTextKeys := by
  refine .mapping (by decide) ?_
  intro f hf
  simp only [List.mem_cons, List.not_mem_nil, or_false] at hf
  rcases hf with rfl | rfl
  · exact hasTextKeys_pair (by decide) _ _
  · exact .scalar _

end Holding

namespace Value

open Holding (whole real hasTextKeys_whole hasTextKeys_real)

/-- A holding of 2⁵³ units is equal to the one in doubles both ways and to itself. One unit more, which as a double would be rounded
to the same number, and the two are not alike. -/
theorem strictEquals_equivalence_holding :
    ((whole (2 ^ 53)).HasTextKeys ∧ (whole (2 ^ 53 + 1)).HasTextKeys ∧ real.HasTextKeys) ∧
      strictEquals (whole (2 ^ 53)) real = true ∧ strictEquals real (whole (2 ^ 53)) = true ∧
      strictEquals (whole (2 ^ 53)) (whole (2 ^ 53)) = true ∧ ¬(whole (2 ^ 53)).HoldsNaN ∧
      ¬Alike (whole (2 ^ 53 + 1)) real := by
  have heq : strictEquals (whole (2 ^ 53)) real = true := by decide +kernel
  have hne : strictEquals (whole (2 ^ 53 + 1)) real ≠ true := by decide +kernel
  obtain ⟨hsymm, htrans, hself, -⟩ := strictEquals_equivalence (hasTextKeys_whole (2 ^ 53)) hasTextKeys_real
  obtain ⟨-, -, -, halike⟩ := strictEquals_equivalence (hasTextKeys_whole (2 ^ 53 + 1)) hasTextKeys_real
  have hrefl : strictEquals (whole (2 ^ 53)) (whole (2 ^ 53)) = true := htrans _ heq (hsymm heq)
  exact ⟨⟨hasTextKeys_whole _, hasTextKeys_whole _, hasTextKeys_real⟩, heq, hsymm heq, hrefl, hself.1 hrefl,
    fun h => hne (halike.2 h)⟩

end Value

end RegulatoryTrees
