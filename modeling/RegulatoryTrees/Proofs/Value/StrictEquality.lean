import Mathlib.Data.List.Forall2
import Mathlib.Data.List.Nodup
import Mathlib.Data.List.Perm.Subperm
import RegulatoryTrees.Proofs.Value.KeyOrder

/-!
# Strict equality as a congruence

Values that are strictly equal are interchangeable in every comparison (`interchangeable_of_strictEquals`), provided that the
keys of each mapping within them are different. Scalars are compared by what they count as: a number by its place on the number
line, a moment by its instant, any other scalar by itself; from this symmetry and transitivity come for free, also for the sets
of them. Mappings are compared through lookups: equal ones give equal values, or none, under every key.
-/

namespace RegulatoryTrees

/-! ## Numbers and moments -/

namespace Number

/-- Places compare as equal when they are equal. -/
theorem comparePositions_eq_eq {p q : Int × Int} : comparePositions p q = .eq ↔ p = q := by
  obtain ⟨a, b⟩ := p
  obtain ⟨c, d⟩ := q
  simp [comparePositions, Ordering.then_eq_eq]

/-- Two numbers have one value when both stand at one place on the number line. -/
theorem sameValue_iff {x y : Number} : x.sameValue y = true ↔ x.position? = y.position? ∧ x.position? ≠ none := by
  rw [sameValue, compare?]
  cases x.position? with
  | none => simp
  | some p => cases y.position? <;> simp [comparePositions_eq_eq]

/-- NaN is the only number without a place on the number line. -/
theorem position?_eq_none {x : Number} : x.position? = none ↔ x = .real .nan := by
  cases x with
  | whole n => exact iff_of_false nofun nofun
  | real d =>
    cases d with
    | nan => exact iff_of_true rfl rfl
    | infinite s => cases s <;> exact iff_of_false nofun nofun
    | finite s m => exact iff_of_false nofun nofun

/-- As keys, two numbers are the same when they stand at one place, NaN having none. -/
theorem sameAsKey_iff {x y : Number} : (x == y || x.sameValue y) = true ↔ x.position? = y.position? := by
  rw [Bool.or_eq_true, beq_iff_eq, sameValue_iff]
  constructor
  · rintro (rfl | ⟨h, -⟩)
    · rfl
    · exact h
  · intro h
    by_cases hx : x.position? = none
    · exact Or.inl ((position?_eq_none.1 hx).trans (position?_eq_none.1 (h ▸ hx)).symm)
    · exact Or.inr ⟨h, hx⟩

/-- Numbers at one place compare alike with any other. -/
theorem compare?_congr {x y : Number} (h : x.position? = y.position?) (z : Number) : x.compare? z = y.compare? z := by
  rw [compare?, compare?, h]

end Number

namespace Scalar

/-- What a scalar counts as in comparisons. -/
inductive Content where
  | number (place : Option (Int × Int))
  | instant (zoned : Bool) (microseconds : Int)
  | itself (s : Scalar)

/-- What a scalar that is no number counts as. -/
def bareContent : Scalar → Content
  | .moment m => .instant m.offset.isSome (m.clock - m.offset.getD 0 * 1000000)
  | s => .itself s

/-- What a scalar counts as where some of them are numbers. -/
def contentBy (count : Scalar → Option Number) (s : Scalar) : Content :=
  (count s).elim s.bareContent fun x => .number x.position?

/-- What a scalar counts as. -/
def content (s : Scalar) : Content := contentBy number? s

/-- What a scalar counts as among keys, where truth values are numbers. -/
def keyContent (s : Scalar) : Content := contentBy keyNumber? s

/-- Moments are the same when they count as the same. -/
theorem same_iff {m n : Moment} : m.same n = true ↔ (Scalar.moment m).bareContent = (Scalar.moment n).bareContent := by
  simp only [Moment.same, bareContent, Content.instant.injEq]
  cases m.offset <;> cases n.offset <;> simp

/-- Two scalars that are no numbers are equal when they count as the same. -/
theorem bareContent_eq_iff {a b : Scalar} :
    (match a, b with
      | .moment x, .moment y => x.same y
      | _, _ => a == b) = true ↔ a.bareContent = b.bareContent := by
  split
  · exact same_iff
  · next hne =>
    rw [beq_iff_eq]
    constructor
    · exact congrArg bareContent
    · intro h
      cases a with
      | moment x =>
        cases b with
        | moment y => exact absurd rfl (hne x y rfl)
        | _ => exact nomatch h
      | _ =>
        cases b with
        | moment y => exact nomatch h
        | _ => exact Content.itself.inj h

/-- A scalar that is no number does not count as one. -/
theorem bareContent_ne_number (s : Scalar) (place : Option (Int × Int)) : s.bareContent ≠ .number place := by
  cases s <;> exact nofun

/-- Scalars are equal when they count as the same, except NaN. -/
theorem equalsBy_iff {count : Scalar → Option Number} {a b : Scalar} :
    equalsBy count a b = true ↔ contentBy count a = contentBy count b ∧ contentBy count a ≠ .number none := by
  unfold equalsBy contentBy
  cases count a with
  | none =>
    cases count b with
    | none =>
      rw [Option.elim_none, Option.elim_none, and_iff_left (bareContent_ne_number a none)]
      exact bareContent_eq_iff
    | some y => simp [bareContent_ne_number]
  | some x =>
    cases count b with
    | none => simp [(bareContent_ne_number b _).symm]
    | some y => simp [Number.sameValue_iff]

theorem equalsBy_symm {count : Scalar → Option Number} {a b : Scalar} (h : equalsBy count a b = true) :
    equalsBy count b a = true := by
  obtain ⟨heq, hnan⟩ := equalsBy_iff.1 h
  exact equalsBy_iff.2 ⟨heq.symm, heq ▸ hnan⟩

theorem equalsBy_trans {count : Scalar → Option Number} {a b c : Scalar} (h : equalsBy count a b = true)
    (h' : equalsBy count b c = true) : equalsBy count a c = true := by
  obtain ⟨heq, hnan⟩ := equalsBy_iff.1 h
  exact equalsBy_iff.2 ⟨heq.trans (equalsBy_iff.1 h').1, hnan⟩

/-- Scalars are strictly equal when they count as the same, except NaN. -/
theorem strictEquals_iff {a b : Scalar} : a.strictEquals b = true ↔ a.content = b.content ∧ a.content ≠ .number none :=
  equalsBy_iff

/-- Scalars are one key when they count as the same among keys. -/
theorem sameKey_iff {a b : Scalar} : a.sameKey b = true ↔ a.keyContent = b.keyContent := by
  unfold sameKey keyContent contentBy
  cases a.keyNumber? with
  | none =>
    cases b.keyNumber? with
    | none => exact bareContent_eq_iff
    | some y => simp [bareContent_ne_number]
  | some x =>
    cases b.keyNumber? with
    | none => simp [(bareContent_ne_number b _).symm]
    | some y => simpa using Number.sameAsKey_iff

/-- Scalars that count as the same are numbers at one place, or no numbers. -/
theorem number?_rel {a b : Scalar} (h : a.content = b.content) :
    Option.Rel (fun x y => x.position? = y.position?) a.number? b.number? := by
  unfold content contentBy at h
  cases ha : a.number? with
  | none =>
    cases hb : b.number? with
    | none => exact .none
    | some y =>
      rw [ha, hb] at h
      exact absurd h (bareContent_ne_number a _)
  | some x =>
    cases hb : b.number? with
    | none =>
      rw [ha, hb] at h
      exact absurd h.symm (bareContent_ne_number b _)
    | some y =>
      rw [ha, hb] at h
      exact .some (Content.number.inj h)

end Scalar

namespace Value

/-! ## Definitions -/

/-- The keys of every mapping within a value are different. -/
inductive HasDistinctKeys : Value → Prop where
  | scalar (s : Scalar) : HasDistinctKeys (.scalar s)
  | missing : HasDistinctKeys .missing
  | sequence {kind : SequenceKind} {items : List Value} (h : ∀ x ∈ items, HasDistinctKeys x) :
    HasDistinctKeys (.sequence kind items)
  | mapping {entries : List (Scalar × Value)} (hk : entries.Pairwise fun a b => a.1.sameKey b.1 = false)
    (h : ∀ e ∈ entries, HasDistinctKeys e.2) : HasDistinctKeys (.mapping entries)
  | recurrence (shape : Shape) (levels : Nat) : HasDistinctKeys (.recurrence shape levels)

/-- Two values compare alike with every other one. -/
def Interchangeable (v w : Value) : Prop :=
  ∀ c, strictEquals v c = strictEquals w c ∧ strictEquals c v = strictEquals c w

/-! ## Sets -/

/-- Only scalars are equal as members. -/
theorem exists_of_equalsMember {x y : Value} (h : equalsMember x y = true) :
    ∃ a b, x = .scalar a ∧ y = .scalar b ∧ Scalar.equalsBy Scalar.keyNumber? a b = true := by
  cases x with
  | scalar a =>
    cases y with
    | scalar b => exact ⟨a, b, rfl, rfl, h⟩
    | missing | sequence | mapping | recurrence => exact absurd h Bool.false_ne_true
  | missing | sequence | mapping | recurrence => exact absurd h Bool.false_ne_true

theorem equalsMember_symm {x y : Value} (h : equalsMember x y = true) : equalsMember y x = true := by
  obtain ⟨a, b, rfl, rfl, h⟩ := exists_of_equalsMember h
  exact Scalar.equalsBy_symm h

theorem equalsMember_trans {x y z : Value} (h : equalsMember x y = true) (h' : equalsMember y z = true) :
    equalsMember x z = true := by
  obtain ⟨a, b, rfl, rfl, h⟩ := exists_of_equalsMember h
  obtain ⟨b', c, hb, rfl, h'⟩ := exists_of_equalsMember h'
  cases hb
  exact Scalar.equalsBy_trans h h'

/-- Two sets are the same when each member of one has an equal among the members of the other. -/
theorem sameMembers_iff {xs ys : List Value} : sameMembers xs ys = true ↔
    (∀ x ∈ xs, ∃ y ∈ ys, equalsMember x y = true) ∧ ∀ y ∈ ys, ∃ x ∈ xs, equalsMember x y = true := by
  simp [sameMembers]

theorem sameMembers_symm {xs ys : List Value} (h : sameMembers xs ys = true) : sameMembers ys xs = true := by
  obtain ⟨hxy, hyx⟩ := sameMembers_iff.1 h
  refine sameMembers_iff.2 ⟨fun y hy => ?_, fun x hx => ?_⟩
  · obtain ⟨x, hx, heq⟩ := hyx y hy
    exact ⟨x, hx, equalsMember_symm heq⟩
  · obtain ⟨y, hy, heq⟩ := hxy x hx
    exact ⟨y, hy, equalsMember_symm heq⟩

theorem sameMembers_trans {xs ys zs : List Value} (h : sameMembers xs ys = true) (h' : sameMembers ys zs = true) :
    sameMembers xs zs = true := by
  obtain ⟨hxy, hyx⟩ := sameMembers_iff.1 h
  obtain ⟨hyz, hzy⟩ := sameMembers_iff.1 h'
  refine sameMembers_iff.2 ⟨fun x hx => ?_, fun z hz => ?_⟩
  · obtain ⟨y, hy, heq⟩ := hxy x hx
    obtain ⟨z, hz, heq'⟩ := hyz y hy
    exact ⟨z, hz, equalsMember_trans heq heq'⟩
  · obtain ⟨y, hy, heq'⟩ := hzy z hz
    obtain ⟨x, hx, heq⟩ := hyx y hy
    exact ⟨x, hx, equalsMember_trans heq heq'⟩

/-- A set may be exchanged for one with the same members. -/
theorem sameMembers_congr {xs ys : List Value} (h : sameMembers xs ys = true) (cs : List Value) :
    sameMembers xs cs = sameMembers ys cs ∧ sameMembers cs xs = sameMembers cs ys := by
  constructor
  · exact Bool.eq_iff_iff.2 ⟨sameMembers_trans (sameMembers_symm h), sameMembers_trans h⟩
  · exact Bool.eq_iff_iff.2 ⟨fun hc => sameMembers_trans hc h, fun hc => sameMembers_trans hc (sameMembers_symm h)⟩

/-! ## Sequences -/

/-- Two sequences are equal as sets if both are sets, and item by item if neither is. -/
theorem strictEquals_sequence_iff {a b : SequenceKind} {xs ys : List Value} :
    strictEquals (.sequence a xs) (.sequence b ys) = true ↔
      (a = .set ∧ b = .set ∧ sameMembers xs ys = true) ∨ (a ≠ .set ∧ b ≠ .set ∧ strictEqualsItems xs ys = true) := by
  rw [strictEquals, SequenceKind.isAlike]
  cases a <;> cases b <;> simp

example : strictEquals (.sequence .set [.int 1, .text "a"]) (.sequence .set [.text "a", .bool true]) = true := by
  decide +kernel

/-- Items are equal when they are one by one, and there are as many. -/
theorem strictEqualsItems_iff {xs ys : List Value} :
    strictEqualsItems xs ys = true ↔ List.Forall₂ (fun x y => strictEquals x y = true) xs ys := by
  induction xs generalizing ys with
  | nil => cases ys <;> simp [strictEqualsItems]
  | cons x xs ih => cases ys <;> simp [strictEqualsItems, ih]

/-- At every position, two lists whose items correspond hold items that do, or both hold none. -/
theorem getElem?_rel {R : Value → Value → Prop} {xs ys : List Value} (h : List.Forall₂ R xs ys) (i : Nat) :
    Option.Rel R xs[i]? ys[i]? := by
  induction h generalizing i with
  | nil => exact .none
  | cons hxy _ ih =>
    cases i with
    | zero => exact .some hxy
    | succ i => simpa using ih i

/-- Interchangeable items make interchangeable sequences. -/
theorem strictEqualsItems_congr {xs ys : List Value} (h : List.Forall₂ Interchangeable xs ys) (cs : List Value) :
    strictEqualsItems xs cs = strictEqualsItems ys cs ∧ strictEqualsItems cs xs = strictEqualsItems cs ys := by
  induction h generalizing cs with
  | nil => exact ⟨rfl, rfl⟩
  | cons hxy _ ih =>
    cases cs with
    | nil => exact ⟨rfl, rfl⟩
    | cons c cs =>
      simp only [strictEqualsItems]
      rw [(hxy c).1, (hxy c).2, (ih cs).1, (ih cs).2]
      exact ⟨rfl, rfl⟩

/-- What some value is sought among may be exchanged item by item. -/
theorem strictContains_congr_items {xs ys : List Value} (h : List.Forall₂ Interchangeable xs ys) (c : Value) :
    strictContains xs c = strictContains ys c := by
  unfold strictContains
  induction h with
  | nil => rfl
  | cons hxy _ ih => rw [List.any_cons, List.any_cons, (hxy c).1, ih]

/-! ## Mappings -/

section Mapping

variable {xs ys zs : List (Scalar × Value)}

/-- What the keys of entries count as. -/
def keyContents (entries : List (Scalar × Value)) : List Scalar.Content := entries.map fun e => e.1.keyContent

/-- Entries with different keys have keys that count as different. -/
theorem nodup_keyContents (h : xs.Pairwise fun a b => a.1.sameKey b.1 = false) : (keyContents xs).Nodup := by
  rw [keyContents, List.Nodup, List.pairwise_map]
  refine h.imp fun hab heq => ?_
  rw [Scalar.sameKey_iff.2 heq] at hab
  exact nomatch hab

/-- Keys that count as the same find the same. -/
theorem lookupKey_congr {a b : Scalar} (h : a.keyContent = b.keyContent) : lookupKey xs a = lookupKey xs b := by
  have hsame : (fun e : Scalar × Value => e.1.sameKey a) = fun e => e.1.sameKey b := by
    funext e
    rw [Bool.eq_iff_iff, Scalar.sameKey_iff, Scalar.sameKey_iff, h]
  rw [lookupKey, lookupKey, hsame]

/-- What is found under a key is the value of an entry with it. -/
theorem exists_of_lookupKey {key : Scalar} {v : Value} (h : lookupKey xs key = some v) :
    ∃ e ∈ xs, e.1.keyContent = key.keyContent ∧ e.2 = v := by
  rw [lookupKey, Option.map_eq_some_iff] at h
  obtain ⟨e, he, rfl⟩ := h
  have hsame := List.find?_some he
  exact ⟨e, List.mem_of_find?_eq_some he, Scalar.sameKey_iff.1 hsame, rfl⟩

/-- Where the keys are different, each entry is found under its key. -/
theorem lookupKey_of_mem (h : (keyContents xs).Nodup) {e : Scalar × Value} (he : e ∈ xs) :
    lookupKey xs e.1 = some e.2 := by
  have hfound : ∃ v, lookupKey xs e.1 = some v := by
    rw [← Option.isSome_iff_exists, lookupKey, Option.isSome_map, List.find?_isSome]
    exact ⟨e, he, Scalar.sameKey_iff.2 rfl⟩
  obtain ⟨v, hv⟩ := hfound
  obtain ⟨e', he', hk, rfl⟩ := exists_of_lookupKey hv
  rw [hv, List.inj_on_of_nodup_map h he' he hk]

/-- Entries are equal to those of another mapping when everything found among them is equal to what is found there. -/
theorem strictEqualsEntries_iff (h : (keyContents xs).Nodup) :
    strictEqualsEntries xs ys = true ↔
      ∀ key x, lookupKey xs key = some x → ∃ y, lookupKey ys key = some y ∧ strictEquals x y = true := by
  rw [strictEqualsEntries_eq_all, List.all_eq_true]
  constructor
  · intro hall key x hx
    obtain ⟨e, he, hk, rfl⟩ := exists_of_lookupKey hx
    obtain ⟨y, hy, heq⟩ := (Option.any_eq_true _ _).1 (hall e he)
    exact ⟨y, lookupKey_congr hk ▸ hy, heq⟩
  · intro hall e he
    obtain ⟨y, hy, heq⟩ := hall e.1 e.2 (lookupKey_of_mem h he)
    exact (Option.any_eq_true _ _).2 ⟨y, hy, heq⟩

/-- Equal mappings with different keys on the left have the same keys. There are as many different keys on either side, and
those of the first are among those of the second. -/
theorem keyContents_perm (hx : (keyContents xs).Nodup) (h : strictEquals (.mapping xs) (.mapping ys) = true) :
    (keyContents xs).Perm (keyContents ys) := by
  rw [strictEquals, Bool.and_eq_true, beq_iff_eq, strictEqualsEntries_eq_all, List.all_eq_true] at h
  obtain ⟨hlength, hall⟩ := h
  have hsubset : keyContents xs ⊆ keyContents ys := by
    intro content hc
    obtain ⟨e, he, rfl⟩ := List.mem_map.1 hc
    obtain ⟨y, hy, -⟩ := (Option.any_eq_true _ _).1 (hall e he)
    obtain ⟨e', he', hk, -⟩ := exists_of_lookupKey hy
    exact hk ▸ List.mem_map_of_mem he'
  exact (List.subperm_of_subset hx hsubset).perm_of_length_le (by simp [keyContents, hlength])

/-- Under every key, two equal mappings hold equal values or both hold none. -/
theorem lookupKey_rel {R : Value → Value → Prop} (hx : (keyContents xs).Nodup)
    (h : strictEquals (.mapping xs) (.mapping ys) = true)
    (hR : ∀ e ∈ xs, ∀ y, strictEquals e.2 y = true → R e.2 y) (key : Scalar) :
    Option.Rel R (lookupKey xs key) (lookupKey ys key) := by
  have hperm := keyContents_perm hx h
  rw [strictEquals, Bool.and_eq_true, strictEqualsEntries_iff hx] at h
  cases hfx : lookupKey xs key with
  | some x =>
    obtain ⟨y, hfy, heq⟩ := h.2 key x hfx
    obtain ⟨e, he, -, rfl⟩ := exists_of_lookupKey hfx
    rw [hfy]
    exact .some (hR e he y heq)
  | none =>
    cases hfy : lookupKey ys key with
    | none => exact .none
    | some y =>
      obtain ⟨e', he', hk', -⟩ := exists_of_lookupKey hfy
      obtain ⟨e, he, hk⟩ := List.mem_map.1 (hperm.mem_iff.2 (List.mem_map_of_mem he'))
      have hfe := lookupKey_of_mem hx he
      rw [lookupKey_congr (hk.trans hk'), hfx] at hfe
      cases hfe

/-- Mappings that hold interchangeable values under every key are interchangeable. -/
theorem strictEqualsEntries_congr (hx : (keyContents xs).Nodup) (hy : (keyContents ys).Nodup)
    (h : ∀ key, Option.Rel Interchangeable (lookupKey xs key) (lookupKey ys key)) (zs : List (Scalar × Value)) :
    strictEqualsEntries xs zs = strictEqualsEntries ys zs ∧ strictEqualsEntries zs xs = strictEqualsEntries zs ys := by
  constructor
  · rw [Bool.eq_iff_iff, strictEqualsEntries_iff hx, strictEqualsEntries_iff hy]
    refine forall_congr' fun key => ?_
    have hrel := h key
    revert hrel
    generalize lookupKey xs key = x
    generalize lookupKey ys key = y
    rintro (hxy | _)
    · simp [(hxy _).1]
    · simp
  · have hany : ∀ e : Scalar × Value, ((lookupKey xs e.1).any fun x => strictEquals e.2 x) =
        (lookupKey ys e.1).any fun y => strictEquals e.2 y := by
      intro e
      have hrel := h e.1
      revert hrel
      generalize lookupKey xs e.1 = x
      generalize lookupKey ys e.1 = y
      rintro (hxy | _)
      · exact (hxy e.2).2
      · rfl
    rw [strictEqualsEntries_eq_all, strictEqualsEntries_eq_all]
    simp only [hany]

end Mapping

/-! ## All values -/

theorem interchangeable_scalar {a b : Scalar} (h : a.strictEquals b = true) :
    Interchangeable (.scalar a) (.scalar b) := by
  obtain ⟨heq, -⟩ := Scalar.strictEquals_iff.1 h
  intro c
  cases c with
  | scalar d =>
    have hleft : a.strictEquals d = b.strictEquals d := by
      rw [Bool.eq_iff_iff, Scalar.strictEquals_iff, Scalar.strictEquals_iff, heq]
    have hright : d.strictEquals a = d.strictEquals b := by
      rw [Bool.eq_iff_iff, Scalar.strictEquals_iff, Scalar.strictEquals_iff, heq]
    simp only [strictEquals]
    exact ⟨hleft, hright⟩
  | missing | sequence | mapping | recurrence => exact ⟨rfl, rfl⟩

/-- Sets with the same members are interchangeable. -/
theorem interchangeable_set {xs ys : List Value} (h : sameMembers xs ys = true) :
    Interchangeable (.sequence .set xs) (.sequence .set ys) := by
  intro c
  cases c with
  | sequence kind cs =>
    obtain ⟨hleft, hright⟩ := sameMembers_congr h cs
    constructor <;> rw [Bool.eq_iff_iff, strictEquals_sequence_iff, strictEquals_sequence_iff]
    · simp [hleft]
    · simp [hright]
  | scalar | missing | mapping | recurrence => exact ⟨rfl, rfl⟩

/-- Sequences that are no sets are interchangeable when their items are. -/
theorem interchangeable_sequence {a b : SequenceKind} (ha : a ≠ .set) (hb : b ≠ .set) {xs ys : List Value}
    (h : List.Forall₂ Interchangeable xs ys) : Interchangeable (.sequence a xs) (.sequence b ys) := by
  intro c
  cases c with
  | sequence kind cs =>
    obtain ⟨hleft, hright⟩ := strictEqualsItems_congr h cs
    constructor <;> rw [Bool.eq_iff_iff, strictEquals_sequence_iff, strictEquals_sequence_iff]
    · simp [hleft, ha, hb]
    · simp [hright, ha, hb]
  | scalar | missing | mapping | recurrence => exact ⟨rfl, rfl⟩

/-- Mappings with different keys are interchangeable when what they hold under every key is. -/
theorem interchangeable_mapping {xs ys : List (Scalar × Value)} (hx : (keyContents xs).Nodup)
    (hy : (keyContents ys).Nodup) (hlength : xs.length = ys.length)
    (h : ∀ key, Option.Rel Interchangeable (lookupKey xs key) (lookupKey ys key)) :
    Interchangeable (.mapping xs) (.mapping ys) := by
  intro c
  cases c with
  | mapping cs =>
    simp only [strictEquals]
    rw [hlength, (strictEqualsEntries_congr hx hy h cs).1, (strictEqualsEntries_congr hx hy h cs).2]
    exact ⟨rfl, rfl⟩
  | scalar | missing | sequence | recurrence => exact ⟨rfl, rfl⟩

/-- Values that are strictly equal are interchangeable in comparisons, if the keys on the left are different; those on the right
are the same ones then. -/
theorem interchangeable_of_strictEquals {v w : Value} (hv : v.HasDistinctKeys) (h : strictEquals v w = true) :
    Interchangeable v w := by
  induction hv generalizing w with
  | scalar a =>
    cases w with
    | scalar b => exact interchangeable_scalar h
    | missing | sequence | mapping | recurrence => exact absurd h Bool.false_ne_true
  | missing =>
    cases w with
    | missing => exact fun c => ⟨rfl, rfl⟩
    | scalar | sequence | mapping | recurrence => exact absurd h Bool.false_ne_true
  | recurrence shape levels => cases w <;> exact absurd h Bool.false_ne_true
  | sequence _ ih =>
    cases w with
    | sequence kind ys =>
      rcases strictEquals_sequence_iff.1 h with ⟨rfl, rfl, hmembers⟩ | ⟨ha, hb, hitems⟩
      · exact interchangeable_set hmembers
      · have hitems := strictEqualsItems_iff.1 hitems
        refine interchangeable_sequence ha hb (List.forall₂_iff_get.2 ⟨hitems.length_eq, fun i hi hi' => ?_⟩)
        exact ih _ (List.get_mem _ _) (hitems.get hi hi')
    | scalar | missing | mapping | recurrence => exact absurd h Bool.false_ne_true
  | mapping hk _ ih =>
    cases w with
    | mapping ys =>
      have hx := nodup_keyContents hk
      have hperm := keyContents_perm hx h
      have hlength := hperm.length_eq
      rw [keyContents, keyContents, List.length_map, List.length_map] at hlength
      exact interchangeable_mapping hx (hperm.nodup_iff.1 hx) hlength (lookupKey_rel hx h fun e he _ heq => ih e he heq)
    | scalar | missing | sequence | recurrence => exact absurd h Bool.false_ne_true

end Value

end RegulatoryTrees
