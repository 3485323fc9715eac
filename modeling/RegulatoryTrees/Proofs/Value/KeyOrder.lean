import RegulatoryTrees.Value.Rendering
import RegulatoryTrees.Value.StrictEquality

/-!
# Values up to the order of keys

`sorted` puts the entries of every mapping into the order of their keys, so that two values are the same up to the order of keys
when their sorted forms are the same. Looking up keys and strict equality do not see the order, as long as the keys of a mapping
are different texts; values of this kind without tuples are called plain.
-/

namespace RegulatoryTrees

namespace Value

/-! ## Definitions -/

/-- The key of the first entry comes no later than that of the second. -/
def keyLe (a b : Scalar × Value) : Bool := decide (a.1.plain ≤ b.1.plain)

mutual

/-- A value with the entries of every mapping in the order of their keys. -/
def sorted : Value → Value
  | .sequence kind items => .sequence kind (sortedItems items)
  | .mapping entries => .mapping ((sortedEntries entries).mergeSort keyLe)
  | v => v

/-- The items of a sequence, sorted within. -/
def sortedItems : List Value → List Value
  | [] => []
  | x :: rest => sorted x :: sortedItems rest

/-- The entries of a mapping, sorted within, in the order in which they come. -/
def sortedEntries : List (Scalar × Value) → List (Scalar × Value)
  | [] => []
  | (key, x) :: rest => (key, sorted x) :: sortedEntries rest

end

/-- A field of a mapping with text keys as an entry. -/
def entryOf (field : String × Value) : Scalar × Value := (.text field.1, field.2)

/-- A value without tuples in which the keys of every mapping are different texts. -/
inductive IsPlain : Value → Prop where
  | scalar (s : Scalar) : IsPlain (.scalar s)
  | missing : IsPlain .missing
  | sequence {kind : SequenceKind} {items : List Value} (hk : kind ≠ .tuple) (h : ∀ x ∈ items, IsPlain x) :
    IsPlain (.sequence kind items)
  | mapping {fields : List (String × Value)} (hk : (fields.map Prod.fst).Nodup) (h : ∀ f ∈ fields, IsPlain f.2) :
    IsPlain (.mapping (fields.map entryOf))
  | recurrence (shape : Shape) (levels : Nat) : IsPlain (.recurrence shape levels)

/-- Fields, sorted within and in the order of their keys. -/
def sortedFields (fields : List (String × Value)) : List (String × Value) :=
  (fields.map fun f => (f.1, f.2.sorted)).mergeSort fun a b => decide (a.1 ≤ b.1)

/-! ## Sorted values -/

theorem sortedItems_eq_map (items : List Value) : sortedItems items = items.map sorted := by
  induction items with
  | nil => rfl
  | cons x rest ih => rw [sortedItems, ih, List.map_cons]

theorem sortedEntries_eq_map (entries : List (Scalar × Value)) :
    sortedEntries entries = entries.map fun e => (e.1, e.2.sorted) := by
  induction entries with
  | nil => rfl
  | cons e rest ih => rw [sortedEntries, ih, List.map_cons]

/-- A sequence is sorted item by item. -/
theorem sorted_sequence (kind : SequenceKind) (items : List Value) :
    (Value.sequence kind items).sorted = .sequence kind (items.map sorted) := by
  rw [sorted, sortedItems_eq_map]

/-- A mapping with text keys is sorted by these and within. -/
theorem sorted_mapping (fields : List (String × Value)) :
    (Value.mapping (fields.map entryOf)).sorted = .mapping ((sortedFields fields).map entryOf) := by
  have hsort := List.map_mergeSort (r := fun a b : String × Value => decide (a.1 ≤ b.1)) (s := keyLe) (f := entryOf)
    (l := fields.map fun f => (f.1, f.2.sorted)) fun _ _ _ _ => rfl
  rw [sorted, sortedEntries_eq_map, sortedFields, hsort, List.map_map, List.map_map]
  rfl

/-- Sorted fields are the fields, sorted within, in some order. -/
theorem sortedFields_perm (fields : List (String × Value)) :
    (sortedFields fields).Perm (fields.map fun f => (f.1, f.2.sorted)) := List.mergeSort_perm _ _

/-- The sorted fields are the fields, each sorted within. -/
theorem mem_sortedFields {fields : List (String × Value)} {f : String × Value} :
    f ∈ sortedFields fields ↔ ∃ g ∈ fields, (g.1, g.2.sorted) = f := by
  rw [(sortedFields_perm fields).mem_iff, List.mem_map]

/-- Sorting fields loses none. -/
theorem length_sortedFields (fields : List (String × Value)) : (sortedFields fields).length = fields.length := by
  rw [(sortedFields_perm fields).length_eq, List.length_map]

/-- Sorting keeps the keys different. -/
theorem nodup_sortedFields {fields : List (String × Value)} (h : (fields.map Prod.fst).Nodup) :
    ((sortedFields fields).map Prod.fst).Nodup := by
  have hperm := (sortedFields_perm fields).map Prod.fst
  rw [List.map_map] at hperm
  exact hperm.nodup_iff.2 h

/-- Sorting keeps a value plain. -/
theorem IsPlain.sorted {v : Value} (h : v.IsPlain) : v.sorted.IsPlain := by
  induction h with
  | scalar s => exact .scalar s
  | missing => exact .missing
  | sequence hk _ ih =>
    rw [sorted_sequence]
    refine .sequence hk fun x hx => ?_
    obtain ⟨y, hy, rfl⟩ := List.mem_map.1 hx
    exact ih y hy
  | mapping hk _ ih =>
    rw [sorted_mapping]
    refine .mapping (nodup_sortedFields hk) fun f hf => ?_
    obtain ⟨g, hg, rfl⟩ := mem_sortedFields.1 hf
    exact ih g hg
  | recurrence shape levels => exact .recurrence shape levels

/-- Sorting changes nothing about which kind of value it is. -/
theorem kindName_sorted (v : Value) : v.sorted.kindName = v.kindName := by
  cases v <;> rfl

/-- Sorting leaves a number what it is. -/
theorem number?_sorted (v : Value) : v.sorted.number? = v.number? := by
  cases v <;> rfl

/-- Sorting leaves an absent value absent, and no other becomes so. -/
theorem isAbsent_sorted (v : Value) : v.sorted.isAbsent = v.isAbsent := by
  cases v <;> rfl

theorem isMissing_sorted (v : Value) : v.sorted.isMissing = v.isMissing := by
  cases v <;> rfl

/-! ## Looking up keys -/

section Lookup

variable {fields : List (String × Value)}

/-- The value under a text key is that of the field with the key. -/
theorem lookup_eq_some_iff (h : (fields.map Prod.fst).Nodup) {key : String} {v : Value} :
    lookup (fields.map entryOf) key = some v ↔ (key, v) ∈ fields := by
  induction fields with
  | nil => simp [lookup]
  | cons f rest ih =>
    rw [List.map_cons, List.nodup_cons] at h
    have hih := ih h.2
    rw [lookup] at hih ⊢
    rw [List.map_cons, List.find?_cons]
    by_cases hk : f.1 = key
    · have hfound : ((entryOf f).1 == Scalar.text key) = true := by simp [entryOf, hk]
      have hnot : (key, v) ∉ rest := fun hm => h.1 (hk ▸ List.mem_map_of_mem (f := Prod.fst) hm)
      rw [hfound, Option.map_some, Option.some.injEq, List.mem_cons, or_iff_left hnot, Prod.ext_iff]
      simp [entryOf, hk, eq_comm]
    · have hfound : ((entryOf f).1 == Scalar.text key) = false := by simp [entryOf, hk]
      have hne : (key, v) ≠ f := fun he => hk (congrArg Prod.fst he).symm
      rw [hfound, hih, List.mem_cons, or_iff_right hne]

/-- Sorting a mapping sorts the value under each key. -/
theorem lookup_sortedFields (h : (fields.map Prod.fst).Nodup) (key : String) :
    lookup ((sortedFields fields).map entryOf) key = (lookup (fields.map entryOf) key).map sorted := by
  apply Option.ext
  intro v
  rw [lookup_eq_some_iff (nodup_sortedFields h), mem_sortedFields, Option.map_eq_some_iff]
  constructor
  · rintro ⟨⟨k, w⟩, hm, heq⟩
    obtain ⟨rfl, rfl⟩ := Prod.mk.inj heq
    exact ⟨w, (lookup_eq_some_iff h).2 hm, rfl⟩
  · rintro ⟨w, hw, rfl⟩
    exact ⟨(key, w), (lookup_eq_some_iff h).1 hw, rfl⟩

/-- A text is the same key as an equal text only. -/
theorem sameKey_text (k : String) (key : Scalar) : (Scalar.text k).sameKey key = (Scalar.text k == key) := by
  cases key <;> rfl

/-- Among text keys, any key that is asked for is a text or not there. -/
theorem lookupKey_fields (fields : List (String × Value)) (key : Scalar) :
    lookupKey (fields.map entryOf) key =
      match key with
      | .text k => lookup (fields.map entryOf) k
      | _ => none := by
  have hsame : lookupKey (fields.map entryOf) key = ((fields.map entryOf).find? fun e => e.1 == key).map Prod.snd := by
    rw [lookupKey, List.find?_map, List.find?_map]
    congr 3
    funext f
    exact sameKey_text f.1 key
  rw [hsame]
  split
  · rfl
  · next hkey =>
    rw [Option.map_eq_none_iff, List.find?_eq_none]
    intro e he
    obtain ⟨f, -, rfl⟩ := List.mem_map.1 he
    simp only [entryOf, beq_iff_eq]
    exact fun heq => hkey f.1 heq.symm

/-- Under a key the sorted fields hold the value of the fields, sorted. -/
theorem lookupKey_sortedFields (h : (fields.map Prod.fst).Nodup) (key : Scalar) :
    lookupKey ((sortedFields fields).map entryOf) key = (lookupKey (fields.map entryOf) key).map sorted := by
  rw [lookupKey_fields, lookupKey_fields]
  split
  · exact lookup_sortedFields h _
  · rfl

/-- What is found under a key is the value of a field. -/
theorem mem_of_lookupKey {key : Scalar} {v : Value} (h : lookupKey (fields.map entryOf) key = some v) :
    ∃ f ∈ fields, f.2 = v := by
  rw [lookupKey, Option.map_eq_some_iff] at h
  obtain ⟨e, he, rfl⟩ := h
  obtain ⟨f, hf, rfl⟩ := List.mem_map.1 (List.mem_of_find?_eq_some he)
  exact ⟨f, hf, rfl⟩

end Lookup

/-! ## Building mappings -/

/-- A key that is not there goes to the end. -/
theorem insertKey_of_not_mem {key : String} {entries : List (Scalar × Value)} (h : ∀ e ∈ entries, e.1.sameKey (.text key) = false)
    (v : Value) : insertKey (.text key) v entries = entries ++ [(.text key, v)] := by
  induction entries with
  | nil => rfl
  | cons e rest ih =>
    rw [insertKey, h e List.mem_cons_self, ih fun e' he' => h e' (List.mem_cons_of_mem e he')]
    rfl

/-- Fields with different keys are a mapping as they come. The fields still to be put in have keys that are not there yet. -/
theorem ofEntries_fields {fields : List (String × Value)} (h : (fields.map Prod.fst).Nodup) :
    ofEntries (fields.map entryOf) = fields.map entryOf := by
  have hfold : ∀ (rest done : List (String × Value)), ((done ++ rest).map Prod.fst).Nodup →
      (rest.map entryOf).foldl (fun done e => insertKey e.1 e.2 done) (done.map entryOf) = (done ++ rest).map entryOf := by
    intro rest
    induction rest with
    | nil =>
      intro done _
      rw [List.append_nil]
      rfl
    | cons f rest ih =>
      intro done hd
      have hnew : ∀ e ∈ done.map entryOf, e.1.sameKey (.text f.1) = false := by
        intro e he
        obtain ⟨g, hg, rfl⟩ := List.mem_map.1 he
        rw [entryOf, sameKey_text, beq_eq_false_iff_ne]
        intro heq
        rw [List.map_append, List.nodup_append] at hd
        exact hd.2.2 g.1 (List.mem_map_of_mem hg) f.1 List.mem_cons_self (Scalar.text.inj heq)
      have happend : done ++ f :: rest = (done ++ [f]) ++ rest := by simp
      rw [happend] at hd ⊢
      rw [← ih (done ++ [f]) hd, List.map_cons, List.foldl_cons, entryOf, insertKey_of_not_mem hnew, List.map_append]
      rfl
  exact hfold fields [] h

/-! ## Strict equality -/

/-- Entries are equal to others if under the key of each the others hold an equal value. -/
theorem strictEqualsEntries_eq_all (xs ys : List (Scalar × Value)) :
    strictEqualsEntries xs ys = xs.all fun e => (lookupKey ys e.1).any fun y => strictEquals e.2 y := by
  induction xs with
  | nil => rfl
  | cons e rest ih =>
    rw [strictEqualsEntries, ih, List.all_cons]
    congr 1
    cases lookupKey ys e.1 <;> rfl

/-- Items that are strictly equal to the same values may be put in the place of others. -/
theorem strictEqualsItems_map_left {f : Value → Value} {xs : List Value}
    (h : ∀ x ∈ xs, ∀ c, strictEquals (f x) c = strictEquals x c) (ys : List Value) :
    strictEqualsItems (xs.map f) ys = strictEqualsItems xs ys := by
  induction xs generalizing ys with
  | nil => rfl
  | cons x rest ih =>
    cases ys with
    | nil => rfl
    | cons y ys =>
      rw [List.map_cons, strictEqualsItems, strictEqualsItems, h x List.mem_cons_self,
        ih fun z hz => h z (List.mem_cons_of_mem x hz)]

/-- Items to which the same values are strictly equal may be put in the place of others. -/
theorem strictEqualsItems_map_right {f : Value → Value} {ys : List Value}
    (h : ∀ y ∈ ys, ∀ c, strictEquals c (f y) = strictEquals c y) (xs : List Value) :
    strictEqualsItems xs (ys.map f) = strictEqualsItems xs ys := by
  induction ys generalizing xs with
  | nil => cases xs <;> rfl
  | cons y rest ih =>
    cases xs with
    | nil => rfl
    | cons x xs =>
      rw [List.map_cons, strictEqualsItems, strictEqualsItems, h y List.mem_cons_self,
        ih fun z hz => h z (List.mem_cons_of_mem y hz)]

/-- Sorting keys leaves a member of a set what it is. -/
theorem equalsMember_sorted (v c : Value) :
    equalsMember v.sorted c = equalsMember v c ∧ equalsMember c v.sorted = equalsMember c v := by
  cases v with
  | scalar s => exact ⟨rfl, rfl⟩
  | missing | sequence | mapping | recurrence => cases c <;> exact ⟨rfl, rfl⟩

/-- A set has the same members when its members are sorted. -/
theorem sameMembers_sorted (xs ys : List Value) :
    sameMembers (xs.map sorted) ys = sameMembers xs ys ∧ sameMembers xs (ys.map sorted) = sameMembers xs ys := by
  simp [sameMembers, List.all_map, List.any_map, Function.comp_def, equalsMember_sorted]

/-- Strict equality does not see the order of keys on its left. -/
theorem strictEquals_sorted_left {v : Value} (h : v.IsPlain) (c : Value) : strictEquals v.sorted c = strictEquals v c := by
  induction h generalizing c with
  | scalar s => rfl
  | missing => rfl
  | recurrence shape levels => rfl
  | sequence hk _ ih =>
    rw [sorted_sequence]
    cases c with
    | sequence b ys => rw [strictEquals, strictEquals, strictEqualsItems_map_left ih, (sameMembers_sorted _ ys).1]
    | scalar | missing | mapping | recurrence => rfl
  | @mapping fields hk _ ih =>
    rw [sorted_mapping]
    cases c with
    | mapping ys =>
      have hall : ((sortedFields fields).map entryOf).all (fun e => (lookupKey ys e.1).any fun y => strictEquals e.2 y) =
          (fields.map entryOf).all fun e => (lookupKey ys e.1).any fun y => strictEquals e.2 y := by
        have hfield : ∀ f ∈ fields, ((lookupKey ys (.text f.1)).any fun y => strictEquals f.2.sorted y) =
            (lookupKey ys (.text f.1)).any fun y => strictEquals f.2 y := by
          intro f hf
          simp only [ih f hf]
        rw [((sortedFields_perm fields).map entryOf).all_eq, List.map_map, List.all_map, List.all_map, Bool.eq_iff_iff,
          List.all_eq_true, List.all_eq_true]
        exact ⟨fun h f hf => (hfield f hf).symm.trans (h f hf), fun h f hf => (hfield f hf).trans (h f hf)⟩
      rw [strictEquals, strictEquals, strictEqualsEntries_eq_all, strictEqualsEntries_eq_all, hall, List.length_map,
        List.length_map, length_sortedFields]
    | scalar | missing | sequence | recurrence => rfl

/-- Strict equality does not see the order of keys on its right. -/
theorem strictEquals_sorted_right {v : Value} (h : v.IsPlain) (c : Value) : strictEquals c v.sorted = strictEquals c v := by
  induction h generalizing c with
  | scalar s => rfl
  | missing => rfl
  | recurrence shape levels => rfl
  | sequence hk _ ih =>
    rw [sorted_sequence]
    cases c with
    | sequence b xs => rw [strictEquals, strictEquals, strictEqualsItems_map_right ih, (sameMembers_sorted xs _).2]
    | scalar | missing | mapping | recurrence => rfl
  | @mapping fields hk _ ih =>
    rw [sorted_mapping]
    cases c with
    | mapping xs =>
      have hlookup : ∀ key x, ((lookupKey ((sortedFields fields).map entryOf) key).any fun y => strictEquals x y) =
          (lookupKey (fields.map entryOf) key).any fun y => strictEquals x y := by
        intro key x
        rw [lookupKey_sortedFields hk]
        cases hf : lookupKey (fields.map entryOf) key with
        | none => rfl
        | some y =>
          obtain ⟨f, hm, rfl⟩ := mem_of_lookupKey hf
          exact ih f hm x
      simp only [strictEquals, strictEqualsEntries_eq_all, hlookup, List.length_map, length_sortedFields]
    | scalar | missing | sequence | recurrence => rfl

/-- What contains a value contains the sorted value. -/
theorem strictContains_sorted_right {v : Value} (h : v.IsPlain) (items : List Value) :
    strictContains items v.sorted = strictContains items v := by
  simp only [strictContains, strictEquals_sorted_right h]

theorem strictContains_sorted_left {items : List Value} (h : ∀ x ∈ items, x.IsPlain) (c : Value) :
    strictContains (items.map sorted) c = strictContains items c := by
  rw [strictContains, strictContains, List.any_map, Bool.eq_iff_iff, List.any_eq_true, List.any_eq_true]
  constructor
  · rintro ⟨x, hx, hc⟩
    exact ⟨x, hx, (strictEquals_sorted_left (h x hx) c).symm.trans hc⟩
  · rintro ⟨x, hx, hc⟩
    exact ⟨x, hx, (strictEquals_sorted_left (h x hx) c).trans hc⟩

end Value

end RegulatoryTrees
