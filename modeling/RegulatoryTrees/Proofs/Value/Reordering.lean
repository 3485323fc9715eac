import Mathlib.Data.List.Nodup
import RegulatoryTrees.Proofs.Json.Plain
import RegulatoryTrees.Proofs.Json.RoundTrip

/-!
# Values that differ in the order of keys only

`Reordered` says shape by shape when two values are the same up to the order of keys. The values that JSON can hold (`IsJson`) are
so exactly when their sorted forms are the same (`reordered_iff_sorted_eq`). They have a canonical text, and they have one text
exactly when they are the same up to the order of keys (`canonicalText_eq_iff`).
-/

namespace RegulatoryTrees

open Rendering (canonical)

namespace Value

/-! ## Definitions -/

/-- A value that JSON can hold: null, a truth value, an integer of at most 4300 digits, a double, a text, a list, or a mapping
whose keys are different texts. -/
inductive IsJson : Value → Prop where
  | null : IsJson .null
  | bool (b : Bool) : IsJson (.bool b)
  | int {n : Int} (h : (Decimal.digitsOf n.natAbs).length ≤ Decimal.digitLimit) : IsJson (.int n)
  | double (d : Double) : IsJson (.double d)
  | text (s : String) : IsJson (.text s)
  | list {items : List Value} (h : ∀ x ∈ items, IsJson x) : IsJson (.list items)
  | mapping {fields : List (String × Value)} (hk : (fields.map Prod.fst).Nodup) (h : ∀ f ∈ fields, IsJson f.2) :
    IsJson (.mapping (fields.map entryOf))

/-- Two values are the same up to the order of keys: they are one scalar, lists of such values in the same places, or mappings
with the same keys and such values under each key. -/
inductive Reordered : Value → Value → Prop where
  | scalar (s : Scalar) : Reordered (.scalar s) (.scalar s)
  | list {xs ys : List Value} (hl : xs.length = ys.length) (h : ∀ p ∈ xs.zip ys, Reordered p.1 p.2) :
    Reordered (.list xs) (.list ys)
  | mapping {fields others : List (String × Value)} (hk : (fields.map Prod.fst).Perm (others.map Prod.fst))
    (h : ∀ f ∈ fields, ∀ g ∈ others, f.1 = g.1 → Reordered f.2 g.2) :
    Reordered (.mapping (fields.map entryOf)) (.mapping (others.map entryOf))

/-- A value that JSON can hold is plain. -/
theorem IsJson.isPlain {v : Value} (h : v.IsJson) : v.IsPlain := by
  induction h with
  | null => exact .scalar _
  | bool b => exact .scalar _
  | int _ => exact .scalar _
  | double d => exact .scalar _
  | text s => exact .scalar _
  | list _ ih => exact .sequence (by decide) ih
  | mapping hk _ ih => exact .mapping hk ih

/-! ## Fields in order -/

section Fields

variable {fields others : List (String × Value)}

/-- A field is determined by its entry. -/
theorem entryOf_injective : Function.Injective entryOf := by
  intro f g h
  obtain ⟨hk, hv⟩ := Prod.mk.inj h
  exact Prod.ext (Scalar.text.inj hk) hv

/-- Two fields with one key are one where the keys are different. -/
theorem eq_of_key_eq (h : (fields.map Prod.fst).Nodup) {f g : String × Value} (hf : f ∈ fields) (hg : g ∈ fields)
    (hk : f.1 = g.1) : f = g :=
  List.inj_on_of_nodup_map h hf hg hk

/-- Sorted fields stand in the order of their keys. -/
theorem pairwise_sortedFields (fields : List (String × Value)) :
    (sortedFields fields).Pairwise fun a b => a.1 ≤ b.1 := by
  let le := fun a b : String × Value => decide (a.1 ≤ b.1)
  have htrans : ∀ a b c : String × Value, le a b = true → le b c = true → le a c = true := by
    intro a b c hab hbc
    exact decide_eq_true (String.le_trans (of_decide_eq_true hab) (of_decide_eq_true hbc))
  have htotal : ∀ a b : String × Value, (le a b || le b a) = true := by
    intro a b
    rw [Bool.or_eq_true]
    exact (String.le_total a.1 b.1).imp decide_eq_true decide_eq_true
  have hsorted := List.pairwise_mergeSort htrans htotal (fields.map fun f => (f.1, f.2.sorted))
  exact hsorted.imp fun h => of_decide_eq_true h

/-- Fields whose sorted forms are the same in some order are the same when they are put into the order of their keys. -/
theorem sortedFields_eq_of_perm (hk : (fields.map Prod.fst).Nodup)
    (hp : (fields.map fun f => (f.1, f.2.sorted)).Perm (others.map fun f => (f.1, f.2.sorted))) :
    sortedFields fields = sortedFields others := by
  have hperm := (sortedFields_perm fields).trans (hp.trans (sortedFields_perm others).symm)
  refine List.Perm.eq_of_pairwise (fun a b ha hb hab hba => ?_) (pairwise_sortedFields fields) (pairwise_sortedFields others)
    hperm
  exact eq_of_key_eq (nodup_sortedFields hk) ha (hperm.mem_iff.2 hb) (String.le_antisymm hab hba)

/-- The keys of fields in order are those of the fields. -/
theorem keys_sortedFields (fields : List (String × Value)) :
    ((sortedFields fields).map Prod.fst).Perm (fields.map Prod.fst) := by
  have h := (sortedFields_perm fields).map Prod.fst
  rwa [List.map_map] at h

end Fields

/-! ## Reordered values have one sorted form -/

/-- Values that are the same up to the order of keys have one sorted form. The fields, sorted within, are the same ones: each
has one with its key on the other side, and the two values sort alike. -/
theorem Reordered.sorted_eq {v w : Value} (h : Reordered v w) (hv : v.IsPlain) (hw : w.IsPlain) : v.sorted = w.sorted := by
  induction h with
  | scalar s => rfl
  | @list xs ys hl _ ih =>
    have hxs : ∀ x ∈ xs, x.IsPlain := by cases hv with | sequence _ h => exact h
    have hys : ∀ y ∈ ys, y.IsPlain := by cases hw with | sequence _ h => exact h
    rw [sorted_sequence, sorted_sequence]
    refine congrArg (Value.sequence .list) (List.ext_getElem (by simp [hl]) fun i hi hi' => ?_)
    rw [List.length_map] at hi hi'
    rw [List.getElem_map, List.getElem_map]
    have hlt : i < (xs.zip ys).length := List.length_zip ▸ Nat.lt_min.2 ⟨hi, hi'⟩
    have hpair : (xs[i], ys[i]) ∈ xs.zip ys := by
      have hm := List.getElem_mem hlt
      rwa [List.getElem_zip] at hm
    exact ih _ hpair (hxs _ (List.getElem_mem hi)) (hys _ (List.getElem_mem hi'))
  | @mapping fields others hk _ ih =>
    obtain ⟨fs, hfs, hkf, hpf⟩ := isPlain_mapping.1 hv
    obtain ⟨gs, hgs, hkg, hpg⟩ := isPlain_mapping.1 hw
    obtain rfl := entryOf_injective.list_map hfs
    obtain rfl := entryOf_injective.list_map hgs
    have hnodup : ∀ {es : List (String × Value)}, (es.map Prod.fst).Nodup → (es.map fun f => (f.1, f.2.sorted)).Nodup := by
      intro es hes
      refine List.Nodup.of_map Prod.fst ?_
      rwa [List.map_map]
    have hmem : ∀ e, e ∈ fields.map (fun f => (f.1, f.2.sorted)) ↔ e ∈ others.map (fun f => (f.1, f.2.sorted)) := by
      intro e
      simp only [List.mem_map]
      constructor
      · rintro ⟨f, hf, rfl⟩
        obtain ⟨g, hg, hgk⟩ := List.mem_map.1 (hk.mem_iff.1 (List.mem_map_of_mem (f := Prod.fst) hf))
        exact ⟨g, hg, by rw [hgk, ih f hf g hg hgk.symm (hpf f hf) (hpg g hg)]⟩
      · rintro ⟨g, hg, rfl⟩
        obtain ⟨f, hf, hfk⟩ := List.mem_map.1 (hk.mem_iff.2 (List.mem_map_of_mem (f := Prod.fst) hg))
        exact ⟨f, hf, by rw [hfk, ih f hf g hg hfk (hpf f hf) (hpg g hg)]⟩
    rw [sorted_mapping, sorted_mapping,
      sortedFields_eq_of_perm hkf ((List.perm_ext_iff_of_nodup (hnodup hkf) (hnodup hkg)).2 hmem)]

/-! ## One sorted form, reordered values -/

/-- A value whose sorted form is a scalar is this scalar. -/
theorem eq_scalar_of_sorted {v : Value} {s : Scalar} (h : v.sorted = .scalar s) : v = .scalar s := by
  cases v with
  | scalar t => exact h
  | missing => cases h
  | sequence kind items => rw [sorted_sequence] at h; cases h
  | mapping entries => rw [sorted] at h; cases h
  | recurrence shape levels => cases h

/-- A scalar is the same, up to the order of keys, as every value with its sorted form. -/
theorem reordered_scalar {s : Scalar} {w : Value} (h : (Value.scalar s).sorted = w.sorted) : Reordered (.scalar s) w := by
  rw [eq_scalar_of_sorted h.symm]
  exact .scalar s

/-- A value whose sorted form is a list is a list with these items, sorted. -/
theorem exists_list_of_sorted {v : Value} {items : List Value} (h : v.sorted = .list items) :
    ∃ ys, v = .list ys ∧ ys.map sorted = items := by
  cases v with
  | sequence kind ys =>
    rw [sorted_sequence] at h
    obtain ⟨rfl, hys⟩ := Value.sequence.inj h
    exact ⟨ys, rfl, hys⟩
  | mapping entries => rw [sorted] at h; cases h
  | scalar _ => cases h
  | missing => cases h
  | recurrence _ _ => cases h

/-- A plain value whose sorted form is a mapping is a mapping with these fields in order. -/
theorem exists_fields_of_sorted {v : Value} (hv : v.IsPlain) {fields : List (String × Value)}
    (h : v.sorted = .mapping (fields.map entryOf)) :
    ∃ others, v = .mapping (others.map entryOf) ∧ (others.map Prod.fst).Nodup ∧ (∀ g ∈ others, g.2.IsPlain) ∧
      sortedFields others = fields := by
  cases v with
  | mapping entries =>
    obtain ⟨others, rfl, hk, hplain⟩ := isPlain_mapping.1 hv
    rw [sorted_mapping] at h
    exact ⟨others, rfl, hk, hplain, entryOf_injective.list_map (Value.mapping.inj h)⟩
  | sequence kind ys => rw [sorted_sequence] at h; cases h
  | scalar _ => cases h
  | missing => cases h
  | recurrence _ _ => cases h

/-- A value that JSON can hold is the same, up to the order of keys, as every plain value with its sorted form. -/
theorem reordered_of_sorted_eq {v : Value} (hv : v.IsJson) {w : Value} (hw : w.IsPlain) (h : v.sorted = w.sorted) :
    Reordered v w := by
  induction hv generalizing w with
  | null => exact reordered_scalar h
  | bool b => exact reordered_scalar h
  | int _ => exact reordered_scalar h
  | double d => exact reordered_scalar h
  | text s => exact reordered_scalar h
  | @list xs _ ih =>
    rw [sorted_sequence] at h
    obtain ⟨ys, rfl, hys⟩ := exists_list_of_sorted h.symm
    have hplain : ∀ y ∈ ys, y.IsPlain := by cases hw with | sequence _ h => exact h
    have hlen : xs.length = ys.length := by simpa using congrArg List.length hys.symm
    refine .list hlen ?_
    intro p hp
    obtain ⟨i, hi, rfl⟩ := List.getElem_of_mem hp
    have hlt := hi
    rw [List.length_zip, Nat.lt_min] at hlt
    have hget : (ys.map sorted)[i]? = (xs.map sorted)[i]? := by rw [hys]
    rw [List.getElem?_map, List.getElem?_map, List.getElem?_eq_getElem hlt.1, List.getElem?_eq_getElem hlt.2] at hget
    rw [List.getElem_zip]
    exact ih _ (List.getElem_mem hlt.1) (hplain _ (List.getElem_mem hlt.2)) (Option.some.inj hget).symm
  | @mapping fields hk _ ih =>
    rw [sorted_mapping] at h
    obtain ⟨others, rfl, hko, hplain, hfields⟩ := exists_fields_of_sorted hw h.symm
    refine .mapping ?_ fun f hf g hg hfg => ?_
    · exact (keys_sortedFields fields).symm.trans (hfields ▸ keys_sortedFields others)
    · have hf' : (f.1, f.2.sorted) ∈ sortedFields fields := mem_sortedFields.2 ⟨f, hf, rfl⟩
      have hg' : (g.1, g.2.sorted) ∈ sortedFields fields := hfields ▸ mem_sortedFields.2 ⟨g, hg, rfl⟩
      have hsame := eq_of_key_eq (nodup_sortedFields hk) hf' hg' hfg
      exact ih f hf (hplain g hg) (Prod.mk.inj hsame).2

/-- Values that JSON can hold are the same up to the order of keys exactly when they have one sorted form. -/
theorem reordered_iff_sorted_eq {v w : Value} (hv : v.IsJson) (hw : w.IsJson) : Reordered v w ↔ v.sorted = w.sorted :=
  ⟨fun h => h.sorted_eq hv.isPlain hw.isPlain, reordered_of_sorted_eq hv hw.isPlain⟩

/-- A value that JSON can hold is the same as itself. -/
theorem IsJson.reordered_self {v : Value} (h : v.IsJson) : Reordered v v := reordered_of_sorted_eq h h.isPlain rfl

/-- A mapping that JSON can hold is the same, up to the order of keys, as one with its fields in any other order. -/
theorem reordered_of_perm {fields others : List (String × Value)} (hk : (fields.map Prod.fst).Nodup)
    (hj : ∀ f ∈ fields, f.2.IsJson) (hp : fields.Perm others) :
    Reordered (.mapping (fields.map entryOf)) (.mapping (others.map entryOf)) := by
  refine .mapping (hp.map Prod.fst) fun f hf g hg hfg => ?_
  rw [← eq_of_key_eq hk hf (hp.mem_iff.2 hg) hfg]
  exact (hj f hf).reordered_self

/-! ## The canonical text -/

/-- The items of a sequence are written one by one. -/
theorem items_eq_mapM (form : Rendering.Form) (xs : List Value) :
    Rendering.items form xs = xs.mapM (Rendering.value form) := by
  induction xs with
  | nil => rfl
  | cons x xs ih => rw [Rendering.items, List.mapM_cons, ih]; rfl

/-- A field is written as its sorted form is if its value is. -/
theorem fieldText_sorted {f : String × Value} (h : Rendering.value canonical f.2.sorted = Rendering.value canonical f.2) :
    Json.fieldText (f.1, f.2.sorted) = Json.fieldText f := by
  rw [Json.fieldText, Json.fieldText, h]

/-- Sorting fields that are sorted changes nothing. -/
theorem mergeSort_sortedFields (fields : List (String × Value)) :
    (sortedFields fields).mergeSort Json.fieldLe = sortedFields fields :=
  List.mergeSort_of_pairwise ((pairwise_sortedFields fields).imp fun h => decide_eq_true h)

/-- A plain value is written as its sorted form is. -/
theorem value_sorted {v : Value} (h : v.IsPlain) : Rendering.value canonical v.sorted = Rendering.value canonical v := by
  induction h with
  | scalar s => rfl
  | missing => rfl
  | recurrence shape levels => rfl
  | @sequence kind items hk _ ih =>
    have hitems : Rendering.items canonical (items.map sorted) = Rendering.items canonical items := by
      rw [items_eq_mapM, items_eq_mapM, List.mapM_map]
      exact Except.mapM_congr ih
    rw [sorted_sequence]
    cases kind with
    | tuple => exact absurd rfl hk
    | set => rfl
    | list => rw [Rendering.value, Rendering.value, hitems] <;> decide
  | @mapping fields hk _ ih =>
    have htexts : (sortedFields fields).mapM Json.fieldText = (fields.mergeSort Json.fieldLe).mapM Json.fieldText := by
      rw [Json.sortedFields_eq, List.mapM_map]
      refine Except.mapM_congr fun f hf => ?_
      exact fieldText_sorted (ih f ((List.mergeSort_perm fields Json.fieldLe).mem_iff.1 hf))
    rw [sorted_mapping, Json.value_mapping, Json.value_mapping, mergeSort_sortedFields, htexts]

/-- A value that JSON can hold has a canonical text. -/
theorem IsJson.exists_value {v : Value} (h : v.IsJson) : ∃ text, Rendering.value canonical v = .ok text := by
  induction h with
  | null => exact ⟨_, rfl⟩
  | bool b => exact ⟨_, rfl⟩
  | @int n h =>
    refine ⟨(Decimal.ofInt n).toList, ?_⟩
    rw [Rendering.value, Rendering.scalar, Rendering.integer, if_neg (Nat.not_lt.2 h)]
    rfl
  | double d => exact ⟨_, rfl⟩
  | text s => exact ⟨_, rfl⟩
  | @list items _ ih =>
    obtain ⟨texts, htexts⟩ := Except.exists_mapM_eq_ok ih
    rw [← items_eq_mapM] at htexts
    refine ⟨'[' :: Rendering.joined canonical.itemSeparator texts ++ [']'], ?_⟩
    rw [Rendering.value, htexts]
    · rfl
    · decide
  | @mapping fields _ _ ih =>
    have htext : ∀ f ∈ fields.mergeSort Json.fieldLe, ∃ t, Json.fieldText f = .ok t := by
      intro f hf
      obtain ⟨t, ht⟩ := ih f ((List.mergeSort_perm fields Json.fieldLe).mem_iff.1 hf)
      exact ⟨_, by rw [Json.fieldText, ht]; rfl⟩
    obtain ⟨texts, htexts⟩ := Except.exists_mapM_eq_ok htext
    exact ⟨_, by rw [Json.value_mapping, htexts]; rfl⟩

/-- A value that JSON can hold has a canonical text. -/
theorem IsJson.exists_canonicalText {v : Value} (h : v.IsJson) : ∃ text, v.canonicalText = .ok text := by
  obtain ⟨cs, hcs⟩ := h.exists_value
  exact ⟨String.ofList cs, by rw [canonicalText, hcs]; rfl⟩

/-- Values that JSON can hold have one canonical text exactly when they are the same up to the order of keys. -/
theorem canonicalText_eq_iff {v w : Value} (hv : v.IsJson) (hw : w.IsJson) :
    v.canonicalText = w.canonicalText ↔ Reordered v w := by
  rw [reordered_iff_sorted_eq hv hw]
  constructor
  · intro h
    obtain ⟨text, ht⟩ := hv.exists_canonicalText
    exact sorted_eq_of_canonicalText_eq hv.isPlain hw.isPlain ht (h ▸ ht)
  · intro h
    rw [canonicalText, canonicalText, ← value_sorted hv.isPlain, ← value_sorted hw.isPlain, h]

end Value

end RegulatoryTrees
