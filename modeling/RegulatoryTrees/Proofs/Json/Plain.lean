import RegulatoryTrees.Json
import RegulatoryTrees.Proofs.Outcome
import RegulatoryTrees.Proofs.Value.KeyOrder

/-!
# What is read from JSON is plain

The keys of an object are texts, and of several entries with one key only the last one counts. So every value that is read from a
text is plain (`isPlain_of_parseChars`).
-/

namespace RegulatoryTrees

namespace Value

/-- An entry with a text key that is put into fields gives fields: a key that is there keeps its place, a new one comes last. -/
theorem insertKey_fields (key : String) (v : Value) (fields : List (String × Value)) :
    ∃ fields' : List (String × Value), insertKey (.text key) v (fields.map entryOf) = fields'.map entryOf ∧
      fields'.map Prod.fst = (if key ∈ fields.map Prod.fst then fields.map Prod.fst else fields.map Prod.fst ++ [key]) ∧
      ∀ f ∈ fields', f.2 = v ∨ f ∈ fields := by
  induction fields with
  | nil => exact ⟨[(key, v)], rfl, rfl, fun f hf => Or.inl (by rw [List.mem_singleton.1 hf])⟩
  | cons f rest ih =>
    rw [List.map_cons, entryOf, insertKey, sameKey_text]
    by_cases hk : f.1 = key
    · subst hk
      rw [if_pos (beq_self_eq_true _), if_pos (List.mem_map_of_mem List.mem_cons_self)]
      refine ⟨(f.1, v) :: rest, rfl, rfl, fun g hg => ?_⟩
      rcases List.mem_cons.1 hg with rfl | hg
      · exact Or.inl rfl
      · exact Or.inr (List.mem_cons_of_mem f hg)
    · obtain ⟨fields', heq, hkeys, hmem⟩ := ih
      have hne : (Scalar.text f.1 == Scalar.text key) = false := by simpa using hk
      have hiff : key ∈ (f :: rest).map Prod.fst ↔ key ∈ rest.map Prod.fst := by
        rw [List.map_cons, List.mem_cons]
        exact or_iff_right fun h => hk h.symm
      simp only [hne, Bool.false_eq_true, if_false, hiff]
      refine ⟨f :: fields', by rw [heq]; rfl, ?_, fun g hg => ?_⟩
      · rw [List.map_cons, hkeys]
        split <;> rfl
      · rcases List.mem_cons.1 hg with rfl | hg
        · exact Or.inr List.mem_cons_self
        · exact (hmem g hg).imp_right (List.mem_cons_of_mem f)

/-- A mapping is plain when it is made of fields with different keys and plain values. -/
theorem isPlain_mapping {entries : List (Scalar × Value)} :
    IsPlain (.mapping entries) ↔
      ∃ fields : List (String × Value), entries = fields.map entryOf ∧ (fields.map Prod.fst).Nodup ∧
        ∀ f ∈ fields, f.2.IsPlain := by
  constructor
  · intro h
    cases h with
    | @mapping fields hk hplain => exact ⟨fields, rfl, hk, hplain⟩
  · rintro ⟨fields, rfl, hk, hplain⟩
    exact .mapping hk hplain

theorem isPlain_empty : IsPlain (.mapping []) := isPlain_mapping.2 ⟨[], rfl, List.nodup_nil, nofun⟩

/-- A plain value put under a text key of a plain mapping keeps the mapping plain. -/
theorem IsPlain.insertKey {entries : List (Scalar × Value)} (h : IsPlain (.mapping entries)) (key : String) {v : Value}
    (hv : v.IsPlain) : IsPlain (.mapping (insertKey (.text key) v entries)) := by
  obtain ⟨fields, rfl, hk, hplain⟩ := isPlain_mapping.1 h
  obtain ⟨fields', heq, hkeys, hmem⟩ := insertKey_fields key v fields
  rw [heq]
  refine .mapping ?_ fun f hf => ?_
  · rw [hkeys]
    split
    · exact hk
    · next hnew =>
      refine List.nodup_append.2 ⟨hk, by simp, fun a ha b hb => ?_⟩
      rw [List.mem_singleton.1 hb]
      exact fun heq => hnew (heq ▸ ha)
  · rcases hmem f hf with rfl | hf
    · exact hv
    · exact hplain f hf

/-- A mapping of plain values under text keys, of which a later one replaces an earlier one with the same key, is plain. -/
theorem isPlain_ofEntries {entries : List (Scalar × Value)} (h : ∀ e ∈ entries, ∃ key, e.1 = .text key ∧ e.2.IsPlain) :
    IsPlain (.mapping (ofEntries entries)) := by
  have hfold : ∀ (rest done : List (Scalar × Value)), (∀ e ∈ rest, ∃ key, e.1 = .text key ∧ e.2.IsPlain) →
      IsPlain (.mapping done) → IsPlain (.mapping (rest.foldl (fun done e => Value.insertKey e.1 e.2 done) done)) := by
    intro rest
    induction rest with
    | nil => exact fun _ _ hd => hd
    | cons e rest ih =>
      intro done he hd
      obtain ⟨key, hkey, hv⟩ := he e List.mem_cons_self
      rw [List.foldl_cons, hkey]
      exact ih _ (fun g hg => he g (List.mem_cons_of_mem e hg)) (hd.insertKey key hv)
  exact hfold entries [] h isPlain_empty

/-- What is under a key of a plain mapping is plain. -/
theorem IsPlain.lookup {entries : List (Scalar × Value)} (h : IsPlain (.mapping entries)) {key : String} {v : Value}
    (hl : lookup entries key = some v) : v.IsPlain := by
  obtain ⟨fields, rfl, hk, hplain⟩ := isPlain_mapping.1 h
  exact hplain (key, v) ((lookup_eq_some_iff hk).1 hl)

end Value

namespace Json

/-- A word or a number is a scalar. -/
theorem isPlain_of_atom {limit : Option Nat} {cs rest : List Char} {v : Value} (h : atom limit cs = .ok (v, rest)) :
    v.IsPlain := by
  rw [atom] at h
  split at h
  · next found hfound =>
    obtain ⟨⟨word, w⟩, hmem, hword⟩ := List.exists_of_findSome?_eq_some hfound
    obtain ⟨rest', -, rfl⟩ := Option.map_eq_some_iff.1 hword
    obtain rfl : w = v := congrArg Prod.fst (Except.ok.inj h)
    have hscalar : ∀ entry ∈ words, entry.2.IsPlain := by
      simp only [words, List.forall_mem_cons]
      exact ⟨.scalar _, .scalar _, .scalar _, .scalar _, .scalar _, .scalar _, nofun⟩
    exact hscalar (word, w) hmem
  · unfold number at h
    split at h
    split at h
    · exact nomatch h
    · dsimp only at h
      split at h
      · split at h
        · exact nomatch h
        · obtain rfl := congrArg Prod.fst (Except.ok.inj h)
          exact .scalar _
      · obtain rfl := congrArg Prod.fst (Except.ok.inj h)
        exact .scalar _

/-- What the reader yields with some fuel is plain: values, the items of arrays and the entries of objects. -/
structure YieldsPlain (limit : Option Nat) (fuel : Nat) : Prop where
  value : ∀ {cs rest : List Char} {v : Value}, value limit fuel cs = .ok (v, rest) → v.IsPlain
  items : ∀ {cs rest : List Char} {xs : List Value}, items limit fuel cs = .ok (xs, rest) → ∀ x ∈ xs, x.IsPlain
  entries : ∀ {cs rest : List Char} {es : List (Scalar × Value)}, entries limit fuel cs = .ok (es, rest) →
    ∀ e ∈ es, ∃ key, e.1 = .text key ∧ e.2.IsPlain

namespace YieldsPlain

variable {limit : Option Nat} {fuel : Nat} {cs rest : List Char}

/-- A value that is read is plain if all values nested in it are. -/
theorem value_succ (ih : YieldsPlain limit fuel) {v : Value} (h : Json.value limit (fuel + 1) cs = .ok (v, rest)) :
    v.IsPlain := by
  unfold Json.value at h
  split at h
  · obtain ⟨_, _, h⟩ := Except.bind_eq_ok.1 h
    obtain rfl := congrArg Prod.fst (Except.ok.inj h)
    exact .scalar _
  · split at h
    · obtain rfl := congrArg Prod.fst (Except.ok.inj h)
      exact .sequence nofun nofun
    · obtain ⟨found, hitems, h⟩ := Except.bind_eq_ok.1 h
      obtain rfl := congrArg Prod.fst (Except.ok.inj h)
      exact .sequence nofun (ih.items hitems)
  · split at h
    · obtain rfl := congrArg Prod.fst (Except.ok.inj h)
      exact Value.isPlain_empty
    · obtain ⟨found, hentries, h⟩ := Except.bind_eq_ok.1 h
      obtain rfl := congrArg Prod.fst (Except.ok.inj h)
      exact Value.isPlain_ofEntries (ih.entries hentries)
  · exact isPlain_of_atom h

/-- The items of a list that is read are plain if all values nested in them are. -/
theorem items_succ (ih : YieldsPlain limit fuel) {xs : List Value} (h : Json.items limit (fuel + 1) cs = .ok (xs, rest)) :
    ∀ x ∈ xs, x.IsPlain := by
  unfold Json.items at h
  obtain ⟨⟨x, after⟩, hx, h⟩ := Except.bind_eq_ok.1 h
  dsimp only at h
  split at h
  · obtain rfl := congrArg Prod.fst (Except.ok.inj h)
    exact fun y hy => List.mem_singleton.1 hy ▸ ih.value hx
  · obtain ⟨more, hmore, h⟩ := Except.bind_eq_ok.1 h
    obtain rfl := congrArg Prod.fst (Except.ok.inj h)
    exact List.forall_mem_cons.2 ⟨ih.value hx, ih.items hmore⟩
  · exact nomatch h

/-- The fields of a mapping that is read have text keys, and their values are plain if all values nested in them are. -/
theorem entries_succ (ih : YieldsPlain limit fuel) {es : List (Scalar × Value)}
    (h : Json.entries limit (fuel + 1) cs = .ok (es, rest)) : ∀ e ∈ es, ∃ key, e.1 = .text key ∧ e.2.IsPlain := by
  unfold Json.entries at h
  split at h
  · obtain ⟨⟨key, after⟩, -, h⟩ := Except.bind_eq_ok.1 h
    dsimp only at h
    split at h
    · obtain ⟨⟨x, after'⟩, hx, h⟩ := Except.bind_eq_ok.1 h
      dsimp only at h
      split at h
      · obtain rfl := congrArg Prod.fst (Except.ok.inj h)
        exact fun e he => List.mem_singleton.1 he ▸ ⟨key, rfl, ih.value hx⟩
      · obtain ⟨more, hmore, h⟩ := Except.bind_eq_ok.1 h
        obtain rfl := congrArg Prod.fst (Except.ok.inj h)
        exact List.forall_mem_cons.2 ⟨⟨key, rfl, ih.value hx⟩, ih.entries hmore⟩
      · exact nomatch h
    · exact nomatch h
  · exact nomatch h

end YieldsPlain

/-- Reading a text yields plain values only, however deep they are nested. -/
theorem yieldsPlain (limit : Option Nat) (fuel : Nat) : YieldsPlain limit fuel := by
  induction fuel with
  | zero =>
    refine ⟨fun h => ?_, fun h => ?_, fun h => ?_⟩
    · rw [value] at h
      exact nomatch h
    · rw [items] at h
      exact nomatch h
    · rw [entries] at h
      exact nomatch h
  | succ fuel ih => exact ⟨ih.value_succ, ih.items_succ, ih.entries_succ⟩

/-- A value that is read from a text is plain. -/
theorem isPlain_of_parseChars {limit : Option Nat} {cs : List Char} {v : Value} (h : parseChars limit cs = .ok v) :
    v.IsPlain := by
  unfold parseChars at h
  obtain ⟨⟨w, rest⟩, hw, h⟩ := Except.bind_eq_ok.1 h
  dsimp only at h
  split at h
  · obtain rfl := Except.ok.inj h
    exact (yieldsPlain limit _).value hw
  · exact nomatch h

end Json

end RegulatoryTrees
