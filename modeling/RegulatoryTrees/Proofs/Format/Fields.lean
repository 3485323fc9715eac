import RegulatoryTrees.Format.Reading
import RegulatoryTrees.Format.Writing
import RegulatoryTrees.Proofs.Outcome
import RegulatoryTrees.Proofs.Value.KeyOrder

/-!
# Fields that are written and read

Records are written with one name for each field and read with one or two. A field that is written under exactly one of its
names is read back as it is, in either spelling, and also where fields that are null are left out (`HasFields`).
-/

namespace RegulatoryTrees

/-- Among text keys, a value is looked up as in a list of pairs. -/
theorem Value.lookup_entries (fields : List (String × Value)) (name : String) :
    Value.lookup (fields.map Value.entryOf) name = fields.lookup name := by
  induction fields with
  | nil => rfl
  | cons f rest ih =>
    rw [Value.lookup] at ih ⊢
    rw [List.map_cons, List.find?_cons, List.lookup_cons]
    by_cases h : f.1 = name
    · simp [Value.entryOf, h]
    · have hkey : ((Value.entryOf f).1 == Scalar.text name) = false := by simp [Value.entryOf, h]
      have hname : (name == f.1) = false := by simpa using Ne.symm h
      rw [hkey, hname, ih]

/-- A mapping is never null. -/
theorem Value.record_ne_null (fields : List (String × Value)) : Value.record fields ≠ .null := by
  simp [Value.record]

/-- A name that is not there is not found. -/
theorem lookup_eq_none {fields : List (String × Value)} {name : String} (h : name ∉ fields.map Prod.fst) :
    fields.lookup name = none := by
  refine List.lookup_eq_none_iff.2 fun f hf => ?_
  have hne : name ≠ f.1 := fun heq => h (List.mem_map.2 ⟨f, hf, heq.symm⟩)
  simpa using hne

/-- Where keys are different, dropping fields for their values drops them from lookups. -/
theorem lookup_filter {p : Value → Bool} {fields : List (String × Value)} (hn : (fields.map Prod.fst).Nodup) (name : String) :
    (fields.filter fun f => p f.2).lookup name = (fields.lookup name).filter p := by
  induction fields with
  | nil => rfl
  | cons f rest ih =>
    obtain ⟨key, v⟩ := f
    rw [List.map_cons, List.nodup_cons] at hn
    rw [List.filter_cons, List.lookup_cons]
    by_cases h : name = key
    · subst h
      have hrest : rest.lookup name = none := lookup_eq_none hn.1
      cases hp : p v with
      | true => simp [Option.filter, hp]
      | false => simp [Option.filter, hp, ih hn.2, hrest]
    · have hname : (name == key) = false := by simpa using h
      rw [hname, ← ih hn.2]
      cases p v with
      | true => simp [List.lookup_cons, hname]
      | false => simp

namespace Format

variable {α : Type}

/-! ## Chains of fields -/

/-- Two readings together give a value if each of them does. -/
theorem Checked.and_eq_ok {α β : Type} {f : Checked (α → β)} {c : Checked α} {y : β} :
    Checked.and f c = .ok y ↔ ∃ g x, f = .ok g ∧ c = .ok x ∧ g x = y := by
  cases f <;> cases c <;> simp [Checked.and]

@[simp] theorem Checked.and_ok {β : Type} (f : α → β) (x : α) : Checked.and (.ok f) (.ok x) = .ok (f x) := rfl

/-- Naming the part that is read changes only where faults are reported. -/
theorem Checked.under_eq_ok {part : PathPart} {c : Checked α} {x : α} : Checked.under part c = .ok x ↔ c = .ok x :=
  Except.mapError_eq_ok

@[simp] theorem Checked.under_ok (part : PathPart) (x : α) : Checked.under part (.ok x) = .ok x := rfl

/-- A field that is found is a value under a key. -/
theorem lookup_of_find? {names : FieldNames} {entries : List (Scalar × Value)} {name : String} {v : Value}
    (h : find? names entries = some (name, v)) : Value.lookup entries name = some v := by
  obtain ⟨other, _, found⟩ := List.exists_of_findSome?_eq_some h
  obtain ⟨w, hw, heq⟩ := Option.map_eq_some_iff.1 found
  obtain ⟨rfl, rfl⟩ := Prod.mk.inj heq
  exact hw

/-! ## Written fields -/

/-- The fields of a record that are written. -/
def Style.kept (style : Style) (fields : List (String × Value)) : List (String × Value) :=
  if style.nulls then fields else fields.filter fun f => !Style.isNull f.2

/-- Entries hold a value under one of some names, or under none of them if it is null. -/
def Holds (entries : List (Scalar × Value)) (names : FieldNames) (v : Value) : Prop :=
  (∃ name, find? names entries = some (name, v)) ∨ (find? names entries = none ∧ v = .null)

/-- Entries have fields: a value that stands in these under exactly one of some names is held under the names. -/
def HasFields (entries : List (Scalar × Value)) (fields : List (String × Value)) : Prop :=
  ∀ names v, (names.filterMap fun name => fields.lookup name) = [v] → Holds entries names v

/-- The names of a field are tried one after the other. -/
theorem find?_cons (name : String) (names : FieldNames) (entries : List (Scalar × Value)) :
    find? (name :: names) entries = ((Value.lookup entries name).map (name, ·)).or (find? names entries) := by
  rw [find?, List.findSome?_cons]
  cases (Value.lookup entries name).map (name, ·) <;> rfl

/-- A written field is looked up, unless it is null and not kept. -/
theorem Style.lookup_kept {style : Style} {fields : List (String × Value)}
    (hn : style.nulls = true ∨ (fields.map Prod.fst).Nodup) (name : String) :
    Value.lookup ((style.kept fields).map Value.entryOf) name =
      (fields.lookup name).filter fun v => style.nulls || !Style.isNull v := by
  rw [Value.lookup_entries, Style.kept]
  cases hs : style.nulls with
  | true =>
    rw [if_pos rfl]
    cases fields.lookup name <;> rfl
  | false =>
    rw [hs] at hn
    simpa using lookup_filter (p := fun v => !Style.isNull v) (hn.resolve_left Bool.false_ne_true) name

theorem Style.isNull_iff {v : Value} : Style.isNull v = true ↔ v = .null := by
  unfold Style.isNull
  split
  · simp
  · next h => simpa using h

/-- The entries that are written have the fields. -/
theorem hasFields_kept (style : Style) (fields : List (String × Value))
    (hn : style.nulls = true ∨ (fields.map Prod.fst).Nodup) :
    HasFields ((style.kept fields).map Value.entryOf) fields := by
  intro names v h
  induction names with
  | nil => cases h
  | cons name names ih =>
    rw [Holds, find?_cons, Style.lookup_kept hn]
    cases hl : fields.lookup name with
    | none =>
      rw [List.filterMap_cons, hl] at h
      exact ih h
    | some w =>
      rw [List.filterMap_cons, hl, List.cons.injEq] at h
      obtain ⟨rfl, hothers⟩ := h
      cases hk : style.nulls || !Style.isNull w with
      | true => exact Or.inl ⟨name, by simp [Option.filter, hk]⟩
      | false =>
        have hnull : w = .null := Style.isNull_iff.1 (by simpa using (Bool.or_eq_false_iff.1 hk).2)
        have hnone : find? names ((style.kept fields).map Value.entryOf) = none := by
          refine List.findSome?_eq_none_iff.2 fun other hother => ?_
          rw [Style.lookup_kept hn, List.filterMap_eq_nil_iff.1 hothers other hother]
          rfl
        exact Or.inr ⟨by simp [Option.filter, hk, hnone], hnull⟩

section HasFields

variable {entries : List (Scalar × Value)} {fields : List (String × Value)} {v : Value}

/-- A field with one name is held under it. -/
theorem HasFields.one (h : HasFields entries fields) {name : String} (hv : fields.lookup name = some v) :
    Holds entries [name] v :=
  h [name] v (by rw [List.filterMap_cons, hv, List.filterMap_nil])

/-- A field with two spellings is held under them if the other one than that it is written under is not there. -/
theorem HasFields.two (h : HasFields entries fields) (style : Style) {camel snake : String}
    (hv : fields.lookup (style.key camel snake) = some v ∧ fields.lookup (style.key snake camel) = none) :
    Holds entries [camel, snake] v := by
  obtain ⟨hv, hother⟩ := hv
  refine h [camel, snake] v ?_
  unfold Style.key at hv hother
  cases hs : style.camel with
  | true =>
    simp only [hs, if_true] at hv hother
    rw [List.filterMap_cons, hv, List.filterMap_cons, hother, List.filterMap_nil]
  | false =>
    simp only [hs, Bool.false_eq_true, if_false] at hv hother
    rw [List.filterMap_cons, hother, List.filterMap_cons, hv, List.filterMap_nil]

end HasFields

/-- A record that is written is read from entries that have its fields. -/
theorem record_fields {refusal : Refusal} {name : String} {read : List (Scalar × Value) → Checked α} {style : Style}
    {fields : List (String × Value)} {x : α} (hn : style.nulls = true ∨ (fields.map Prod.fst).Nodup)
    (h : ∀ entries, HasFields entries fields → read entries = .ok x) :
    record refusal name read (style.fields fields) = .ok x :=
  h _ (hasFields_kept style fields hn)

/-! ## Reading fields -/

section Holds

variable {entries : List (Scalar × Value)} {names : FieldNames} {v whole : Value} {read : Value → Checked α} {x default : α}

/-- A required field that holds a value other than null is read as that. -/
theorem Holds.required (h : Holds entries names v) (hv : v ≠ .null) (hread : read v = .ok x) :
    Format.required names read whole entries = .ok x := by
  obtain ⟨name, hf⟩ := h.resolve_right fun hnull => hv hnull.2
  rw [Format.required, hf]
  exact Checked.under_eq_ok.2 hread

/-- A field that may be missing is read where it is held, if it is missing for its default only. -/
theorem Holds.optional (h : Holds entries names v) (hread : read v = .ok x) (hdefault : v = .null → x = default) :
    Format.optional names read default entries = .ok x := by
  rcases h with ⟨name, hf⟩ | ⟨hf, hnull⟩
  · rw [Format.optional, hf]
    exact Checked.under_eq_ok.2 hread
  · rw [Format.optional, hf, hdefault hnull]

end Holds

/-- A record is read from some entries. -/
theorem exists_of_record {refusal : Refusal} {name : String} {read : List (Scalar × Value) → Checked α} {v : Value} {x : α}
    (h : record refusal name read v = .ok x) : ∃ entries, read entries = .ok x := by
  unfold record at h
  split at h
  · exact ⟨_, h⟩
  · exact ⟨_, h⟩
  · cases h

/-- A field that must be there is read from some value. -/
theorem exists_of_required {names : FieldNames} {read : Value → Checked α} {whole : Value}
    {entries : List (Scalar × Value)} {x : α} (h : required names read whole entries = .ok x) : ∃ v, read v = .ok x := by
  unfold required at h
  split at h
  · exact ⟨_, Checked.under_eq_ok.1 h⟩
  · cases h

/-! ## Reading single values -/

/-- A value other than null is read where null could stand. -/
theorem nullable_some {read : Value → Checked α} {v : Value} {x : α} (hv : v ≠ .null) (h : read v = .ok x) :
    nullable read v = .ok (some x) := by
  unfold nullable
  split
  · exact absurd rfl hv
  · rw [h]
    rfl

/-- A value that may be missing is read as it is written. -/
theorem nullable_elim {read : Value → Checked α} {write : α → Value} {o : Option α} (hwrite : ∀ x, write x ≠ .null)
    (h : ∀ x, read (write x) = .ok x) : nullable read (o.elim .null write) = .ok o := by
  cases o with
  | none => rfl
  | some x => exact nullable_some (hwrite x) (h x)

/-- Items are read as they are written, from any position on. -/
theorem itemsFrom_map {read : Value → Checked α} {write : α → Value} (h : ∀ x, read (write x) = .ok x) (n : Nat)
    (xs : List α) : itemsFrom read n (xs.map write) = .ok xs := by
  induction xs generalizing n with
  | nil => rfl
  | cons x xs ih => rw [List.map_cons, itemsFrom, h, ih]; rfl

/-- A list is read back from what its items are written as. -/
theorem list_map {read : Value → Checked α} {write : α → Value} (h : ∀ x, read (write x) = .ok x) (xs : List α) :
    list read (.list (xs.map write)) = .ok xs :=
  itemsFrom_map h 0 xs

section Holds

variable {entries : List (Scalar × Value)} {names : FieldNames} {whole : Value}

/-- A required text is read back. -/
theorem Holds.text {s : String} (h : Holds entries names (.text s)) : Format.required names Format.text whole entries = .ok s :=
  h.required (by simp) rfl

/-- An optional text is read back, also where there is none. -/
theorem Holds.optionalText {s : Option String} (h : Holds entries names (optionalText s)) :
    Format.optional names (nullable Format.text) none entries = .ok s :=
  h.optional (nullable_elim (by simp) fun _ => rfl) (by cases s <;> simp [Format.optionalText])

/-- A list that may be left out is read back, also where it is empty. -/
theorem Holds.list {read : Value → Checked α} {write : α → Value} {xs : List α}
    (h : Holds entries names (.list (xs.map write))) (hread : ∀ x, read (write x) = .ok x) :
    Format.optional names (Format.list read) [] entries = .ok xs :=
  h.optional (list_map hread xs) (by simp)

/-- A list of texts is read back. -/
theorem Holds.texts {xs : List String} (h : Holds entries names (texts xs)) :
    Format.optional names (Format.list Format.text) [] entries = .ok xs :=
  h.list fun _ => rfl

/-- A value that may be null is read back, also where there is none. -/
theorem Holds.nullable {read : Value → Checked α} {write : α → Value} {o : Option α}
    (h : Holds entries names (o.elim .null write)) (hwrite : ∀ x, write x ≠ .null) (hread : ∀ x, read (write x) = .ok x) :
    Format.optional names (Format.nullable read) none entries = .ok o := by
  refine h.optional (nullable_elim hwrite hread) fun hnull => ?_
  cases o with
  | none => rfl
  | some x => exact absurd hnull (hwrite x)

end Holds

end Format

end RegulatoryTrees
