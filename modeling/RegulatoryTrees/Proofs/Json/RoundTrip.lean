import RegulatoryTrees.Proofs.Json.Numbers
import RegulatoryTrees.Proofs.Json.Strings
import RegulatoryTrees.Proofs.Outcome
import RegulatoryTrees.Proofs.Value.KeyOrder

/-!
# The canonical text is read back

What is written for hashing is read as the value it was written for, with the keys of all mappings in order
(`parseChars_canonicalText`). So two plain values with one canonical text are the same up to the order of keys
(`sorted_eq_of_canonicalText_eq`).
-/

namespace RegulatoryTrees

open Rendering (canonical joined)

namespace Json

/-! ## How values begin -/

/-- What is read as a value begins with no blank and with nothing that stands after values. -/
theorem head_of_value {limit : Option Nat} {fuel : Nat} {cs : List Char} {found : Value × List Char}
    (h : value limit fuel cs = .ok found) :
    ∃ c rest, cs = c :: rest ∧ isSpace c = false ∧ ¬(c = ',' ∨ c = ']' ∨ c = '}') := by
  cases fuel with
  | zero => exact nomatch h
  | succ fuel =>
    cases cs with
    | nil => exact nomatch h
    | cons c rest =>
      refine ⟨c, rest, rfl, ?_, ?_⟩
      · cases hs : isSpace c with
        | false => rfl
        | true =>
          simp only [isSpace, Bool.or_eq_true, beq_iff_eq] at hs
          rcases hs with ((rfl | rfl) | rfl) | rfl <;> exact nomatch h
      · rintro (rfl | rfl | rfl) <;> exact nomatch h

/-- A word or number that is read is read as a value. -/
theorem value_of_atom {limit : Option Nat} {cs : List Char} {found : Value × List Char} (h : atom limit cs = .ok found)
    (fuel : Nat) : value limit (fuel + 1) cs = .ok found := by
  rw [value]
  · exact h
  all_goals
    rintro rest rfl
    exact nomatch h

/-- There is nothing to skip before a character that is no blank. -/
theorem skipSpace_cons {c : Char} (rest : List Char) (h : isSpace c = false) : skipSpace (c :: rest) = c :: rest :=
  List.dropWhile_cons_of_neg (by simp [h])

/-! ## Values -/

/-- The canonical text of a value is read as the value, sorted, if nothing after it could belong to it. -/
def Reads (v : Value) : Prop :=
  ∀ text, Rendering.value canonical v = .ok text → ∀ fuel rest, text.length < fuel → Parts rest →
    value none fuel (text ++ rest) = .ok (v.sorted, rest)

namespace Reads

/-- The text of a value that is read begins with no blank and no bracket that closes. -/
theorem head {v : Value} (h : Reads v) {text : List Char} (ht : Rendering.value canonical v = .ok text) (rest : List Char) :
    ∃ c cs, text ++ rest = c :: cs ∧ isSpace c = false ∧ ¬(c = ',' ∨ c = ']' ∨ c = '}') := by
  obtain ⟨c, cs, heq, hs, hc⟩ := head_of_value (h text ht (text.length + 1) [] (Nat.lt_succ_self _) parts_nil)
  rw [List.append_nil] at heq
  exact ⟨c, cs ++ rest, by rw [heq]; rfl, hs, hc⟩

/-- There is no blank to skip before a value. -/
theorem skipSpace {v : Value} (h : Reads v) {text : List Char} (ht : Rendering.value canonical v = .ok text)
    (rest : List Char) : Json.skipSpace (text ++ rest) = text ++ rest := by
  obtain ⟨c, cs, heq, hs, -⟩ := h.head ht rest
  rw [heq, skipSpace_cons cs hs]

end Reads

/-- A scalar is read back from its canonical text. -/
theorem reads_scalar (s : Scalar) : Reads (.scalar s) := by
  intro text ht fuel rest hfuel hr
  obtain ⟨fuel, rfl⟩ := Nat.exists_eq_add_of_lt hfuel
  rw [Rendering.value] at ht
  cases s with
  | null =>
    obtain rfl := Except.ok.inj ht
    exact value_of_atom rfl _
  | bool b =>
    obtain rfl := Except.ok.inj ht
    cases b <;> exact value_of_atom rfl _
  | int n =>
    rw [Rendering.scalar, Except.map_eq_ok] at ht
    obtain ⟨t, hn, rfl⟩ := ht
    rw [Rendering.integer] at hn
    split at hn
    · cases hn
    · obtain rfl := Except.ok.inj hn
      exact value_of_atom (atom_of_number (number_ofInt n hr)) _
  | double d =>
    obtain rfl := Except.ok.inj ht
    exact value_of_atom (atom_double d hr) _
  | text s =>
    obtain rfl := Except.ok.inj ht
    have htext : Rendering.quote s ++ rest = '"' :: (s.toList.flatMap Rendering.escapeChar ++ '"' :: rest) := by
      simp [Rendering.quote]
    rw [htext, value, stringBody_quote]
    rfl
  | bytes | date | moment => simp [Rendering.scalar, Rendering.other, canonical] at ht

/-! ## Sequences -/

/-- The texts of items are written one after the other. -/
theorem items_cons_eq_ok {x : Value} {xs : List Value} {texts : List (List Char)}
    (h : Rendering.items canonical (x :: xs) = .ok texts) :
    ∃ t ts, Rendering.value canonical x = .ok t ∧ Rendering.items canonical xs = .ok ts ∧ texts = t :: ts := by
  rw [Rendering.items, Except.bind_eq_ok] at h
  obtain ⟨t, ht, h⟩ := h
  obtain ⟨ts, hts, h⟩ := Except.bind_eq_ok.1 h
  exact ⟨t, ts, ht, hts, (Except.ok.inj h).symm⟩

/-- The first of several texts is joined to the others by the separator. -/
theorem joined_cons (separator t t' : List Char) (ts : List (List Char)) :
    joined separator (t :: t' :: ts) = t ++ separator ++ joined separator (t' :: ts) := rfl

/-- Joined texts begin with the first of them. -/
theorem joined_head (separator t : List Char) (ts : List (List Char)) : ∃ more, joined separator (t :: ts) = t ++ more := by
  cases ts with
  | nil => exact ⟨[], (List.append_nil t).symm⟩
  | cons t' ts => exact ⟨separator ++ joined separator (t' :: ts), List.append_assoc t separator _⟩

/-- The items of a sequence are read up to the bracket. -/
theorem items_joined {x : Value} {xs : List Value} (hx : ∀ y ∈ x :: xs, Reads y) {texts : List (List Char)}
    (h : Rendering.items canonical (x :: xs) = .ok texts) {fuel : Nat} (hfuel : (joined [','] texts).length + 1 < fuel)
    (rest : List Char) :
    items none fuel (joined [','] texts ++ ']' :: rest) = .ok ((x :: xs).map Value.sorted, rest) := by
  induction xs generalizing x texts fuel with
  | nil =>
    obtain ⟨t, ts, ht, hts, rfl⟩ := items_cons_eq_ok h
    obtain rfl := Except.ok.inj hts
    rw [joined] at hfuel ⊢
    obtain ⟨k, rfl⟩ : ∃ k, fuel = k + 1 := ⟨fuel - 1, by omega⟩
    have hread := hx x List.mem_cons_self t ht k (']' :: rest) (by omega) (parts_cons rest (by simp))
    rw [items, hread]
    rfl
  | cons y ys ih =>
    obtain ⟨t, ts, ht, hts, rfl⟩ := items_cons_eq_ok h
    obtain ⟨t', ts', ht', -, rfl⟩ := items_cons_eq_ok hts
    rw [joined_cons] at hfuel ⊢
    simp only [List.length_append, List.length_singleton] at hfuel
    obtain ⟨k, rfl⟩ : ∃ k, fuel = k + 1 := ⟨fuel - 1, by omega⟩
    have hys : ∀ z ∈ y :: ys, Reads z := fun z hz => hx z (List.mem_cons_of_mem x hz)
    have hread := hx x List.mem_cons_self t ht k (',' :: (joined [','] (t' :: ts') ++ ']' :: rest)) (by omega)
      (parts_cons _ (by simp))
    have hblank : skipSpace (joined [','] (t' :: ts') ++ ']' :: rest) = joined [','] (t' :: ts') ++ ']' :: rest := by
      obtain ⟨more, hmore⟩ := joined_head [','] t' ts'
      rw [hmore, List.append_assoc]
      exact (hys y List.mem_cons_self).skipSpace ht' _
    have hrest := ih hys hts (by omega : (joined [','] (t' :: ts')).length + 1 < k)
    rw [List.append_assoc, List.append_assoc, List.singleton_append, items, hread, Except.ok_bind]
    simp only [skipSpace_cons (c := ',') _ rfl, hblank, hrest, Except.ok_bind]
    rfl

/-- A sequence is read item by item. -/
theorem reads_sequence {kind : SequenceKind} {xs : List Value} (hk : kind ≠ .tuple) (hx : ∀ x ∈ xs, Reads x) :
    Reads (.sequence kind xs) := by
  intro text ht fuel rest hfuel hr
  obtain ⟨k, rfl⟩ : ∃ k, fuel = k + 1 := ⟨fuel - 1, by omega⟩
  cases kind with
  | tuple => exact absurd rfl hk
  | set => simp [Rendering.value, Rendering.other, canonical] at ht
  | list =>
    rw [Rendering.value, Except.bind_eq_ok] at ht
    · obtain ⟨texts, hts, ht⟩ := ht
      obtain rfl := Except.ok.inj ht
      rw [Value.sorted_sequence]
      cases xs with
      | nil =>
        obtain rfl := Except.ok.inj hts
        rfl
      | cons x xs =>
        have hseparator : canonical.itemSeparator = [','] := rfl
        rw [hseparator] at hfuel ⊢
        simp only [List.length_append, List.length_cons, List.length_nil] at hfuel
        have hread := items_joined hx hts (by omega : (joined [','] texts).length + 1 < k) rest
        obtain ⟨t, ts, hfirst, -, rfl⟩ := items_cons_eq_ok hts
        obtain ⟨more, hmore⟩ := joined_head [','] t ts
        obtain ⟨c, cs, hc, hs, hclose⟩ := (hx x List.mem_cons_self).head hfirst (more ++ ']' :: rest)
        rw [hmore, List.append_assoc, hc] at hread
        rw [hmore, List.cons_append, List.cons_append, List.append_assoc, List.append_assoc, List.singleton_append, hc, value,
          skipSpace_cons cs hs]
        split
        · next heq => exact absurd (Or.inr (Or.inl (List.cons.inj heq).1)) hclose
        · rw [hread]
          rfl
    · decide

/-! ## Mappings -/

/-- The canonical text of a field: its key between quotes, a colon and its value. -/
def fieldText (f : String × Value) : Except Rendering.Failure (List Char) :=
  (fun text => Rendering.quote f.1 ++ ':' :: text) <$> Rendering.value canonical f.2

/-- The key of the first field comes no later than that of the second. -/
def fieldLe (f g : String × Value) : Bool := decide (f.1 ≤ g.1)

/-- Mappings with text keys are written field by field. -/
theorem entries_fields (fields : List (String × Value)) :
    Rendering.entries canonical (fields.map Value.entryOf) = fields.map fun f => (f.1, fieldText f) := by
  induction fields with
  | nil => rfl
  | cons f rest ih =>
    rw [List.map_cons, Value.entryOf, Rendering.entries, ih, List.map_cons, fieldText]
    congr 2
    cases Rendering.value canonical f.2 with
    | error e => rfl
    | ok text => simp [Rendering.key, canonical]

/-- The fields of a mapping are written in the order of their keys. -/
theorem value_mapping (fields : List (String × Value)) :
    Rendering.value canonical (.mapping (fields.map Value.entryOf)) =
      (fields.mergeSort fieldLe).mapM fieldText >>= fun texts => .ok ('\x7b' :: joined [','] texts ++ ['\x7d']) := by
  have hsort : (fields.map fun f => (f.1, fieldText f)).mergeSort (fun a b => decide (a.1 ≤ b.1)) =
      (fields.mergeSort fieldLe).map fun f => (f.1, fieldText f) := by
    rw [List.map_mergeSort]
    exact fun _ _ _ _ => rfl
  have harranged : Rendering.arranged canonical (Rendering.entries canonical (fields.map Value.entryOf)) =
      (fields.mergeSort fieldLe).map fun f => (f.1, fieldText f) := by
    rw [entries_fields, ← hsort]
    rfl
  rw [Rendering.value, harranged, List.mapM_map]
  rfl

/-- Sorting fields is to order them by their keys and to sort their values. -/
theorem sortedFields_eq (fields : List (String × Value)) :
    Value.sortedFields fields = (fields.mergeSort fieldLe).map fun f => (f.1, f.2.sorted) := by
  rw [Value.sortedFields, List.map_mergeSort]
  exact fun _ _ _ _ => rfl

/-- The texts of fields are written one after the other. -/
theorem mapM_cons_eq_ok {f : String × Value} {fs : List (String × Value)} {texts : List (List Char)}
    (h : (f :: fs).mapM fieldText = .ok texts) :
    ∃ t ts, Rendering.value canonical f.2 = .ok t ∧ fs.mapM fieldText = .ok ts ∧
      texts = (Rendering.quote f.1 ++ ':' :: t) :: ts := by
  rw [List.mapM_cons, Except.bind_eq_ok] at h
  obtain ⟨written, hw, h⟩ := h
  obtain ⟨ts, hts, h⟩ := Except.bind_eq_ok.1 h
  obtain ⟨t, ht, rfl⟩ := Except.map_eq_ok.1 hw
  exact ⟨t, ts, ht, hts, (Except.ok.inj h).symm⟩

/-- The fields of a mapping are read up to the brace. What comes after a comma begins with a quote, so there is no blank to
skip. -/
theorem entries_joined {f : String × Value} {fs : List (String × Value)} (hx : ∀ g ∈ f :: fs, Reads g.2)
    {texts : List (List Char)} (h : (f :: fs).mapM fieldText = .ok texts) {fuel : Nat}
    (hfuel : (joined [','] texts).length + 1 < fuel) (rest : List Char) :
    entries none fuel (joined [','] texts ++ '\x7d' :: rest) =
      .ok (((f :: fs).map fun g => (g.1, g.2.sorted)).map Value.entryOf, rest) := by
  induction fs generalizing f texts fuel with
  | nil =>
    obtain ⟨t, ts, ht, hts, rfl⟩ := mapM_cons_eq_ok h
    rw [List.mapM_nil] at hts
    obtain rfl := Except.ok.inj hts
    rw [joined] at hfuel ⊢
    simp only [Rendering.quote, List.length_append, List.length_cons, List.length_nil] at hfuel
    obtain ⟨k, rfl⟩ : ∃ k, fuel = k + 1 := ⟨fuel - 1, by omega⟩
    have hf := hx f List.mem_cons_self
    have hread := hf t ht k ('\x7d' :: rest) (by omega) (parts_cons rest (by simp))
    have htext : Rendering.quote f.1 ++ ':' :: t ++ '\x7d' :: rest =
        '"' :: (f.1.toList.flatMap Rendering.escapeChar ++ '"' :: ':' :: (t ++ '\x7d' :: rest)) := by
      simp [Rendering.quote]
    rw [htext, entries, stringBody_quote, Except.ok_bind]
    simp only [skipSpace_cons (c := ':') _ rfl, hf.skipSpace ht, hread, Except.ok_bind]
    rfl
  | cons g gs ih =>
    obtain ⟨t, ts, ht, hts, rfl⟩ := mapM_cons_eq_ok h
    obtain ⟨t', ts', -, -, rfl⟩ := mapM_cons_eq_ok hts
    rw [joined_cons] at hfuel ⊢
    simp only [List.length_append, List.length_cons, List.length_nil] at hfuel
    obtain ⟨k, rfl⟩ : ∃ k, fuel = k + 1 := ⟨fuel - 1, by omega⟩
    have hf := hx f List.mem_cons_self
    have hrest := ih (fun h hm => hx h (List.mem_cons_of_mem f hm)) hts
      (by omega : (joined [','] ((Rendering.quote g.1 ++ ':' :: t') :: ts')).length + 1 < k)
    obtain ⟨more, hmore⟩ := joined_head [','] (Rendering.quote g.1 ++ ':' :: t') ts'
    obtain ⟨tail, htail⟩ : ∃ tail, joined [','] ((Rendering.quote g.1 ++ ':' :: t') :: ts') ++ '\x7d' :: rest = tail := ⟨_, rfl⟩
    have hblank : skipSpace tail = tail := by
      rw [← htail, hmore]
      exact skipSpace_cons _ rfl
    have hread := hf t ht k (',' :: tail) (by omega) (parts_cons _ (by simp))
    have htext :
        Rendering.quote f.1 ++ ':' :: t ++ [','] ++ joined [','] ((Rendering.quote g.1 ++ ':' :: t') :: ts') ++ '\x7d' :: rest =
        '"' :: (f.1.toList.flatMap Rendering.escapeChar ++ '"' :: ':' :: (t ++ ',' :: tail)) := by
      simp [Rendering.quote, ← htail]
    rw [htail] at hrest
    rw [htext, entries, stringBody_quote, Except.ok_bind]
    simp only [skipSpace_cons (c := ':') _ rfl, hf.skipSpace ht, hread, Except.ok_bind, skipSpace_cons (c := ',') _ rfl, hblank,
      hrest]
    rfl

/-- A mapping is read field by field, in the order of the keys. -/
theorem reads_mapping {fields : List (String × Value)} (hk : (fields.map Prod.fst).Nodup) (hx : ∀ f ∈ fields, Reads f.2) :
    Reads (.mapping (fields.map Value.entryOf)) := by
  intro text ht fuel rest hfuel hr
  obtain ⟨k, rfl⟩ : ∃ k, fuel = k + 1 := ⟨fuel - 1, by omega⟩
  rw [value_mapping, Except.bind_eq_ok] at ht
  obtain ⟨texts, hts, ht⟩ := ht
  obtain rfl := Except.ok.inj ht
  have hperm := List.mergeSort_perm fields fieldLe
  have hk' : (((fields.mergeSort fieldLe).map fun f => (f.1, f.2.sorted)).map Prod.fst).Nodup := by
    rw [← sortedFields_eq]
    exact Value.nodup_sortedFields hk
  have hx' : ∀ f ∈ fields.mergeSort fieldLe, Reads f.2 := fun f hf => hx f (hperm.mem_iff.1 hf)
  rw [Value.sorted_mapping, sortedFields_eq]
  cases hs : fields.mergeSort fieldLe with
  | nil =>
    rw [hs, List.mapM_nil] at hts
    obtain rfl := Except.ok.inj hts
    rfl
  | cons f fs =>
    rw [hs] at hts hk' hx'
    simp only [List.length_append, List.length_cons, List.length_nil] at hfuel
    have hread := entries_joined hx' hts (by omega : (joined [','] texts).length + 1 < k) rest
    obtain ⟨t, ts, -, -, rfl⟩ := mapM_cons_eq_ok hts
    obtain ⟨more, hmore⟩ := joined_head [','] (Rendering.quote f.1 ++ ':' :: t) ts
    obtain ⟨cs, hcs⟩ : ∃ cs, joined [','] ((Rendering.quote f.1 ++ ':' :: t) :: ts) ++ '\x7d' :: rest = '"' :: cs := by
      rw [hmore]
      exact ⟨_, rfl⟩
    rw [hcs] at hread
    rw [List.cons_append, List.cons_append, List.append_assoc, List.singleton_append, hcs, value, skipSpace_cons cs rfl]
    split
    · next heq => exact nomatch heq
    · rw [hread, Except.ok_bind]
      dsimp only
      rw [Value.ofEntries_fields hk']

/-- The canonical text of every plain value is read. -/
theorem reads_of_isPlain {v : Value} (h : v.IsPlain) : Reads v := by
  induction h with
  | scalar s => exact reads_scalar s
  | missing => exact fun text ht => nomatch ht
  | sequence hk _ ih => exact reads_sequence hk ih
  | mapping hk _ ih => exact reads_mapping hk ih
  | recurrence shape levels => exact fun text ht => nomatch ht

/-- The canonical text of a plain value is the text of the value, sorted. -/
theorem parseChars_canonicalText {v : Value} (h : v.IsPlain) {text : String} (ht : v.canonicalText = .ok text) :
    parseChars none text.toList = .ok v.sorted := by
  rw [Value.canonicalText, Except.map_eq_ok] at ht
  obtain ⟨cs, hcs, rfl⟩ := ht
  have hreads := reads_of_isPlain h
  have hread := hreads cs hcs (cs.length + 1) [] (Nat.lt_succ_self _) parts_nil
  have hblank := hreads.skipSpace hcs []
  rw [List.append_nil] at hread hblank
  rw [String.toList_ofList, parseChars, hblank, hread]
  rfl

end Json

namespace Value

/-- Plain values with one canonical text are the same up to the order of keys. -/
theorem sorted_eq_of_canonicalText_eq {v w : Value} (hv : v.IsPlain) (hw : w.IsPlain) {text : String}
    (h : v.canonicalText = .ok text) (h' : w.canonicalText = .ok text) : v.sorted = w.sorted :=
  Except.ok.inj ((Json.parseChars_canonicalText hv h).symm.trans (Json.parseChars_canonicalText hw h'))

end Value

end RegulatoryTrees
