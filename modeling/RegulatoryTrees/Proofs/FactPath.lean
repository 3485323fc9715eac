import RegulatoryTrees.FactPath
import RegulatoryTrees.Proofs.Outcome

/-!
# Following fact paths

What one step of a path does at each kind of value, and when a path can be followed whatever the facts are: a lookup fails
on some bag of facts exactly when a segment after the first is a numeral of more digits than are read (`factAt_total_iff`).
-/

namespace RegulatoryTrees

namespace FactPath

/-- The item that a segment asks a list for, if its numeral can be read. -/
def itemAt (items : List Value) (segment : String) : Except Decimal.NumeralTooLong (Option Value) :=
  if !isIndex segment.toList then .ok none
  else if segment.toList.length > Decimal.digitLimit then .error ⟨segment.toList.length⟩
  else .ok items[Decimal.natOfDigits segment.toList]?

@[simp] theorem step_scalar (s : Scalar) (segment : String) : step (.scalar s) segment = .ok none := rfl

@[simp] theorem step_missing (segment : String) : step .missing segment = .ok none := rfl

@[simp] theorem step_recurrence (shape : Shape) (levels : Nat) (segment : String) :
    step (.recurrence shape levels) segment = .ok none := rfl

@[simp] theorem step_mapping (entries : List (Scalar × Value)) (segment : String) :
    step (.mapping entries) segment = .ok (Value.lookup entries segment) := rfl

/-- A set has no positions. -/
@[simp] theorem step_set (items : List Value) (segment : String) : step (.sequence .set items) segment = .ok none := rfl

/-- A list and a tuple are asked for an item. -/
theorem step_sequence {kind : SequenceKind} (hk : kind ≠ .set) (items : List Value) (segment : String) :
    step (.sequence kind items) segment = itemAt items segment := by
  cases kind with
  | list => rfl
  | tuple => rfl
  | set => exact absurd rfl hk

/-! ## Paths that can be followed -/

/-- Cutting a text leaves one part at least. -/
theorem splitAt_ne_nil (separator : Char) (cs : List Char) : Text.splitAt separator cs ≠ [] := by
  cases cs with
  | nil => exact List.cons_ne_nil _ _
  | cons c rest =>
    rw [Text.splitAt]
    split
    · exact List.cons_ne_nil _ _
    · split <;> exact List.cons_ne_nil _ _

/-- A path has a first segment. -/
theorem exists_segments_eq_cons (path : String) : ∃ first rest, segments path = first :: rest := by
  obtain ⟨part, parts, h⟩ := List.exists_cons_of_ne_nil (splitAt_ne_nil '.' path.toList)
  exact ⟨String.ofList part, parts.map String.ofList, by rw [segments, h, List.map_cons]⟩

/-- A segment is a numeral of more digits than are read. -/
def isTooLong (segment : String) : Bool := isIndex segment.toList && decide (Decimal.digitLimit < segment.toList.length)

/-- An index that is not too long finds an item or nothing. -/
theorem itemAt_of_not_isTooLong {segment : String} (h : isTooLong segment = false) (items : List Value) :
    ∃ found, itemAt items segment = .ok found := by
  rw [itemAt]
  cases hindex : isIndex segment.toList with
  | false => exact ⟨none, rfl⟩
  | true =>
    have hlength : ¬segment.toList.length > Decimal.digitLimit := by simpa [isTooLong, hindex] using h
    exact ⟨_, by rw [if_neg hlength]; rfl⟩

/-- An index with too many digits cannot be read. -/
theorem itemAt_of_isTooLong {segment : String} (h : isTooLong segment = true) (items : List Value) :
    itemAt items segment = .error ⟨segment.toList.length⟩ := by
  obtain ⟨hindex, hlength⟩ := Bool.and_eq_true_iff.1 h
  rw [itemAt, hindex, if_pos (of_decide_eq_true hlength)]
  rfl

/-- A segment that is not too long can be followed from any value. -/
theorem step_of_not_isTooLong {segment : String} (h : isTooLong segment = false) (current : Value) :
    ∃ found, step current segment = .ok found := by
  cases current with
  | sequence kind items =>
    cases kind with
    | set => exact ⟨none, rfl⟩
    | list => exact itemAt_of_not_isTooLong h items
    | tuple => exact itemAt_of_not_isTooLong h items
  | mapping entries => exact ⟨_, rfl⟩
  | scalar | missing | recurrence => exact ⟨none, rfl⟩

/-- Segments none of which is too long can be followed from any value. -/
theorem follow_of_not_isTooLong {segments : List String} (h : ∀ segment ∈ segments, isTooLong segment = false)
    (current : Value) : ∃ found, follow segments current = .ok found := by
  induction segments generalizing current with
  | nil => exact ⟨some current, rfl⟩
  | cons segment rest ih =>
    obtain ⟨found, hfound⟩ := step_of_not_isTooLong (h segment List.mem_cons_self) current
    rw [follow, hfound, Except.ok_bind]
    cases found with
    | none => exact ⟨none, rfl⟩
    | some next => exact ih (fun s hs => h s (List.mem_cons_of_mem segment hs)) next

/-- A value below mappings of one key each, along some segments. -/
def nest (segments : List String) (last : Value) : Value :=
  segments.foldr (fun segment inner => .record [(segment, inner)]) last

/-- The first segment of a path leads into the first mapping of a nest. -/
theorem follow_cons_nest (segment : String) (rest segments : List String) (last : Value) :
    follow (segment :: rest) (nest (segment :: segments) last) = follow rest (nest segments last) := by
  simp [follow, nest, Value.record, Value.lookup]

/-- The segments lead to the value that is nested along them. -/
theorem follow_nest (segments : List String) (last : Value) : follow segments (nest segments last) = .ok (some last) := by
  induction segments with
  | nil => rfl
  | cons segment rest ih => rw [follow_cons_nest, ih]

/-- Segments one of which is too long cannot be followed from mappings that end in a list where it is met. -/
theorem follow_of_isTooLong {segments : List String} (h : ∃ segment ∈ segments, isTooLong segment = true) :
    ∃ before : List String, ∃ e, follow segments (nest before (.list [])) = .error e := by
  induction segments with
  | nil => exact absurd h (by simp)
  | cons segment rest ih =>
    by_cases hlong : isTooLong segment
    · refine ⟨[], ⟨segment.toList.length⟩, ?_⟩
      rw [follow, nest, List.foldr_nil, step_sequence (by decide), itemAt_of_isTooLong hlong]
      rfl
    · obtain ⟨before, e, he⟩ := ih (by simpa [hlong] using h)
      exact ⟨segment :: before, e, by rw [follow_cons_nest, he]⟩

end FactPath

namespace Value

open FactPath

/-- Every path leads somewhere in some bag of facts. -/
theorem exists_factAt_eq (path : String) (v : Value) : ∃ entries, (Value.mapping entries).factAt path = .ok v := by
  obtain ⟨first, rest, hpath⟩ := exists_segments_eq_cons path
  refine ⟨[(.text first, nest rest v)], ?_⟩
  have hfound : follow (first :: rest) (.mapping [(.text first, nest rest v)]) = .ok (some v) := follow_nest (first :: rest) v
  rw [factAt, at?, hpath, hfound]
  rfl

/-- A fact can be looked up in every bag of facts exactly when no segment of its path after the first is too long. -/
theorem factAt_total_iff (path : String) :
    (∀ entries, ∃ v, (Value.mapping entries).factAt path = .ok v) ↔
      ∀ segment ∈ (segments path).tail, isTooLong segment = false := by
  obtain ⟨first, rest, hpath⟩ := exists_segments_eq_cons path
  rw [hpath, List.tail_cons]
  constructor
  · intro h segment hsegment
    cases hlong : isTooLong segment with
    | false => rfl
    | true =>
      obtain ⟨before, e, he⟩ := follow_of_isTooLong ⟨segment, hsegment, hlong⟩
      obtain ⟨v, hv⟩ := h [(.text first, nest before (.list []))]
      have hfails : follow (first :: rest) (.mapping [(.text first, nest before (.list []))]) = .error e :=
        (follow_cons_nest first rest before (.list [])).trans he
      rw [factAt, at?, hpath, hfails] at hv
      cases hv
  · intro h entries
    rw [factAt, at?, hpath, follow, step_mapping, Except.ok_bind]
    cases Value.lookup entries first with
    | none => exact ⟨.missing, rfl⟩
    | some next =>
      obtain ⟨found, hfound⟩ := follow_of_not_isTooLong h next
      exact ⟨found.getD .missing, by simp [hfound]⟩

end Value

end RegulatoryTrees
