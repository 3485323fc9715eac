import RegulatoryTrees.Proofs.FactPath
import RegulatoryTrees.Proofs.Number.Digits

/-!
# Positions in facts and their paths

A position within a bag of facts is given by the keys and the indices that lead to it. A position has one dotted path: its keys
and the decimal numerals of its indices, joined by points, as long as no key has a point in it. Every other path leads nowhere
(`resolvesTo_iff_dotted`), so no two paths stand for one position: no numeral is read with a sign, a zero in front or digits of
other scripts. That a path resolves to a position is said without regard to how paths are followed: it finds whatever is put there.
-/

namespace RegulatoryTrees

/-- What leads from a value to a part of it: a key of a mapping, or the index of an item of a list or a tuple. -/
inductive Selector where
  | key (name : String)
  | index (i : Nat)
  deriving DecidableEq

namespace Selector

/-- A selector as a segment of a path: the key as it is, the index as a decimal numeral. -/
def segment : Selector → String
  | .key name => name
  | .index i => Decimal.ofNat i

/-- A selector that a segment can stand for: a key without points, or an index whose numeral is not too long to be read. -/
def IsAddressable : Selector → Prop
  | .key name => '.' ∉ name.toList
  | .index i => (Decimal.digitsOf i).length ≤ Decimal.digitLimit

instance : DecidablePred IsAddressable
  | .key name => inferInstanceAs (Decidable ('.' ∉ name.toList))
  | .index i => inferInstanceAs (Decidable ((Decimal.digitsOf i).length ≤ Decimal.digitLimit))

/-- The part of a value that a selector leads to. -/
def part? : Selector → Value → Option Value
  | .key name, .mapping entries => Value.lookup entries name
  | .index i, .list items => items[i]?
  | .index i, .tuple items => items[i]?
  | _, _ => none

/-- A value with a change made to the part that a selector leads to. -/
def change (f : Value → Value) : Selector → Value → Value
  | .key name, .mapping entries => .mapping (entries.map fun e => if e.1 = .text name then (e.1, f e.2) else e)
  | .index i, .sequence kind items => .sequence kind (items.modify i f)
  | _, v => v

end Selector

namespace Value

/-- The value at a position. -/
def partAt? : List Selector → Value → Option Value
  | [], v => some v
  | s :: rest, v => (s.part? v).bind (partAt? rest)

/-- A value with another one put at a position. -/
def put : Value → List Selector → Value → Value
  | _, [], new => new
  | v, s :: rest, new => s.change (fun part => part.put rest new) v

end Value

namespace FactPath

/-- The segments of a position, joined by points. -/
def dotted (p : List Selector) : String := String.intercalate "." (p.map Selector.segment)

/-- A position within some facts that a path can name. -/
structure IsPosition (facts : Value) (p : List Selector) : Prop where
  nonempty : p ≠ []
  exists_part : ∃ v, facts.partAt? p = some v
  addressable : ∀ s ∈ p, s.IsAddressable

/-- A path resolves to a position of some facts: whatever is put there, the path finds it. -/
def ResolvesTo (facts : Value) (path : String) (p : List Selector) : Prop :=
  ∀ new, (facts.put p new).at? path = .ok (some new)

/-! ## Numerals of indices -/

/-- The numeral of a number is one that a position may be written as. -/
@[simp] theorem isIndex_digitsOf (i : Nat) : isIndex (Decimal.digitsOf i) = true := by
  have hdigit : (Decimal.digitsOf i).all Text.isAsciiDigit = true :=
    List.all_eq_true.2 fun c hc => Decimal.isAsciiDigit_of_mem_digitsOf hc
  have hzero : (1 < (Decimal.digitsOf i).length && (Decimal.digitsOf i).head? == some '0') = false := by
    rcases Nat.eq_zero_or_pos i with rfl | hi
    · rw [Decimal.digitsOf_zero]
      rfl
    · simp [Decimal.head?_digitsOf hi]
  rw [isIndex, hdigit, hzero]
  simp [Decimal.digitsOf_ne_nil]

/-- A position is written as the numeral of a number only. -/
theorem exists_digitsOf_of_isIndex {cs : List Char} (h : isIndex cs = true) : ∃ i, cs = Decimal.digitsOf i := by
  obtain ⟨⟨hne, hdigit⟩, hzero⟩ :
      (cs ≠ [] ∧ ∀ c ∈ cs, Text.isAsciiDigit c = true) ∧ (cs.length ≤ 1 ∨ cs.head? ≠ some '0') := by
    simpa [isIndex] using h
  refine ⟨Decimal.natOfDigits cs, (Decimal.digitsOf_natOfDigits hne hdigit fun hhead => ?_).symm⟩
  exact Nat.le_antisymm (hzero.resolve_right (· hhead)) (List.length_pos_iff.2 hne)

/-- The segment of an index is its digits. -/
@[simp] theorem toList_segment_index (i : Nat) : (Selector.index i).segment.toList = Decimal.digitsOf i := by
  simp [Selector.segment, Decimal.ofNat]

/-- An index is asked for by its numeral. -/
theorem itemAt_segment {i : Nat} (h : (Selector.index i).IsAddressable) (items : List Value) :
    itemAt items (Selector.index i).segment = .ok items[i]? := by
  have hlength : ¬(Decimal.digitsOf i).length > Decimal.digitLimit := Nat.not_lt.2 h
  rw [itemAt, toList_segment_index, isIndex_digitsOf, if_neg hlength, Decimal.natOfDigits_digitsOf]
  rfl

/-- A segment that asks for an item is the numeral of its index. -/
theorem exists_index_of_itemAt {items : List Value} {segment : String} {v : Value}
    (h : itemAt items segment = .ok (some v)) :
    ∃ i, (Selector.index i).segment = segment ∧ (Selector.index i).IsAddressable ∧ items[i]? = some v := by
  rw [itemAt] at h
  cases hindex : isIndex segment.toList with
  | false => simp [hindex] at h
  | true =>
    obtain ⟨i, hi⟩ := exists_digitsOf_of_isIndex hindex
    have hsegment : (Selector.index i).segment = segment := String.toList_injective (by rw [toList_segment_index, hi])
    by_cases hlong : (Decimal.digitsOf i).length > Decimal.digitLimit
    · simp [hi, hlong] at h
    · have hfound : items[i]? = some v := by simpa [hi, hlong, Decimal.natOfDigits_digitsOf] using h
      exact ⟨i, hsegment, Nat.not_lt.1 hlong, hfound⟩

/-! ## One step -/

section Steps

variable {s : Selector} {v part : Value} {segment : String}

/-- A segment leads to the part that its selector leads to. -/
theorem step_segment (hs : s.IsAddressable) (h : s.part? v = some part) : step v s.segment = .ok (some part) := by
  cases s with
  | key name =>
    cases v with
    | mapping entries => exact congrArg Except.ok h
    | scalar | missing | sequence | recurrence => cases h
  | index i =>
    cases v with
    | sequence kind items =>
      cases kind with
      | list => exact (itemAt_segment hs items).trans (congrArg Except.ok h)
      | tuple => exact (itemAt_segment hs items).trans (congrArg Except.ok h)
      | set => cases h
    | scalar | missing | mapping | recurrence => cases h

/-- A segment without points that leads to a part is that of a selector. -/
theorem exists_selector_of_step (hdot : '.' ∉ segment.toList) (h : step v segment = .ok (some part)) :
    ∃ s : Selector, s.segment = segment ∧ s.IsAddressable ∧ s.part? v = some part := by
  cases v with
  | mapping entries => exact ⟨.key segment, rfl, hdot, Except.ok.inj h⟩
  | sequence kind items =>
    cases kind with
    | list =>
      obtain ⟨i, hsegment, hi, hpart⟩ := exists_index_of_itemAt h
      exact ⟨.index i, hsegment, hi, hpart⟩
    | tuple =>
      obtain ⟨i, hsegment, hi, hpart⟩ := exists_index_of_itemAt h
      exact ⟨.index i, hsegment, hi, hpart⟩
    | set => cases h
  | scalar | missing | recurrence => cases h

/-- The value under a key after a change to the values under a key. -/
theorem lookup_change (f : Value → Value) (entries : List (Scalar × Value)) (name other : String) :
    Value.lookup (entries.map fun e => if e.1 = .text name then (e.1, f e.2) else e) other =
      (Value.lookup entries other).map (if other = name then f else id) := by
  have keys : (fun e : Scalar × Value => e.1 == .text other) ∘ (fun e => if e.1 = .text name then (e.1, f e.2) else e) =
      fun e => e.1 == .text other := by
    funext e
    simp only [Function.comp_apply]
    split <;> rfl
  rw [Value.lookup, Value.lookup, List.find?_map, keys]
  cases hfound : entries.find? fun e => e.1 == .text other with
  | none => rfl
  | some e =>
    have hkey : e.1 = .text other := by simpa using List.find?_some hfound
    by_cases hname : other = name <;> simp [hkey, hname]

/-- After a change, the segment of a selector leads to the changed part. -/
theorem step_change_segment (f : Value → Value) (hs : s.IsAddressable) (h : s.part? v = some part) :
    step (s.change f v) s.segment = .ok (some (f part)) := by
  refine step_segment hs ?_
  cases s with
  | key name =>
    cases v with
    | mapping entries =>
      have hpart : Value.lookup entries name = some part := h
      simp [Selector.change, Selector.part?, lookup_change, hpart]
    | scalar | missing | sequence | recurrence => cases h
  | index i =>
    cases v with
    | sequence kind items =>
      cases kind with
      | set => cases h
      | list | tuple =>
        have hpart : items[i]? = some part := h
        simp [Selector.change, Selector.part?, hpart]
    | scalar | missing | mapping | recurrence => cases h

/-- A change to one item is not seen through the segments of others. -/
theorem itemAt_modify {i : Nat} (h : segment ≠ (Selector.index i).segment) (f : Value → Value) (items : List Value) :
    itemAt (items.modify i f) segment = itemAt items segment := by
  rw [itemAt, itemAt]
  cases hindex : isIndex segment.toList with
  | false => rfl
  | true =>
    obtain ⟨j, hj⟩ := exists_digitsOf_of_isIndex hindex
    have hne : i ≠ j := by
      rintro rfl
      exact h (String.toList_injective (by rw [toList_segment_index, hj]))
    simp [hj, Decimal.natOfDigits_digitsOf, hne]

/-- A change is not seen through other segments than that of its selector. -/
theorem step_change_of_ne (f : Value → Value) (h : segment ≠ s.segment) : step (s.change f v) segment = step v segment := by
  cases s with
  | key name =>
    cases v with
    | mapping entries =>
      have hne : segment ≠ name := h
      simp [Selector.change, lookup_change, hne]
    | scalar | missing | sequence | recurrence => rfl
  | index i =>
    cases v with
    | sequence kind items =>
      cases kind with
      | set => rfl
      | list => exact itemAt_modify h f items
      | tuple => exact itemAt_modify h f items
    | scalar | missing | mapping | recurrence => rfl

/-- A change does not make a scalar of a value that has the part. -/
theorem change_ne_scalar (f : Value → Value) (h : s.part? v = some part) (a : Scalar) : s.change f v ≠ .scalar a := by
  cases s <;> cases v <;> first | cases h | exact nofun

/-- A step fails only at a numeral that is too long. -/
theorem isTooLong_of_step_error {e : Decimal.NumeralTooLong} (h : step v segment = .error e) :
    isTooLong segment = true ∧ e = ⟨segment.toList.length⟩ := by
  cases hlong : isTooLong segment with
  | false =>
    obtain ⟨found, hfound⟩ := step_of_not_isTooLong hlong v
    rw [hfound] at h
    cases h
  | true =>
    refine ⟨rfl, ?_⟩
    cases v with
    | sequence kind items =>
      cases kind with
      | set => cases h
      | list => exact (Except.error.inj ((itemAt_of_isTooLong hlong items).symm.trans h)).symm
      | tuple => exact (Except.error.inj ((itemAt_of_isTooLong hlong items).symm.trans h)).symm
    | scalar | missing | mapping | recurrence => cases h

end Steps

/-! ## All steps of a path -/

/-- The segments of a position lead to the value there. -/
theorem follow_segments {p : List Selector} (hp : ∀ s ∈ p, s.IsAddressable) {v part : Value}
    (h : v.partAt? p = some part) : follow (p.map Selector.segment) v = .ok (some part) := by
  induction p generalizing v with
  | nil => exact congrArg Except.ok h
  | cons s rest ih =>
    obtain ⟨next, hnext, hpart⟩ := Option.bind_eq_some_iff.1 h
    rw [List.map_cons, follow, step_segment (hp s List.mem_cons_self) hnext, Except.ok_bind]
    exact ih (fun s hs => hp s (List.mem_cons_of_mem _ hs)) hpart

/-- Segments without points that lead somewhere are those of a position. -/
theorem exists_position_of_follow {segments : List String} (hdot : ∀ segment ∈ segments, '.' ∉ segment.toList) {v part : Value}
    (h : follow segments v = .ok (some part)) :
    ∃ p : List Selector, p.map Selector.segment = segments ∧ (∀ s ∈ p, s.IsAddressable) ∧ v.partAt? p = some part := by
  induction segments generalizing v with
  | nil => exact ⟨[], rfl, fun s hs => absurd hs List.not_mem_nil, Except.ok.inj h⟩
  | cons segment rest ih =>
    obtain ⟨found, hfound, h⟩ := Except.bind_eq_ok.1 h
    cases found with
    | none => cases h
    | some next =>
      obtain ⟨s, hsegment, hs, hnext⟩ := exists_selector_of_step (hdot segment List.mem_cons_self) hfound
      obtain ⟨p, hmap, hp, hpart⟩ := ih (fun segment hs => hdot segment (List.mem_cons_of_mem _ hs)) h
      refine ⟨s :: p, by rw [List.map_cons, hsegment, hmap], List.forall_mem_cons.2 ⟨hs, hp⟩, ?_⟩
      rw [Value.partAt?, hnext, Option.bind_some, hpart]

/-- Segments cannot be followed only where one of them is a numeral that is too long. -/
theorem exists_isTooLong_of_follow_error {segments : List String} {v : Value} {e : Decimal.NumeralTooLong}
    (h : follow segments v = .error e) :
    ∃ segment ∈ segments, isTooLong segment = true ∧ e = ⟨segment.toList.length⟩ := by
  induction segments generalizing v with
  | nil => cases h
  | cons segment rest ih =>
    rcases Except.bind_eq_error.1 h with h | ⟨found, -, h⟩
    · exact ⟨segment, List.mem_cons_self, isTooLong_of_step_error h⟩
    · cases found with
      | none => cases h
      | some next =>
        obtain ⟨segment, hmem, hlong⟩ := ih h
        exact ⟨segment, List.mem_cons_of_mem _ hmem, hlong⟩

/-- What is put at a position is found by the segments of the position. -/
theorem follow_segments_put {p : List Selector} (hp : ∀ s ∈ p, s.IsAddressable) {v part : Value}
    (h : v.partAt? p = some part) (new : Value) : follow (p.map Selector.segment) (v.put p new) = .ok (some new) := by
  induction p generalizing v with
  | nil => rfl
  | cons s rest ih =>
    obtain ⟨next, hnext, hpart⟩ := Option.bind_eq_some_iff.1 h
    rw [List.map_cons, follow, Value.put, step_change_segment _ (hp s List.mem_cons_self) hnext, Except.ok_bind]
    exact ih (fun s hs => hp s (List.mem_cons_of_mem _ hs)) hpart

/-- Two scalars put at a position are both found by the segments of the position only: others lead past it or stop at it. -/
theorem eq_segments_of_follow_put {p : List Selector} (hp : ∀ s ∈ p, s.IsAddressable) {v part : Value}
    (h : v.partAt? p = some part) {segments : List String} {a b : Scalar} (hab : a ≠ b)
    (ha : follow segments (v.put p (.scalar a)) = .ok (some (.scalar a)))
    (hb : follow segments (v.put p (.scalar b)) = .ok (some (.scalar b))) : segments = p.map Selector.segment := by
  induction p generalizing v segments with
  | nil =>
    cases segments with
    | nil => rfl
    | cons segment rest => cases ha
  | cons s rest ih =>
    obtain ⟨next, hnext, hpart⟩ := Option.bind_eq_some_iff.1 h
    cases segments with
    | nil =>
      have hstop : s.change (fun part => part.put rest (.scalar a)) v = .scalar a := Option.some.inj (Except.ok.inj ha)
      exact absurd hstop (change_ne_scalar _ hnext a)
    | cons segment more =>
      rw [follow, Value.put] at ha hb
      by_cases hsegment : segment = s.segment
      · subst hsegment
        have hs := hp s List.mem_cons_self
        rw [step_change_segment _ hs hnext, Except.ok_bind] at ha hb
        rw [List.map_cons, ih (fun s hs => hp s (List.mem_cons_of_mem _ hs)) hpart ha hb]
      · rw [step_change_of_ne _ hsegment] at ha hb
        obtain ⟨found, hfound, ha⟩ := Except.bind_eq_ok.1 ha
        rw [hfound, Except.ok_bind] at hb
        rw [ha] at hb
        cases hb
        exact absurd rfl hab

/-! ## Paths as texts -/

/-- A character before a text begins a new part if it is the separator, and otherwise the first part. -/
theorem splitAt_cons {separator c : Char} {rest part : List Char} {parts : List (List Char)}
    (h : Text.splitAt separator rest = part :: parts) :
    Text.splitAt separator (c :: rest) = if c = separator then [] :: part :: parts else (c :: part) :: parts := by
  rw [Text.splitAt, h]

/-- Cutting a text is the splitting of a list at a separator. -/
theorem splitAt_eq_splitOn (separator : Char) (cs : List Char) : Text.splitAt separator cs = cs.splitOn separator := by
  induction cs with
  | nil => rfl
  | cons c rest ih =>
    obtain ⟨part, parts, hsplit⟩ := List.exists_cons_of_ne_nil (splitAt_ne_nil separator rest)
    rw [splitAt_cons hsplit, List.splitOn, List.splitOnP_cons_eq_if_modifyHead, ← List.splitOn, ← ih, hsplit]
    by_cases hc : c = separator <;> simp [hc]

/-- The parts of a text have no separator in them. -/
theorem not_mem_of_mem_splitAt {separator : Char} {cs part : List Char} (h : part ∈ Text.splitAt separator cs) :
    separator ∉ part := by
  induction cs generalizing part with
  | nil =>
    rw [List.mem_singleton.1 h]
    exact List.not_mem_nil
  | cons c rest ih =>
    obtain ⟨first, others, hsplit⟩ := List.exists_cons_of_ne_nil (splitAt_ne_nil separator rest)
    rw [hsplit] at ih
    rw [splitAt_cons hsplit] at h
    by_cases hc : c = separator
    · rw [if_pos hc] at h
      rcases List.mem_cons.1 h with rfl | h
      · exact List.not_mem_nil
      · exact ih h
    · rw [if_neg hc] at h
      rcases List.mem_cons.1 h with rfl | h
      · exact List.not_mem_cons_of_ne_of_not_mem (Ne.symm hc) (ih List.mem_cons_self)
      · exact ih (List.mem_cons_of_mem _ h)

/-- The segments of a path have no points in them. -/
theorem not_mem_of_mem_segments {path segment : String} (h : segment ∈ segments path) : '.' ∉ segment.toList := by
  obtain ⟨part, hpart, rfl⟩ := List.mem_map.1 h
  rw [String.toList_ofList]
  exact not_mem_of_mem_splitAt hpart

/-- A path is its segments joined by points. -/
theorem intercalate_segments (path : String) : String.intercalate "." (segments path) = path := by
  refine String.toList_injective ?_
  have parts : (segments path).map String.toList = path.toList.splitOn '.' := by
    simp [segments, splitAt_eq_splitOn, Function.comp_def]
  rw [String.toList_intercalate, parts]
  exact List.intercalate_splitOn '.'

/-- Texts without points that are joined by points are the segments of the path. -/
theorem segments_intercalate {texts : List String} (hne : texts ≠ []) (hdot : ∀ text ∈ texts, '.' ∉ text.toList) :
    segments (String.intercalate "." texts) = texts := by
  have parts : (['.'].intercalate (texts.map String.toList)).splitOn '.' = texts.map String.toList := by
    refine List.splitOn_intercalate '.' ?_ (by simpa using hne)
    intro part hpart
    obtain ⟨text, htext, rfl⟩ := List.mem_map.1 hpart
    exact hdot text htext
  have point : ".".toList = ['.'] := rfl
  rw [segments, String.toList_intercalate, point, splitAt_eq_splitOn, parts]
  simp [Function.comp_def]

/-- The segment of a selector that a segment can stand for has no points in it. -/
theorem not_mem_segment {s : Selector} (hs : s.IsAddressable) : '.' ∉ s.segment.toList := by
  cases s with
  | key name => exact hs
  | index i =>
    rw [toList_segment_index]
    intro hdot
    exact absurd (Decimal.isAsciiDigit_of_mem_digitsOf hdot) (by decide)

/-- The dotted path of a position is cut into the segments of its selectors. -/
theorem segments_dotted {p : List Selector} (hne : p ≠ []) (hp : ∀ s ∈ p, s.IsAddressable) :
    segments (dotted p) = p.map Selector.segment := by
  refine segments_intercalate (by simpa using hne) ?_
  intro segment hsegment
  obtain ⟨s, hs, rfl⟩ := List.mem_map.1 hsegment
  exact not_mem_segment (hp s hs)

/-! ## Positions and paths -/

/-- The dotted path of a position finds the value there, and is the one path that resolves to the position. A path that is not
that of a position leads nowhere, unless one of its segments is a numeral that is too long to be read. -/
theorem resolvesTo_iff_dotted (facts : Value) :
    (∀ p, IsPosition facts p →
      facts.at? (dotted p) = .ok (facts.partAt? p) ∧ ∀ path, ResolvesTo facts path p ↔ path = dotted p) ∧
    (∀ path, (∀ p, IsPosition facts p → path ≠ dotted p) →
      facts.at? path = .ok none ∨
        ∃ segment ∈ segments path, isTooLong segment = true ∧ facts.at? path = .error ⟨segment.toList.length⟩) := by
  constructor
  · rintro p ⟨hne, ⟨part, hpart⟩, hp⟩
    have hsegments := segments_dotted hne hp
    refine ⟨?_, fun path => ⟨fun h => ?_, ?_⟩⟩
    · rw [Value.at?, hsegments, follow_segments hp hpart, hpart]
    · have heq := eq_segments_of_follow_put hp hpart (by decide : Scalar.null ≠ .bool true) (h .null) (h (.bool true))
      rw [← intercalate_segments path, heq, dotted]
    · rintro rfl new
      rw [Value.at?, hsegments, follow_segments_put hp hpart]
  · intro path hpath
    have hdot : ∀ segment ∈ segments path, '.' ∉ segment.toList := fun _ => not_mem_of_mem_segments
    cases hfound : follow (segments path) facts with
    | error e =>
      obtain ⟨segment, hmem, hlong, rfl⟩ := exists_isTooLong_of_follow_error hfound
      exact .inr ⟨segment, hmem, hlong, hfound⟩
    | ok found =>
      cases found with
      | none => exact .inl hfound
      | some part =>
        obtain ⟨p, hmap, hp, hpart⟩ := exists_position_of_follow hdot hfound
        have hne : p ≠ [] := by
          rintro rfl
          obtain ⟨first, rest, hcons⟩ := exists_segments_eq_cons path
          rw [hcons] at hmap
          cases hmap
        refine absurd ?_ (hpath p ⟨hne, ⟨part, hpart⟩, hp⟩)
        rw [dotted, hmap, intercalate_segments]

namespace Wallets

/-- The wallets of an issuer. -/
def facts : Value := .record [("issuer", .record [("wallets", .list [.text "cold", .text "hot"])])]

/-- The position of the second wallet. -/
def second : List Selector := [.key "issuer", .key "wallets", .index 1]

/-- The second wallet is a position of the facts. -/
theorem isPosition_second : IsPosition facts second := ⟨nofun, ⟨.text "hot", rfl⟩, by decide +kernel⟩

/-- A zero in front of the index leads nowhere. -/
theorem at?_zero_in_front : facts.at? "issuer.wallets.01" = .ok none := rfl

end Wallets

/-- The second wallet has one path, and with a zero in front of its index the path is that of no position. -/
theorem resolvesTo_iff_dotted_wallets :
    IsPosition Wallets.facts Wallets.second ∧
      Wallets.facts.at? "issuer.wallets.1" = .ok (some (.text "hot")) ∧
      (∀ path, ResolvesTo Wallets.facts path Wallets.second ↔ path = "issuer.wallets.1") ∧
      (∀ p, IsPosition Wallets.facts p → "issuer.wallets.01" ≠ dotted p) ∧
      (∀ segment ∈ segments "issuer.wallets.01", isTooLong segment = false) ∧
      Wallets.facts.at? "issuer.wallets.01" = .ok none := by
  obtain ⟨hpaths, hothers⟩ := resolvesTo_iff_dotted Wallets.facts
  have hdotted : dotted Wallets.second = "issuer.wallets.1" := by decide +kernel
  obtain ⟨hfound, hunique⟩ := hpaths _ Wallets.isPosition_second
  rw [hdotted] at hfound hunique
  have hno : ∀ p, IsPosition Wallets.facts p → "issuer.wallets.01" ≠ dotted p := by
    intro p hp heq
    obtain ⟨part, hpart⟩ := hp.exists_part
    have hleads := (hpaths p hp).1
    rw [← heq, Wallets.at?_zero_in_front, hpart] at hleads
    cases hleads
  have hshort : ∀ segment ∈ segments "issuer.wallets.01", isTooLong segment = false := by decide +kernel
  refine ⟨Wallets.isPosition_second, hfound, hunique, hno, hshort, (hothers _ hno).resolve_right ?_⟩
  rintro ⟨segment, hsegment, hlong, -⟩
  rw [hshort segment hsegment] at hlong
  cases hlong

end FactPath

end RegulatoryTrees
