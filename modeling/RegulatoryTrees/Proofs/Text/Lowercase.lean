import Mathlib.Data.List.Induction
import RegulatoryTrees.Proofs.Text.Tables
import RegulatoryTrees.Text.Case

/-!
# The lowercase of a part of a text

The lowercase of a text is that of its parts, each within the rest (`lowerWithin_append`): a capital sigma becomes a final one or not
by the letters on its two sides, which may lie outside the part. Where they are settled within it, the part has the same lowercase
wherever it stands (`lowerWithin_eq`), so that a text in which it occurs has it in lowercase too. Where they are not, it stands in a
text whose lowercase does not have it: these are exactly the parts that lowercase can lose (`settlesSigmas_iff`).
-/

namespace RegulatoryTrees.Text

/-! ## Letters beside a character -/

/-- The first character that is not passed over. -/
def nearest? (cs : List Char) : Option Char := cs.find? fun c => !isCaseIgnorable c

/-- Characters that are passed over are not the nearest. -/
theorem nearest?_cons (c : Char) (cs : List Char) : nearest? (c :: cs) = if isCaseIgnorable c then nearest? cs else some c := by
  by_cases h : isCaseIgnorable c <;> simp [nearest?, h]

/-- Whether the last character that is not passed over is a letter with case, once a character comes after what is known. -/
def follows (after : Bool) (c : Char) : Bool := if isCaseIgnorable c then after else isLetterWithCase c

/-- What follows some characters follows the last one of them that is not passed over. -/
theorem foldl_follows (after : Bool) (cs : List Char) :
    cs.foldl follows after = ((nearest? cs.reverse).map isLetterWithCase).getD after := by
  induction cs using List.reverseRecOn with
  | nil => rfl
  | append_singleton cs c ih =>
    rw [List.foldl_append, List.foldl_cons, List.foldl_nil, List.reverse_append, List.reverse_singleton, List.singleton_append,
      nearest?_cons, follows, ih]
    by_cases h : isCaseIgnorable c
    · rw [if_pos h, if_pos h]
    · rw [if_neg h, if_neg h, Option.map_some, Option.getD_some]

/-- A letter is met in a text if one is the nearest there, or if all of it is passed over and one is met after it. -/
theorem meetsLetter_append (cs rest : List Char) :
    meetsLetter (cs ++ rest) = ((nearest? cs).map isLetterWithCase).getD (meetsLetter rest) := by
  induction cs with
  | nil => rfl
  | cons c cs ih =>
    rw [List.cons_append, meetsLetter, ih, nearest?_cons]
    by_cases h : isCaseIgnorable c
    · rw [if_pos h, if_pos h]
    · rw [if_neg h, if_neg h, Option.map_some, Option.getD_some]

/-! ## Parts of a text -/

/-- The lowercase of a part of a text before the rest; `after` is as for `lowerInPlace`. -/
def lowerWithin (rest : List Char) (after : Bool) : List Char → List Char
  | [] => []
  | c :: part => lowerInPlace after c (part ++ rest) ++ lowerWithin rest (follows after c) part

/-- The lowercase of two parts is that of the first, before the second, and that of the second, after what the first leaves. -/
theorem lowerWithin_append (rest : List Char) (after : Bool) (xs ys : List Char) :
    lowerWithin rest after (xs ++ ys) = lowerWithin (ys ++ rest) after xs ++ lowerWithin rest (xs.foldl follows after) ys := by
  induction xs generalizing after with
  | nil => rfl
  | cons c xs ih => simp only [List.cons_append, lowerWithin, ih, List.append_assoc, List.foldl_cons]

/-- A whole text is a part with nothing after it. -/
theorem lowerFrom_eq_lowerWithin (after : Bool) (cs : List Char) : lowerFrom after cs = lowerWithin [] after cs := by
  induction cs generalizing after with
  | nil => rfl
  | cons c cs ih => rw [lowerFrom, lowerWithin, ih, List.append_nil, follows]

/-- What stands beside a character matters for its lowercase only if it is a capital sigma. -/
theorem lowerInPlace_congr {after after' : Bool} {c : Char} {rest rest' : List Char}
    (h : c = 'Σ' → (after && !meetsLetter rest) = (after' && !meetsLetter rest')) :
    lowerInPlace after c rest = lowerInPlace after' c rest' := by
  rw [lowerInPlace, lowerInPlace]
  by_cases hc : c = 'Σ'
  · simp only [h hc]
  · have hne : ¬(c == 'Σ') = true := by simpa using hc
    rw [if_neg hne, if_neg hne]

/-- Without a capital sigma and a capital I with a dot, a text is lowered character by character. -/
theorem lowerWithin_of_notMem {part : List Char} (hsigma : 'Σ' ∉ part) (hdotted : 'İ' ∉ part) (rest : List Char) (after : Bool) :
    lowerWithin rest after part = part.map lowerChar := by
  induction part generalizing after with
  | nil => rfl
  | cons c part ih =>
    obtain ⟨hc, hsigma⟩ := List.ne_and_not_mem_of_not_mem_cons hsigma
    obtain ⟨hc', hdotted⟩ := List.ne_and_not_mem_of_not_mem_cons hdotted
    rw [lowerWithin, lowerInPlace, if_neg (by simpa using hc.symm), if_neg (by simpa using hc'.symm), ih hsigma hdotted,
      List.map_cons, List.singleton_append]

/-- The lowercase of a part depends on the rest only by whether a letter is met there. -/
theorem lowerWithin_congr {rest rest' : List Char} (h : meetsLetter rest = meetsLetter rest') (after : Bool) (part : List Char) :
    lowerWithin rest after part = lowerWithin rest' after part := by
  induction part generalizing after with
  | nil => rfl
  | cons c part ih =>
    have hc : lowerInPlace after c (part ++ rest) = lowerInPlace after c (part ++ rest') :=
      lowerInPlace_congr fun _ => by rw [meetsLetter_append, meetsLetter_append, h]
    rw [lowerWithin, lowerWithin, hc, ih]

/-! ## Settled parts -/

/-- What stands beside a capital sigma within a part of a text settles whether it becomes a final one, wherever the part stands: it
comes after no letter, or before one, or both its neighbours are within the part. -/
def SettlesSigma (before after : List Char) : Prop :=
  (∃ c, nearest? before.reverse = some c ∧ isLetterWithCase c = false) ∨
    (∃ c, nearest? after = some c ∧ isLetterWithCase c = true) ∨
    ((nearest? before.reverse).isSome = true ∧ (nearest? after).isSome = true)

/-- Every capital sigma of a part of a text is settled within it. -/
def SettlesSigmas (part : List Char) : Prop := ∀ before after, part = before ++ 'Σ' :: after → SettlesSigma before after

/-- A part without a capital sigma has none that is not settled. -/
theorem settlesSigmas_of_notMem {part : List Char} (h : 'Σ' ∉ part) : SettlesSigmas part := by
  rintro before after rfl
  exact absurd (List.mem_append_right before List.mem_cons_self) h

/-- Whether a capital sigma that is settled becomes a final one does not depend on what is around the part. -/
theorem SettlesSigma.isFinal_eq {before after : List Char} (h : SettlesSigma before after) (s t : Bool) (rest rest' : List Char) :
    (before.foldl follows s && !meetsLetter (after ++ rest)) = (before.foldl follows t && !meetsLetter (after ++ rest')) := by
  simp only [foldl_follows, meetsLetter_append]
  rcases h with ⟨c, hc, hletter⟩ | ⟨c, hc, hletter⟩ | ⟨hbefore, hafter⟩
  · rw [hc, Option.map_some, Option.getD_some, Option.getD_some, hletter, Bool.false_and, Bool.false_and]
  · rw [hc, Option.map_some, Option.getD_some, Option.getD_some, hletter, Bool.not_true, Bool.and_false, Bool.and_false]
  · obtain ⟨c, hc⟩ := Option.isSome_iff_exists.1 hbefore
    obtain ⟨d, hd⟩ := Option.isSome_iff_exists.1 hafter
    rw [hc, hd, Option.map_some, Option.map_some, Option.getD_some, Option.getD_some, Option.getD_some, Option.getD_some]

/-- A part all of whose capital sigmas are settled has one lowercase, wherever it stands. What is before a character of the
part decides about it too, so the part is taken apart at every place. -/
theorem lowerWithin_eq {part : List Char} (h : SettlesSigmas part) (rest rest' : List Char) (s t : Bool) :
    lowerWithin rest s part = lowerWithin rest' t part := by
  suffices hsplit : ∀ before after, part = before ++ after →
      lowerWithin rest (before.foldl follows s) after = lowerWithin rest' (before.foldl follows t) after from hsplit [] part rfl
  intro before after hpart
  induction after generalizing before with
  | nil => rfl
  | cons c after ih =>
    have hnext := ih (before ++ [c]) (by rw [hpart, List.append_assoc, List.singleton_append])
    have hc := lowerInPlace_congr fun hc : c = 'Σ' => (h before after (hc ▸ hpart)).isFinal_eq s t rest rest'
    rw [List.foldl_append, List.foldl_append, List.foldl_cons, List.foldl_cons, List.foldl_nil, List.foldl_nil] at hnext
    rw [lowerWithin, lowerWithin, hc, hnext]

/-- A text in which a part stands whose capital sigmas are settled has it in lowercase too. -/
theorem infix_lowerWithin {part text : List Char} (h : SettlesSigmas part) (hpart : part <:+: text) :
    lowerWithin [] false part <:+: lowerWithin [] false text := by
  obtain ⟨before, after, rfl⟩ := hpart
  rw [lowerWithin_append, lowerWithin_append, lowerWithin_eq h [] (after ++ []) false (before.foldl follows false)]
  exact List.infix_append _ _ _

/-! ## Some capital letters -/

/-- Capital letters, Latin and Greek. -/
def capitals : List Char := ['A', 'Α', 'Ο', 'Π', 'Ρ', 'Σ', 'Φ']

set_option maxRecDepth 20000 in
/-- These are letters with case and not passed over. A list of characters is evaluated with ease, a text is not; and a test of
all items goes through the list, where a quantifier might be decided by going through every character there is. -/
theorem isLetterWithCase_capitals : ∀ c ∈ capitals, isCaseIgnorable c = false ∧ isLetterWithCase c = true := by
  obtain ⟨cs, ds, hignorable, hletter, h⟩ : ∃ cs ds, caseIgnorableTable = .ofGaps (.ofList cs) ∧
      letterWithCaseTable = .ofGaps (.ofList ds) ∧
      (capitals.all fun c => RangeSet.countGaps c.toNat ((numbersOf (.ofList cs)).map Int.toNat) % 2 != 1 &&
        RangeSet.countGaps c.toNat ((numbersOf (.ofList ds)).map Int.toNat) % 2 == 1) = true := by
    refine ⟨_, _, rfl, rfl, ?_⟩
    rw [numbersOf, numbersOf, String.toList_ofList, String.toList_ofList]
    decide +kernel
  intro c hc
  rw [isCaseIgnorable, isLetterWithCase, hignorable, hletter, RangeSet.contains_ofGaps, RangeSet.contains_ofGaps]
  simpa only [Bool.and_eq_true, bne, Bool.not_eq_true'] using List.all_eq_true.1 h c hc

set_option maxRecDepth 20000 in
/-- Each of these capitals has one letter for its lowercase, apart from what stands around it. -/
theorem map_lowerChar_capitals : capitals.map lowerChar = ['a', 'α', 'ο', 'π', 'ρ', 'σ', 'φ'] := by
  obtain ⟨cs, hlower, h⟩ : ∃ cs, lowerTable = .ofNumbers (.ofList cs) ∧
      (capitals.map fun c => if c.toNat < 128 then if 'A' ≤ c && c ≤ 'Z' then Char.ofNat (c.toNat + 32) else c
        else (((ShiftTable.ofNumbers (.ofList cs)).image? c.toNat).map Char.ofNat).getD c) = ['a', 'α', 'ο', 'π', 'ρ', 'σ', 'φ'] := by
    refine ⟨_, rfl, ?_⟩
    rw [ShiftTable.ofNumbers, numbersOf, String.toList_ofList]
    decide +kernel
  rw [← h, ← hlower]
  rfl

/-- A capital is a letter that is met. -/
theorem meetsLetter_cons {c : Char} (h : c ∈ capitals) (rest : List Char) : meetsLetter (c :: rest) = true := by
  obtain ⟨hignorable, hletter⟩ := isLetterWithCase_capitals c h
  rw [meetsLetter, hignorable, if_neg Bool.false_ne_true, hletter]

/-- After a capital a letter has been met. -/
theorem follows_eq_true {c : Char} (h : c ∈ capitals) (after : Bool) : follows after c = true := by
  obtain ⟨hignorable, hletter⟩ := isLetterWithCase_capitals c h
  rw [follows, hignorable, if_neg Bool.false_ne_true, hletter]

/-! ## Parts that are not settled -/

/-- A capital sigma becomes the final one after a letter and before none. -/
theorem lowerInPlace_sigma (after : Bool) (rest : List Char) :
    lowerInPlace after 'Σ' rest = [if after && !meetsLetter rest then 'ς' else 'σ'] := by
  rw [lowerInPlace, if_pos (beq_self_eq_true 'Σ')]
  cases after && !meetsLetter rest <;> rfl

/-- The lowercase of a part at a capital sigma of it. -/
theorem lowerWithin_sigma (rest : List Char) (s : Bool) (before after : List Char) :
    lowerWithin rest s (before ++ 'Σ' :: after) = lowerWithin ('Σ' :: after ++ rest) s before ++
      (if before.foldl follows s && !meetsLetter (after ++ rest) then 'ς' else 'σ') :: lowerWithin rest true after := by
  rw [lowerWithin_append, lowerWithin, lowerInPlace_sigma, follows_eq_true (by decide), List.singleton_append]

/-- What is passed over has no capital sigma. -/
theorem notMem_of_nearest?_eq_none {cs : List Char} (h : nearest? cs = none) : 'Σ' ∉ cs := by
  intro hmem
  have hignorable := List.find?_eq_none.1 h 'Σ' hmem
  rw [(isLetterWithCase_capitals 'Σ' (by decide)).1] at hignorable
  exact hignorable rfl

/-- A sigma of a part that comes after no character but those passed over, nor before a letter, is a final one by what comes before
the part. -/
theorem lowerWithin_of_leading {before after : List Char} (hbefore : nearest? before.reverse = none) (hafter : meetsLetter after = false)
    (s : Bool) : lowerWithin [] s (before ++ 'Σ' :: after) =
      lowerWithin [] false before ++ (if s then 'ς' else 'σ') :: lowerWithin [] true after := by
  have hfollows : before.foldl follows s = s := by rw [foldl_follows, hbefore, Option.map_none, Option.getD_none]
  have hsettled := settlesSigmas_of_notMem fun hmem => notMem_of_nearest?_eq_none hbefore (List.mem_reverse.2 hmem)
  rw [lowerWithin_sigma, hfollows, List.append_nil after, hafter, Bool.not_false, Bool.and_true, lowerWithin_eq hsettled _ [] s false]

/-- A sigma of a part that comes after a letter, and before no character but those passed over, is a final one by what comes after the
part. -/
theorem lowerWithin_of_trailing {before after : List Char} {c : Char} (hbefore : nearest? before.reverse = some c)
    (hletter : isLetterWithCase c = true) (hafter : nearest? after = none) (rest : List Char) :
    lowerWithin rest false (before ++ 'Σ' :: after) =
      lowerWithin ['Σ'] false before ++ (if meetsLetter rest then 'σ' else 'ς') :: lowerWithin [] true after := by
  have hfollows : before.foldl follows false = true := by
    rw [foldl_follows, hbefore, Option.map_some, Option.getD_some, hletter]
  have hmeets : meetsLetter (after ++ rest) = meetsLetter rest := by
    rw [meetsLetter_append, hafter, Option.map_none, Option.getD_none]
  have hwithin : lowerWithin ('Σ' :: after ++ rest) false before = lowerWithin ['Σ'] false before :=
    lowerWithin_congr (by rw [List.cons_append, meetsLetter_cons (by decide), meetsLetter_cons (by decide)]) false before
  have hsettled := settlesSigmas_of_notMem (notMem_of_nearest?_eq_none hafter)
  rw [lowerWithin_sigma, hfollows, hmeets, hwithin, Bool.true_and, lowerWithin_eq hsettled rest [] true true]
  cases meetsLetter rest <;> rfl

/-- Two texts that differ in one character are not part of one another, if the character stands nowhere around them. -/
theorem not_infix_of_ne {α : Type} [DecidableEq α] {x y : α} {left right before after : List α} (h : x ≠ y) (hleft : x ∉ left)
    (hright : x ∉ right) : ¬(before ++ x :: after) <:+: (left ++ (before ++ y :: after) ++ right) := by
  intro hinfix
  have hcount := hinfix.sublist.count_le x
  simp only [List.count_append, List.count_cons_self, List.count_cons_of_ne h.symm, List.count_eq_zero_of_not_mem hleft,
    List.count_eq_zero_of_not_mem hright] at hcount
  omega

/-- The lowercase of a part with a sigma that is not settled is not in that of the part with a letter on one of its sides. A
letter put before the part turns the sigma into a final one, or a letter put after it keeps the sigma from being one. -/
theorem exists_not_infix_lowerWithin {part : List Char} (h : ¬SettlesSigmas part) :
    ∃ text, part <:+: text ∧ ¬lowerWithin [] false part <:+: lowerWithin [] false text := by
  simp only [SettlesSigmas, SettlesSigma, not_forall, not_or, not_exists, not_and, Bool.not_eq_false, Bool.not_eq_true] at h
  obtain ⟨before, after, rfl, hbefore, hafter, hboth⟩ := h
  have hA (rest : List Char) (s : Bool) : lowerWithin rest s ['A'] = ['a'] := by rfl
  cases hfirst : nearest? before.reverse with
  | none =>
    have hmeets : meetsLetter after = false := by
      rw [← List.append_nil after, meetsLetter_append]
      cases hnext : nearest? after with
      | none => rw [Option.map_none, Option.getD_none, meetsLetter]
      | some c => rw [Option.map_some, Option.getD_some, hafter c hnext]
    refine ⟨['A'] ++ (before ++ 'Σ' :: after), (List.suffix_append _ _).isInfix, ?_⟩
    rw [lowerWithin_of_leading hfirst hmeets, if_neg Bool.false_ne_true, lowerWithin_append, hA, List.foldl_cons, List.foldl_nil,
      follows_eq_true (by decide), lowerWithin_of_leading hfirst hmeets, if_pos rfl, ← List.append_nil (['a'] ++ _)]
    exact not_infix_of_ne (by decide) (by decide) List.not_mem_nil
  | some c =>
    have hletter := hbefore c hfirst
    have hnext : nearest? after = none := Option.not_isSome_iff_eq_none.1 (by simpa [hfirst] using hboth)
    refine ⟨(before ++ 'Σ' :: after) ++ ['A'], (List.prefix_append _ _).isInfix, ?_⟩
    rw [lowerWithin_of_trailing hfirst hletter hnext, meetsLetter, if_neg Bool.false_ne_true, lowerWithin_append, hA, List.append_nil,
      lowerWithin_of_trailing hfirst hletter hnext, meetsLetter_cons (by decide), if_pos rfl]
    exact not_infix_of_ne (by decide) List.not_mem_nil (by decide)

/-- The lowercase of a text is that of its characters, with nothing before and after. -/
theorem toList_lowercase (s : String) : (lowercase s).toList = lowerWithin [] false s.toList := by
  rw [lowercase, String.toList_ofList, lowerFrom_eq_lowerWithin]

/-- Lowercase keeps the occurrences of a text in others exactly if it settles its capital sigmas. -/
theorem settlesSigmas_iff {part : String} :
    SettlesSigmas part.toList ↔
      ∀ text : String, part.toList <:+: text.toList → (lowercase part).toList <:+: (lowercase text).toList := by
  simp only [toList_lowercase]
  refine ⟨fun h text hpart => infix_lowerWithin h hpart, fun h => ?_⟩
  by_contra hunsettled
  obtain ⟨text, hpart, hlost⟩ := exists_not_infix_lowerWithin hunsettled
  have hkept := h (.ofList text)
  rw [String.toList_ofList] at hkept
  exact hlost (hkept hpart)

end RegulatoryTrees.Text
