import RegulatoryTrees.Proofs.Conflict.Classification
import RegulatoryTrees.Proofs.Pattern.Scan
import RegulatoryTrees.Proofs.Text.Tables

/-!
# Numbers of days in a text

A text counts days by a run of decimal digits, one that no other digit touches, if blanks and "day" or "days" follow, in any case,
and a word ends there. The scan of a text for the pattern of day counts finds exactly these runs (`exists_mem_allIn_iff`): digits
and what may follow them have no character in common, so a match cannot begin within a run, and no run begins within a match.
-/

namespace RegulatoryTrees

namespace Phrase

/-! ## Day counts -/

/-- Digits stand between two parts of a text, and no digit stands next to them. -/
structure IsDigitRun (before digits after : List Char) : Prop where
  ne_nil : digits ≠ []
  isDecimal : ∀ c ∈ digits, Text.isDecimal c = true
  before : before.getLast?.any Text.isDecimal = false
  after : after.head?.any Text.isDecimal = false

/-- The word for days, in any case. -/
def IsDayWord (word : List Char) : Prop := IsSpelled "day".toList word ∨ IsSpelled "days".toList word

/-- A text begins with the word for days after blanks, and a word ends there; another text stands before. -/
def NamesDays (before text : List Char) : Prop :=
  ∃ blanks word after, text = blanks ++ (word ++ after) ∧ (∀ c ∈ blanks, Text.isBlank c = true) ∧ IsDayWord word ∧
    IsWordEdge (before ++ (blanks ++ word)) after

/-- A text counts days by the digits that it begins with; another text stands before. -/
def BeginsDayCount (before text digits : List Char) : Prop :=
  ∃ after, text = digits ++ after ∧ IsDigitRun before digits after ∧ NamesDays (before ++ digits) after

/-- A text counts days by some digits; another text stands before. -/
def HasDayCount (before text digits : List Char) : Prop :=
  ∃ skipped rest, text = skipped ++ rest ∧ BeginsDayCount (before ++ skipped) rest digits

section DayCounts

variable {before text word digits part rest : List Char} {c d : Char}

/-! ## Characters of day counts -/

/-- A set of letters in any case holds the characters whose lowercase is one of them. -/
theorem holds_oneOf_points {codes : List Nat} :
    (CharTest.oneOf .unicode false (codes.map .point)).holds c = true ↔ (Text.lowerChar c).toNat ∈ codes := by
  simp [CharTest.holds, SetItem.holds, CaseFold.lower, List.any_eq_true]

/-- A letter of "days", in any case, is no digit. -/
theorem isDecimal_of_holds (hd : d ∈ "days".toList) (h : (CharTest.literal .unicode false d.toNat).holds c = true) :
    Text.isDecimal c = false := by
  have known : ∃ codes : List Nat, CharTest.literal .unicode false d.toNat = .oneOf .unicode false (codes.map .point) ∧
      ∀ code ∈ codes, code ∈ Text.dayLetters := by
    have letters : d = 'd' ∨ d = 'a' ∨ d = 'y' ∨ d = 's' := by simpa using hd
    rcases letters with rfl | rfl | rfl | rfl
    · exact ⟨[0x64], rfl, by decide⟩
    · exact ⟨[0x61], rfl, by decide⟩
    · exact ⟨[0x79], rfl, by decide⟩
    · exact ⟨[0x73, 0x17f], rfl, by decide⟩
  obtain ⟨codes, hliteral, hletters⟩ := known
  rw [hliteral, holds_oneOf_points] at h
  rw [Bool.eq_false_iff]
  exact fun hdecimal => Text.lowerChar_of_isDecimal hdecimal (hletters _ h)

/-- A spelling of letters from the word for days has no digit in it. -/
theorem isDecimal_of_isSpelled {phrase : List Char} (hphrase : phrase ⊆ "days".toList) (h : IsSpelled phrase word) :
    ∀ c ∈ word, Text.isDecimal c = false := by
  induction h with
  | nil => exact fun c hc => absurd hc List.not_mem_nil
  | cons hc _ ih =>
    obtain ⟨hd, hrest⟩ := List.cons_subset.1 hphrase
    exact List.forall_mem_cons.2 ⟨isDecimal_of_holds hd hc, ih hrest⟩

namespace IsDayWord

/-- No word for days has a digit in it. -/
theorem isDecimal (h : IsDayWord word) : ∀ c ∈ word, Text.isDecimal c = false := by
  rcases h with h | h
  · exact isDecimal_of_isSpelled (by decide) h
  · exact isDecimal_of_isSpelled (List.Subset.refl _) h

theorem ne_nil (h : IsDayWord word) : word ≠ [] := by
  rintro rfl
  rcases h with h | h <;> cases h

end IsDayWord

/-- Blanks and a word for days hold no digit. -/
theorem isDecimal_of_blanks_append {blanks : List Char} (hblanks : ∀ c ∈ blanks, Text.isBlank c = true) (hword : IsDayWord word) :
    ∀ c ∈ blanks ++ word, Text.isDecimal c = false := by
  intro c hc
  rcases List.mem_append.1 hc with hc | hc
  · exact Text.isDecimal_of_isBlank (hblanks c hc)
  · exact hword.isDecimal c hc

/-! ## What the pattern matches -/

/-- Decimal digits, at least one. -/
def someDigits : Pattern := many 1 (.char (.oneOf .exact false [.ofClass .digit false false]))

/-- What follows the digits of a day count. -/
def daysAfter : Pattern := .ofSequence (many 0 blank :: words "day" ++ [maybe (character 's'), wordEdge])

/-- The pattern for numbers of days is the group of the digits and what comes after them. -/
theorem dayCount_eq : dayCount = .sequence (.group 1 someDigits) daysAfter := rfl

/-- The group holds one digit or more. -/
theorem matches_someDigits {after : List Char} :
    someDigits.Matches before digits after ↔ digits ≠ [] ∧ ∀ c ∈ digits, Text.isDecimal c = true := by
  simp [someDigits, many, Pattern.Matches, CharTest.holds, SetItem.holds, CharacterClass.holds, CaseFold.lower,
    Nat.one_le_iff_ne_zero]

/-- A row of patterns matches the word for days where a word ends after it. -/
theorem matchInRow_day {before after : List Char} :
    Pattern.MatchInRow (words "day" ++ [maybe (character 's'), wordEdge]) before part after ↔
      IsDayWord part ∧ IsWordEdge (before.reverse ++ part) after := by
  have days : words "day" ++ [character 's'] = words "days" := rfl
  have row : words "day" ++ [maybe (character 's'), wordEdge] = (words "day" ++ [maybe (character 's')]) ++ [wordEdge] := rfl
  rw [row, Pattern.matchInRow_append]
  simp only [matchInRow_maybe, days, matchInRow_words, Pattern.MatchInRow, matches_wordEdge]
  constructor
  · rintro ⟨word, _, rfl, hword, _, _, rfl, ⟨rfl, hedge⟩, rfl⟩
    simp only [List.append_nil]
    exact ⟨hword, by simpa using hedge⟩
  · rintro ⟨hword, hedge⟩
    exact ⟨part, [], by simp, hword, [], [], rfl, ⟨rfl, by simpa using hedge⟩, rfl⟩

/-- After the digits come blanks, if any, and a word for days that ends there. -/
theorem matches_daysAfter {before after : List Char} : daysAfter.Matches before part after ↔
    ∃ blanks word, part = blanks ++ word ∧ (∀ c ∈ blanks, Text.isBlank c = true) ∧ IsDayWord word ∧
      IsWordEdge (before.reverse ++ (blanks ++ word)) after := by
  have blanks_iff {before blanks after : List Char} :
      (many 0 blank).Matches before blanks after ↔ ∀ c ∈ blanks, Text.isBlank c = true := by
    simp [many, blank, Pattern.Matches, CharTest.holds, SetItem.holds, CharacterClass.holds, CaseFold.lower]
  rw [daysAfter, Pattern.matches_ofSequence]
  simp only [List.cons_append, Pattern.MatchInRow, blanks_iff, matchInRow_day]
  constructor
  · rintro ⟨blanks, word, rfl, hblanks, hword, hedge⟩
    exact ⟨blanks, word, rfl, hblanks, hword, by simpa using hedge⟩
  · rintro ⟨blanks, word, rfl, hblanks, hword, hedge⟩
    exact ⟨blanks, word, rfl, hblanks, hword, by simpa using hedge⟩

/-! ## Matches of the pattern -/

/-- There is a match wherever digits stand that name days. -/
theorem exists_matchAt {p : Place} {after : List Char} (htext : p.after = digits ++ after) (hne : digits ≠ [])
    (hdecimal : ∀ c ∈ digits, Text.isDecimal c = true) (hnames : NamesDays (p.before.reverse ++ digits) after) :
    ∃ done, dayCount.matchAt p = some done := by
  obtain ⟨blanks, word, rest, rfl, hblanks, hword, hedge⟩ := hnames
  have hdigits : someDigits.Matches p.before digits (blanks ++ word ++ rest) := matches_someDigits.2 ⟨hne, hdecimal⟩
  have hdays : daysAfter.Matches (digits.reverse ++ p.before) (blanks ++ word) rest := by
    refine matches_daysAfter.2 ⟨blanks, word, rfl, hblanks, hword, ?_⟩
    rwa [List.reverse_append, List.reverse_reverse]
  have hmatches : dayCount.Matches p.before (digits ++ (blanks ++ word)) rest := ⟨digits, blanks ++ word, rfl, hdigits, hdays⟩
  have hpart : p.after = digits ++ (blanks ++ word) ++ rest := by
    rw [htext]
    simp only [List.append_assoc]
  exact Option.isSome_iff_exists.1 ((Pattern.matchAt_isSome_iff (by decide) p).2 ⟨_, rest, hpart, hmatches⟩)

/-- What a match passes: digits that its group holds, and others that name days. -/
structure Finds (p : Place) (done : Progress) (digits part rest : List Char) : Prop where
  text : p.after = digits ++ (part ++ rest)
  ne_nil : digits ≠ []
  isDecimal : ∀ c ∈ digits, Text.isDecimal c = true
  part_ne_nil : part ≠ []
  part_isDecimal : ∀ c ∈ part, Text.isDecimal c = false
  names : NamesDays (p.before.reverse ++ digits) (part ++ rest)
  place : done.place = p.past (digits ++ part) rest
  captured : done.captured? 1 = some digits

/-- What a match of the pattern has found are digits before a word for days. -/
theorem exists_finds {p : Place} (hoffset : p.offset = p.before.length) {done : Progress} (h : dayCount.matchAt p = some done) :
    ∃ digits part rest, Finds p done digits part rest := by
  rw [dayCount_eq] at h
  obtain ⟨digits, part, rest, htext, hdigits, hpart, hplace, hcaptured⟩ :=
    Pattern.matchAt_captures (by decide) (by decide) hoffset h
  obtain ⟨hne, hdecimal⟩ := matches_someDigits.1 hdigits
  obtain ⟨blanks, word, rfl, hblanks, hword, hedge⟩ := matches_daysAfter.1 hpart
  rw [List.reverse_append, List.reverse_reverse] at hedge
  exact ⟨digits, blanks ++ word, rest, htext, hne, hdecimal, List.append_ne_nil_of_right_ne_nil blanks hword.ne_nil,
    isDecimal_of_blanks_append hblanks hword, ⟨blanks, word, rest, List.append_assoc .., hblanks, hword, hedge⟩, hplace, hcaptured⟩

/-! ## Where day counts begin -/

/-- A text that ends in digits ends in a digit. -/
theorem any_getLast?_append (hne : digits ≠ []) (h : ∀ c ∈ digits, Text.isDecimal c = true) :
    (before ++ digits).getLast?.any Text.isDecimal = true := by
  rw [List.getLast?_append_of_ne_nil _ hne, List.getLast?_eq_some_getLast hne]
  exact h _ (List.getLast_mem hne)

/-- A text that ends in other characters does not end in a digit. -/
theorem any_getLast?_append_false (hne : part ≠ []) (h : ∀ c ∈ part, Text.isDecimal c = false) :
    (before ++ part).getLast?.any Text.isDecimal = false := by
  rw [List.getLast?_append_of_ne_nil _ hne, List.getLast?_eq_some_getLast hne]
  exact h _ (List.getLast_mem hne)

/-- Digits that no digit follows are all the digits that a text begins with. -/
theorem IsDigitRun.takeWhile_eq {after : List Char} (h : IsDigitRun before digits after) :
    (digits ++ after).takeWhile Text.isDecimal = digits := by
  rw [List.takeWhile_append_of_pos h.isDecimal]
  cases after with
  | nil => simp
  | cons c rest =>
    have hc : Text.isDecimal c = false := by simpa using h.after
    simp [hc]

/-- A day count begins with a digit that follows no other. -/
theorem BeginsDayCount.first (h : BeginsDayCount before (c :: text) digits) :
    Text.isDecimal c = true ∧ before.getLast?.any Text.isDecimal = false := by
  obtain ⟨after, htext, hrun, -⟩ := h
  obtain ⟨d, ds, rfl⟩ := List.exists_cons_of_ne_nil hrun.ne_nil
  obtain ⟨rfl, -⟩ := List.cons.inj htext
  exact ⟨hrun.isDecimal c List.mem_cons_self, hrun.before⟩

/-- A number of days begins at the first character of a text or further on. -/
theorem hasDayCount_cons : HasDayCount before (c :: text) digits ↔
    BeginsDayCount before (c :: text) digits ∨ HasDayCount (before ++ [c]) text digits := by
  constructor
  · rintro ⟨skipped, rest, htext, hbegins⟩
    cases skipped with
    | nil =>
      obtain rfl : c :: text = rest := htext
      exact .inl (by simpa using hbegins)
    | cons d skipped =>
      obtain ⟨rfl, rfl⟩ := List.cons.inj htext
      exact .inr ⟨skipped, rest, rfl, by simpa using hbegins⟩
  · rintro (hbegins | ⟨skipped, rest, rfl, hbegins⟩)
    · exact ⟨[], c :: text, rfl, by simpa using hbegins⟩
    · exact ⟨c :: skipped, rest, rfl, by simpa using hbegins⟩

/-- If no day count begins within the first part of a text, the day counts are those of the rest. -/
theorem hasDayCount_append (h : ∀ a c b, part = a ++ c :: b → ¬BeginsDayCount (before ++ a) (c :: (b ++ text)) digits) :
    HasDayCount before (part ++ text) digits ↔ HasDayCount (before ++ part) text digits := by
  induction part generalizing before with
  | nil => simp
  | cons c part ih =>
    have here : ¬BeginsDayCount before (c :: (part ++ text)) digits := by simpa using h [] c part rfl
    have further : HasDayCount (before ++ [c]) (part ++ text) digits ↔ HasDayCount (before ++ [c] ++ part) text digits :=
      ih fun a d b hpart => by simpa using h (c :: a) d b (by rw [hpart]; rfl)
    rw [List.cons_append, hasDayCount_cons, or_iff_right here, further, List.append_assoc]
    rfl

/-- No day count begins among digits that follow a digit, nor among other characters. -/
theorem not_beginsDayCount {ds : List Char} (hdigits : ∀ c ∈ d :: ds, Text.isDecimal c = true)
    (hpart : ∀ c ∈ part, Text.isDecimal c = false) {a b : List Char} (hsplit : ds ++ part = a ++ c :: b) :
    ¬BeginsDayCount (before ++ [d] ++ a) (c :: (b ++ rest)) digits := by
  intro hbegins
  obtain ⟨hc, hlast⟩ := hbegins.first
  rcases List.append_eq_append_iff.1 hsplit with ⟨a', rfl, hin⟩ | ⟨c', rfl, hin⟩
  · rw [hpart c (by simp [hin])] at hc
    cases hc
  · cases c' with
    | nil =>
      obtain rfl : c :: b = part := hin
      rw [hpart c List.mem_cons_self] at hc
      cases hc
    | cons e c' =>
      have hbefore : ∀ x ∈ d :: a, Text.isDecimal x = true := fun x hx =>
        hdigits x (List.cons_subset_cons d (List.subset_append_left a _) hx)
      rw [List.append_assoc, List.singleton_append, any_getLast?_append (List.cons_ne_nil d a) hbefore] at hlast
      cases hlast

/-- Where a match begins with a digit that follows no other, its digits count days, and the further day counts are those behind
the match. -/
theorem Finds.hasDayCount_iff {p : Place} {done : Progress} (h : Finds p done digits part rest)
    (hfirst : p.before.reverse.getLast?.any Text.isDecimal = false) (digits' : List Char) :
    HasDayCount p.before.reverse p.after digits' ↔
      digits' = digits ∨ HasDayCount done.place.before.reverse done.place.after digits' := by
  have hhead : (part ++ rest).head?.any Text.isDecimal = false := by
    obtain ⟨c, part', rfl⟩ := List.exists_cons_of_ne_nil h.part_ne_nil
    simpa using h.part_isDecimal c List.mem_cons_self
  have hrun : IsDigitRun p.before.reverse digits (part ++ rest) := ⟨h.ne_nil, h.isDecimal, hfirst, hhead⟩
  have hbegins : BeginsDayCount p.before.reverse (digits ++ (part ++ rest)) digits' ↔ digits' = digits := by
    constructor
    · rintro ⟨after, htext, hrun', -⟩
      rw [← hrun'.takeWhile_eq, ← htext, hrun.takeWhile_eq]
    · rintro rfl
      exact ⟨part ++ rest, rfl, hrun, h.names⟩
  have hbehind : done.place.before.reverse = p.before.reverse ++ (digits ++ part) ∧ done.place.after = rest := by
    rw [h.place]
    simp [Place.past]
  rw [h.text, hbehind.1, hbehind.2]
  obtain ⟨d, ds, rfl⟩ := List.exists_cons_of_ne_nil h.ne_nil
  rw [List.cons_append, hasDayCount_cons, ← List.cons_append, hbegins, ← List.append_assoc,
    hasDayCount_append fun a c b hsplit => not_beginsDayCount h.isDecimal h.part_isDecimal hsplit]
  simp only [List.append_assoc, List.cons_append, List.nil_append]

/-! ## The scan -/

/-- A place of a scan: it lies as far in the text as it tells, and behind no digit. -/
structure IsScanPlace (p : Place) : Prop where
  offset : p.offset = p.before.length
  before : p.before.reverse.getLast?.any Text.isDecimal = false

/-- What lies before a later place is what lay before the earlier one and what has been passed. -/
theorem reverse_before_past (p : Place) (skipped left : List Char) :
    (p.past skipped left).before.reverse = p.before.reverse ++ skipped := by
  simp [Place.past]

/-- A scan goes on from where a match ends. -/
theorem Finds.isScanPlace {p : Place} {done : Progress} (h : Finds p done digits part rest)
    (hoffset : p.offset = p.before.length) : IsScanPlace done.place := by
  rw [h.place]
  constructor
  · simp only [Place.past, List.length_append, List.length_reverse, hoffset]
    omega
  · have hlast : (p.before.reverse ++ digits ++ part).getLast?.any Text.isDecimal = false :=
      any_getLast?_append_false h.part_ne_nil h.part_isDecimal
    simpa [Place.past] using hlast

/-- A search that finds nothing leaves no day count in the text. -/
theorem not_hasDayCount {p : Place} (h : dayCount.searchFrom p.before p.offset p.after = none) (digits : List Char) :
    ¬HasDayCount p.before.reverse p.after digits := by
  rintro ⟨skipped, rest, htext, after, rfl, hrun, hnames⟩
  obtain ⟨done, hdone⟩ : ∃ done, dayCount.matchAt (p.past skipped (digits ++ after)) = some done :=
    exists_matchAt rfl hrun.ne_nil hrun.isDecimal (by rwa [reverse_before_past])
  have hfound := (Pattern.searchFrom_isSome_iff p.before p.offset p.after).2 ⟨skipped, digits ++ after, htext, by
    rw [show Place.mk p.before p.after p.offset = p from rfl, hdone]
    rfl⟩
  rw [h] at hfound
  cases hfound

/-- No digits that name days begin at a place without a match. -/
theorem not_namesDays_of_matchAt {p : Place} {after : List Char} (h : dayCount.matchAt p = none) (htext : p.after = digits ++ after)
    (hne : digits ≠ []) (hdecimal : ∀ c ∈ digits, Text.isDecimal c = true) : ¬NamesDays (p.before.reverse ++ digits) after := by
  intro hnames
  obtain ⟨done, hdone⟩ := exists_matchAt htext hne hdecimal hnames
  rw [h] at hdone
  cases hdone

section Searched

variable {p : Place} {skipped left : List Char}

/-- The digits of the leftmost match follow no digit: with that digit in front they would name days as well. -/
theorem Finds.follows_no_digit {done : Progress} (h : Finds (p.past skipped left) done digits part rest)
    (hbefore : p.before.reverse.getLast?.any Text.isDecimal = false)
    (hnone : ∀ a c b, skipped = a ++ c :: b → dayCount.matchAt (p.past a (c :: (b ++ left))) = none) :
    (p.past skipped left).before.reverse.getLast?.any Text.isDecimal = false := by
  have hleft : left = digits ++ (part ++ rest) := h.text
  have hnames := h.names
  rw [reverse_before_past] at hnames ⊢
  rcases List.eq_nil_or_concat' skipped with rfl | ⟨a, c, rfl⟩
  · simpa using hbefore
  · rw [Bool.eq_false_iff]
    intro hdigit
    have hc : Text.isDecimal c = true := by simpa using hdigit
    have hlonger : (p.past a (c :: ([] ++ left))).after = (c :: digits) ++ (part ++ rest) := congrArg (List.cons c) hleft
    refine not_namesDays_of_matchAt (hnone a c [] rfl) hlonger (List.cons_ne_nil c digits)
      (List.forall_mem_cons.2 ⟨hc, h.isDecimal⟩) ?_
    rw [reverse_before_past]
    simpa using hnames

/-- In front of the leftmost match no day count begins. -/
theorem hasDayCount_skipped (htext : p.after = skipped ++ left)
    (hnone : ∀ a c b, skipped = a ++ c :: b → dayCount.matchAt (p.past a (c :: (b ++ left))) = none) :
    HasDayCount p.before.reverse p.after digits ↔ HasDayCount (p.past skipped left).before.reverse left digits := by
  rw [reverse_before_past, htext]
  refine hasDayCount_append fun a c b hsplit => ?_
  rintro ⟨after, hrest, hrun, hnames⟩
  refine not_namesDays_of_matchAt (hnone a c b hsplit) hrest hrun.ne_nil hrun.isDecimal ?_
  rwa [reverse_before_past]

end Searched

/-- What a search finds is a day count, and the further day counts are those behind it. -/
theorem exists_of_searchFrom {p q : Place} (hp : IsScanPlace p) {done : Progress}
    (h : dayCount.searchFrom p.before p.offset p.after = some (q, done)) :
    IsScanPlace done.place ∧ p.offset < done.place.offset ∧ done.place.after.length < p.after.length ∧
      ∃ digits, done.captured? 1 = some digits ∧ ∀ digits', HasDayCount p.before.reverse p.after digits' ↔
        digits' = digits ∨ HasDayCount done.place.before.reverse done.place.after digits' := by
  obtain ⟨skipped, left, htext, rfl, hmatch, hnone⟩ := Pattern.searchFrom_eq_some h
  have hoffset : (p.past skipped left).offset = (p.past skipped left).before.length := by
    simp [Place.past, hp.offset, Nat.add_comm]
  obtain ⟨digits, part, rest, hfinds⟩ := exists_finds hoffset hmatch
  have hleft : left = digits ++ (part ++ rest) := hfinds.text
  have hfirst := hfinds.follows_no_digit hp.before hnone
  have hlength := List.length_pos_iff.2 hfinds.ne_nil
  refine ⟨hfinds.isScanPlace hoffset, ?_, ?_, digits, hfinds.captured, fun digits' =>
    (hasDayCount_skipped htext hnone).trans (hfinds.hasDayCount_iff hfirst digits')⟩
  · simp only [hfinds.place, Place.past, List.length_append]
    omega
  · simp only [hfinds.place, Place.past, htext, hleft, List.length_append]
    omega

/-- A scan finds the day counts from its place on. -/
theorem exists_mem_allFrom_iff (fuel : Nat) : ∀ p, IsScanPlace p → p.after.length < fuel →
    (∀ found ∈ dayCount.allFrom fuel p, ∃ digits, found.captured? 1 = some digits) ∧
      ∀ digits, (∃ found ∈ dayCount.allFrom fuel p, found.captured? 1 = some digits) ↔
        HasDayCount p.before.reverse p.after digits := by
  induction fuel with
  | zero => exact fun _ _ h => absurd h (Nat.not_lt_zero _)
  | succ fuel ih =>
    intro p hp hfuel
    rw [Pattern.allFrom]
    cases hsearch : dayCount.searchFrom p.before p.offset p.after with
    | none => simp [not_hasDayCount hsearch]
    | some found =>
      obtain ⟨q, done⟩ := found
      obtain ⟨hdone, hoffset, hlength, digits, hcaptured, hcounts⟩ := exists_of_searchFrom hp hsearch
      obtain ⟨hgroups, hbehind⟩ := ih done.place hdone (by omega)
      simp only [if_neg hoffset.ne', List.forall_mem_cons, List.exists_mem_cons_iff, hcaptured, hbehind, hcounts]
      refine ⟨⟨⟨digits, rfl⟩, hgroups⟩, fun digits' => ?_⟩
      rw [Option.some_inj, eq_comm]

/-- The matches in a text hold its day counts. -/
theorem exists_mem_allIn_iff (text : String) :
    (∀ found ∈ dayCount.allIn text, ∃ digits, found.captured? 1 = some digits) ∧
      ∀ digits, (∃ found ∈ dayCount.allIn text, found.captured? 1 = some digits) ↔ HasDayCount [] text.toList digits :=
  exists_mem_allFrom_iff (text.length + 1) (.start text.toList) ⟨rfl, rfl⟩ (by
    rw [Place.start, String.length_toList]
    exact Nat.lt_succ_self _)

end DayCounts

end Phrase

end RegulatoryTrees
