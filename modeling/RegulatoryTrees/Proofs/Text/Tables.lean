import RegulatoryTrees.Pattern.Matching

/-!
# Character tables

What a search in a table finds, whatever the table holds: a code point of a set lies in one of its ranges, and one that is moved
lies in a run that moves it; whether a given code point is in a set can be told from the distances between the edges alone
(`contains_ofGaps`). The ranges and runs of the tables tell characters apart that patterns look for in a row: decimal
digits, blanks, and letters in any case (`isDecimal_of_isBlank`, `lowerChar_of_isDecimal`).
-/

namespace RegulatoryTrees.Text

/-! ## Sets -/

namespace RangeSet

/-- The index that a search gives is between the two it is given; unless it is one of these, the edge before it lies at or below
the code point and the edge there above it. -/
theorem countUpTo_spec (edges : Array Nat) (c lo hi : Nat) (h : lo ≤ hi) :
    lo ≤ countUpTo edges c lo hi ∧ countUpTo edges c lo hi ≤ hi ∧
      (lo < countUpTo edges c lo hi → edges.getD (countUpTo edges c lo hi - 1) 0 ≤ c) ∧
      (countUpTo edges c lo hi < hi → c < edges.getD (countUpTo edges c lo hi) 0) := by
  fun_induction countUpTo edges c lo hi with
  | case1 lo hi hlt mid hle ih =>
    obtain ⟨hlo, hhi, hbelow, habove⟩ := ih (by omega)
    refine ⟨by omega, hhi, fun _ => ?_, habove⟩
    rcases Nat.eq_or_lt_of_le hlo with heq | hlo
    · rwa [← heq, Nat.add_sub_cancel]
    · exact hbelow hlo
  | case2 lo hi hlt mid hgt ih =>
    obtain ⟨hlo, hhi, hbelow, habove⟩ := ih (by omega)
    refine ⟨hlo, by omega, hbelow, fun _ => ?_⟩
    rcases Nat.eq_or_lt_of_le hhi with heq | hhi
    · rw [heq]
      exact Nat.lt_of_not_le hgt
    · exact habove hhi
  | case3 lo hi hge => exact ⟨Nat.le_refl _, h, fun hlt => absurd hlt (Nat.lt_irrefl _), fun hlt => absurd hlt hge⟩

/-- The ranges between edges, from every other edge to the next. -/
def rangesOf : List Nat → List (Nat × Nat)
  | first :: next :: rest => (first, next) :: rangesOf rest
  | _ => []

/-- The ranges of a set, each with the first code point beyond it. -/
def ranges (s : RangeSet) : List (Nat × Nat) := rangesOf s.edges.toList

/-- Every second edge begins a range that the next edge ends. -/
theorem mem_rangesOf (edges : List Nat) (i : Nat) (h : 2 * i + 1 < edges.length) :
    (edges[2 * i], edges[2 * i + 1]) ∈ rangesOf edges := by
  induction i generalizing edges with
  | zero =>
    match edges with
    | first :: next :: rest => exact List.mem_cons_self
  | succ i ih =>
    match edges with
    | first :: next :: rest => exact List.mem_cons_of_mem _ (ih rest (by simp only [List.length_cons] at h; omega))

/-- Where an odd number of edges lies at or below a code point, one of the ranges holds it. -/
theorem exists_mem_ranges {s : RangeSet} {c : Nat} (heven : s.edges.size % 2 = 0)
    (h : countUpTo s.edges c 0 s.edges.size % 2 = 1) : ∃ r ∈ s.ranges, r.1 ≤ c ∧ c < r.2 := by
  obtain ⟨-, hsize, hbelow, habove⟩ := countUpTo_spec s.edges c 0 s.edges.size (Nat.zero_le _)
  generalize hn : countUpTo s.edges c 0 s.edges.size = n at h hsize hbelow habove
  obtain ⟨i, rfl⟩ : ∃ i, n = 2 * i + 1 := ⟨n / 2, by omega⟩
  have hlt : 2 * i + 1 < s.edges.size := by omega
  have hlast : s.edges.getD (2 * i) 0 ≤ c := hbelow (by omega)
  have hnext : c < s.edges.getD (2 * i + 1) 0 := habove hlt
  refine ⟨_, mem_rangesOf s.edges.toList i (by simpa using hlt), ?_, ?_⟩
  · simpa [Array.getD, show 2 * i < s.edges.size by omega] using hlast
  · simpa [Array.getD, hlt] using hnext

/-- The edges that lie at the given distances from one another, the first one from the edge before. -/
def edgesFrom (last : Nat) : List Nat → List Nat
  | [] => []
  | gap :: gaps => (last + gap) :: edgesFrom (last + gap) gaps

/-- The number of distances that a code point covers, one after the other. -/
def countGaps (c : Nat) : List Nat → Nat
  | [] => 0
  | gap :: gaps => if gap ≤ c then countGaps (c - gap) gaps + 1 else 0

/-- The edges of a set are the running sums of its gaps. -/
theorem edges_ofGaps (text : String) : (ofGaps text).edges.toList = edgesFrom 0 ((numbersOf text).map Int.toNat) := by
  suffices h : ∀ (gaps : List Int) (edges : Array Nat) (last : Nat),
      (gaps.foldl (fun s gap => (s.1.push (s.2 + gap.toNat), s.2 + gap.toNat)) (edges, last)).1.toList =
        edges.toList ++ edgesFrom last (gaps.map Int.toNat) from h _ #[] 0
  intro gaps
  induction gaps with
  | nil => simp [edgesFrom]
  | cons gap gaps ih =>
    intro edges last
    rw [List.foldl_cons, ih, List.map_cons, edgesFrom]
    simp

/-- No edge lies before the one from which the gaps are counted. -/
theorem le_of_mem_edgesFrom {last e : Nat} {gaps : List Nat} (h : e ∈ edgesFrom last gaps) : last ≤ e := by
  induction gaps generalizing last with
  | nil => exact absurd h List.not_mem_nil
  | cons gap gaps ih =>
    rcases List.mem_cons.1 h with rfl | h
    · exact Nat.le_add_right _ _
    · exact Nat.le_trans (Nat.le_add_right _ _) (ih h)

/-- The edges of a set are in order. -/
theorem pairwise_edgesFrom (last : Nat) (gaps : List Nat) : (edgesFrom last gaps).Pairwise (· ≤ ·) := by
  induction gaps generalizing last with
  | nil => exact .nil
  | cons gap gaps ih => exact .cons (fun e he => le_of_mem_edgesFrom he) (ih _)

/-- The edges up to a code point are as many as the gaps that fit below it. -/
theorem countP_edgesFrom {last c : Nat} (h : last ≤ c) (gaps : List Nat) :
    (edgesFrom last gaps).countP (· ≤ c) = countGaps (c - last) gaps := by
  induction gaps generalizing last with
  | nil => rfl
  | cons gap gaps ih =>
    rw [edgesFrom, countGaps]
    by_cases hgap : gap ≤ c - last
    · rw [if_pos hgap, List.countP_cons_of_pos (by simp; omega), ih (by omega), Nat.sub_add_eq]
    · rw [if_neg hgap, List.countP_eq_zero]
      intro e he
      have hle : last + gap ≤ e := by
        rcases List.mem_cons.1 he with rfl | he
        · exact Nat.le_refl _
        · exact le_of_mem_edgesFrom he
      simp
      omega

/-- In ascending order, the edges before the first one above a code point are all those at or below it. -/
theorem countP_eq_of_pairwise {edges : List Nat} {c n : Nat} (h : edges.Pairwise (· ≤ ·)) (hn : n ≤ edges.length)
    (hbelow : 0 < n → edges.getD (n - 1) 0 ≤ c) (habove : n < edges.length → c < edges.getD n 0) : edges.countP (· ≤ c) = n := by
  induction edges generalizing n with
  | nil => exact (Nat.le_zero.1 hn).symm
  | cons e edges ih =>
    obtain ⟨hfirst, hrest⟩ := List.pairwise_cons.1 h
    match n with
    | 0 =>
      have hlt : c < e := habove (Nat.succ_pos _)
      refine List.countP_eq_zero.2 fun e' he' => ?_
      rcases List.mem_cons.1 he' with rfl | he'
      · simpa using hlt
      · simpa using Nat.lt_of_lt_of_le hlt (hfirst e' he')
    | n + 1 =>
      have hle : e ≤ c := by
        refine Nat.le_trans ?_ (hbelow (Nat.succ_pos _))
        match n with
        | 0 => exact Nat.le_refl _
        | n + 1 =>
          have hlt : n < edges.length := Nat.le_of_succ_le_succ hn
          simpa [hlt] using hfirst _ (List.getElem_mem hlt)
      rw [List.countP_cons_of_pos (by simpa using hle), ih hrest (Nat.le_of_succ_le_succ hn)]
      · intro hpos
        match n with
        | n + 1 => exact hbelow (Nat.succ_pos _)
      · exact fun hlt => habove (Nat.succ_lt_succ hlt)

/-- A code point is in a set if it covers an odd number of the distances between the edges. -/
theorem contains_ofGaps (text : String) (c : Nat) :
    (ofGaps text).contains c = (countGaps c ((numbersOf text).map Int.toNat) % 2 == 1) := by
  have hsorted : (ofGaps text).edges.toList.Pairwise (· ≤ ·) := edges_ofGaps text ▸ pairwise_edgesFrom 0 _
  obtain ⟨-, hsize, hbelow, habove⟩ := countUpTo_spec (ofGaps text).edges c 0 (ofGaps text).edges.size (Nat.zero_le _)
  simp only [Array.getD_eq_getD_getElem?, ← Array.getElem?_toList, ← List.getD_eq_getElem?_getD] at hbelow habove
  rw [contains, ← countP_eq_of_pairwise hsorted hsize hbelow habove, edges_ofGaps, countP_edgesFrom (Nat.zero_le c), Nat.sub_zero]

end RangeSet

/-! ## Shifts -/

namespace ShiftTable

/-- The search for runs ends between its bounds, behind a run that begins at or below the code point. -/
theorem countUpTo_spec (shifts : Array Shift) (c lo hi : Nat) (h : lo ≤ hi) :
    lo ≤ countUpTo shifts c lo hi ∧
      (lo < countUpTo shifts c lo hi → (shifts[countUpTo shifts c lo hi - 1]?.map Shift.first).getD 0 ≤ c) := by
  fun_induction countUpTo shifts c lo hi with
  | case1 lo hi hlt mid hle ih =>
    obtain ⟨hlo, hbelow⟩ := ih (by omega)
    refine ⟨by omega, fun _ => ?_⟩
    rcases Nat.eq_or_lt_of_le hlo with heq | hlo
    · rwa [← heq, Nat.add_sub_cancel]
    · exact hbelow hlo
  | case2 lo hi hlt mid hgt ih => exact ih (by omega)
  | case3 lo hi hge => exact ⟨Nat.le_refl _, fun hlt => absurd hlt (Nat.lt_irrefl _)⟩

/-- A code point that moves lies in a run that moves it. -/
theorem exists_of_image? {t : ShiftTable} {c target : Nat} (h : t.image? c = some target) :
    ∃ run ∈ t.shifts.toList, run.first ≤ c ∧ c ≤ run.last ∧ ((c : Int) + run.distance).toNat = target := by
  unfold image? at h
  obtain ⟨-, hbelow⟩ := countUpTo_spec t.shifts c 0 t.shifts.size (Nat.zero_le _)
  generalize countUpTo t.shifts c 0 t.shifts.size = n at h hbelow
  dsimp only at h
  split at h
  · cases h
  · next hne =>
    obtain ⟨run, hrun, h⟩ := Option.bind_eq_some_iff.1 h
    split at h
    · next hin =>
      have hfirst := hbelow (Nat.pos_of_ne_zero hne)
      rw [hrun, Option.map_some, Option.getD_some] at hfirst
      rw [Bool.and_eq_true, decide_eq_true_iff] at hin
      exact ⟨run, Array.mem_toList_iff.2 (Array.mem_of_getElem? hrun), hfirst, hin.1, Option.some.inj h⟩
    · cases h

end ShiftTable

/-! ## The tables of digits, blanks and lowercase letters -/

set_option maxRecDepth 20000 in
/-- The ranges of decimal digits and those of blanks have no code point in common; nor do the digits have the long s. A list of
characters is evaluated with ease, a text is not. -/
theorem ranges_decimalTable :
    decimalTable.edges.size % 2 = 0 ∧ blankTable.edges.size % 2 = 0 ∧
      (∀ r ∈ decimalTable.ranges, ∀ q ∈ blankTable.ranges, r.2 ≤ q.1 ∨ q.2 ≤ r.1) ∧
      ∀ r ∈ decimalTable.ranges, r.2 ≤ 0x17f ∨ 0x17f < r.1 := by
  obtain ⟨cs, ds, hdecimal, hblank, h⟩ : ∃ cs ds, decimalTable = .ofGaps (.ofList cs) ∧ blankTable = .ofGaps (.ofList ds) ∧
      (RangeSet.ofGaps (.ofList cs)).edges.size % 2 = 0 ∧ (RangeSet.ofGaps (.ofList ds)).edges.size % 2 = 0 ∧
      (∀ r ∈ (RangeSet.ofGaps (.ofList cs)).ranges, ∀ q ∈ (RangeSet.ofGaps (.ofList ds)).ranges, r.2 ≤ q.1 ∨ q.2 ≤ r.1) ∧
      ∀ r ∈ (RangeSet.ofGaps (.ofList cs)).ranges, r.2 ≤ 0x17f ∨ 0x17f < r.1 := by
    refine ⟨_, _, rfl, rfl, ?_⟩
    rw [RangeSet.ofGaps, RangeSet.ofGaps, numbersOf, numbersOf, String.toList_ofList, String.toList_ofList]
    decide +kernel
  rw [hdecimal, hblank]
  exact h

/-- The lowercase letters of "days", and the long s, which is alike to the last of them. -/
def dayLetters : List Nat := [0x64, 0x61, 0x79, 0x73, 0x17f]

/-- A run moves a character beyond ASCII to one of these letters. -/
def Shift.meetsDayLetters (run : Shift) : Bool :=
  dayLetters.any fun letter =>
    let source := (letter : Int) - run.distance
    128 ≤ source && run.first ≤ source && source ≤ run.last

set_option maxRecDepth 20000 in
/-- Beyond ASCII no character has one of these letters for its lowercase. -/
theorem shifts_lowerTable : ∀ run ∈ lowerTable.shifts.toList, run.meetsDayLetters = false := by
  obtain ⟨cs, hlower, h⟩ : ∃ cs, lowerTable = .ofNumbers (.ofList cs) ∧
      (ShiftTable.ofNumbers (.ofList cs)).shifts.toList.any Shift.meetsDayLetters = false := by
    refine ⟨_, rfl, ?_⟩
    rw [ShiftTable.ofNumbers, numbersOf, String.toList_ofList]
    decide +kernel
  rw [hlower]
  exact fun run hrun => Bool.eq_false_iff.2 (List.any_eq_false.1 h run hrun)

/-! ## Characters -/

section Characters

variable {c : Char}

/-- The digits of the numerals are ten code points in a row. -/
theorem isAsciiDigit_iff : isAsciiDigit c = true ↔ 48 ≤ c.toNat ∧ c.toNat ≤ 57 := by
  simp only [isAsciiDigit, Bool.and_eq_true, decide_eq_true_iff, Char.le_def]
  exact Iff.rfl

/-- A decimal digit is one of the ASCII digits or lies in a range of the table. -/
theorem isDecimal_cases (h : isDecimal c = true) :
    (48 ≤ c.toNat ∧ c.toNat ≤ 57) ∨ 128 ≤ c.toNat ∧ ∃ r ∈ decimalTable.ranges, r.1 ≤ c.toNat ∧ c.toNat < r.2 := by
  rw [isDecimal, digitValue?] at h
  split at h
  · left
    split at h
    · next hdigit => exact isAsciiDigit_iff.1 hdigit
    · cases h
  · next hascii =>
    refine .inr ⟨Nat.le_of_not_lt hascii, RangeSet.exists_mem_ranges ranges_decimalTable.1 ?_⟩
    rw [Option.isSome_map, RangeSet.startOf?] at h
    split at h
    · next hodd => simpa using hodd
    · cases h

/-- A blank is no decimal digit. -/
theorem isDecimal_of_isBlank (h : isBlank c = true) : isDecimal c = false := by
  rw [Bool.eq_false_iff]
  intro hdecimal
  rw [isBlank] at h
  rcases isDecimal_cases hdecimal with ⟨hlow, hhigh⟩ | ⟨hbeyond, r, hr, hfirst, hlast⟩
  · rw [if_pos (by omega)] at h
    have hspace : c ≠ ' ' := by
      rintro rfl
      exact absurd hlow (by decide)
    simp [hspace] at h
    omega
  · rw [if_neg (by omega), RangeSet.contains, beq_iff_eq] at h
    obtain ⟨q, hq, hfirst', hlast'⟩ := RangeSet.exists_mem_ranges ranges_decimalTable.2.1 h
    have := ranges_decimalTable.2.2.1 r hr q hq
    omega

/-- The lowercase of a decimal digit is none of these letters. -/
theorem lowerChar_of_isDecimal (h : isDecimal c = true) : (lowerChar c).toNat ∉ dayLetters := by
  rw [lowerChar]
  rcases isDecimal_cases h with ⟨hlow, hhigh⟩ | ⟨hbeyond, r, hr, hfirst, hlast⟩
  · have hletter : ¬('A' ≤ c ∧ c ≤ 'Z') := by
      rintro ⟨hletter, -⟩
      have : 65 ≤ c.toNat := hletter
      omega
    rw [if_pos (by omega), if_neg (by simpa using hletter)]
    simp only [dayLetters, List.mem_cons, List.not_mem_nil, or_false]
    omega
  · rw [if_neg (by omega)]
    cases himage : lowerTable.image? c.toNat with
    | none =>
      have hlong := ranges_decimalTable.2.2.2 r hr
      simp only [Option.map_none, Option.getD_none, dayLetters, List.mem_cons, List.not_mem_nil, or_false]
      omega
    | some target =>
      obtain ⟨run, hrun, hfirst, hlast, hmoved⟩ := ShiftTable.exists_of_image? himage
      intro hmem
      have htarget : target ∈ dayLetters := by
        rw [Option.map_some, Option.getD_some, Char.ofNat] at hmem
        by_cases hvalid : target.isValidChar
        · rw [dif_pos hvalid] at hmem
          exact hmem
        · rw [dif_neg hvalid] at hmem
          exact absurd hmem (by decide)
      have hpos : 0 < target := by
        rcases Nat.eq_zero_or_pos target with rfl | hpos
        · exact absurd htarget (by decide)
        · exact hpos
      have hmeets : run.meetsDayLetters = true := by
        refine List.any_eq_true.2 ⟨target, htarget, ?_⟩
        simp only [Bool.and_eq_true, decide_eq_true_iff]
        omega
      rw [shifts_lowerTable run hrun] at hmeets
      cases hmeets

end Characters

end RegulatoryTrees.Text
