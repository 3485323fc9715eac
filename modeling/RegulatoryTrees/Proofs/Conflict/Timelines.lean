import Mathlib.Data.List.Sort
import Mathlib.Data.Nat.Digits.Defs
import Mathlib.Order.Bounds.Defs
import RegulatoryTrees.Proofs.Conflict.DayCounts
import RegulatoryTrees.Proofs.Conflict.Seams

/-!
# Timelines that lie apart

A jurisdiction names the numbers of days that the obligations of its rules count, in any order. The greatest of them is what
counts: between two jurisdictions there is exactly one timeline conflict if their greatest numbers of days lie fifteen or more
apart, and none otherwise (`timelineConflicts_iff`).
-/

namespace RegulatoryTrees

/-! ## Numerals -/

/-- The number that decimal digits of any script stand for, the first one highest. -/
def Decimal.value (digits : List Char) : Nat := Nat.ofDigits 10 (digits.reverse.map fun c => (Text.digitValue? c).getD 0)

/-- A numeral that is not too long is read as the number that it stands for. -/
theorem Decimal.read_eq {digits : List Char} (h : digits.length ≤ digitLimit) : read digits = .ok (value digits) := by
  have fold : digits.foldl (fun n c => 10 * n + (Text.digitValue? c).getD 0) 0 = value digits := by
    rw [value, Nat.ofDigits_eq_foldr, List.foldl_eq_foldr_reverse, List.foldr_map]
    simp only [Nat.cast_id, Nat.add_comm]
  rw [read, if_neg (Nat.not_lt_of_le h), fold]

namespace Verdict

variable {α : Type} {verdicts : List Verdict} {v : Verdict} {j k : String} {n : Nat}

/-! ## Numbers of days -/

/-- The day counts of some obligations are short enough to be read. -/
def HasShortDayCounts (verdicts : List Verdict) : Prop :=
  ∀ v ∈ verdicts, ∀ obligation ∈ v.leaf.obligations, ∀ digits, Phrase.HasDayCount [] obligation.toList digits →
    digits.length ≤ Decimal.digitLimit

/-- The numbers of days that an obligation counts. -/
def daysOf (obligation : String) : Set Nat :=
  {n | ∃ digits, Phrase.HasDayCount [] obligation.toList digits ∧ Decimal.value digits = n}

/-- The numbers of days that the rules of a jurisdiction count in their obligations. -/
def days (verdicts : List Verdict) (j : String) : Set Nat :=
  {n | ∃ v ∈ verdicts, v.jurisdiction = j ∧ ∃ obligation ∈ v.leaf.obligations, n ∈ daysOf obligation}

/-- If the numerals of an obligation are short enough, its numbers of days are read, all of them and no others. -/
theorem exists_dayCounts {obligation : String}
    (h : ∀ digits, Phrase.HasDayCount [] obligation.toList digits → digits.length ≤ Decimal.digitLimit) :
    ∃ counts, dayCounts obligation = .ok counts ∧ ∀ n, n ∈ counts ↔ n ∈ daysOf obligation := by
  obtain ⟨hgroups, hcounts⟩ := Phrase.exists_mem_allIn_iff obligation
  refine ⟨_, Except.mapM_eq_ok_map (g := fun found => Decimal.value ((found.captured? 1).getD [])) ?_, ?_⟩
  · intro found hfound
    obtain ⟨digits, hdigits⟩ := hgroups found hfound
    rw [hdigits]
    exact Decimal.read_eq (h digits ((hcounts digits).1 ⟨found, hfound, hdigits⟩))
  · intro n
    rw [List.mem_map]
    constructor
    · rintro ⟨found, hfound, rfl⟩
      obtain ⟨digits, hdigits⟩ := hgroups found hfound
      exact ⟨digits, (hcounts digits).1 ⟨found, hfound, hdigits⟩, by rw [hdigits]; rfl⟩
    · rintro ⟨digits, hdigits, rfl⟩
      obtain ⟨found, hfound, hcaptured⟩ := (hcounts digits).2 hdigits
      exact ⟨found, hfound, by rw [hcaptured]; rfl⟩

/-- If the numerals of a verdict are short enough, the numbers of days of its obligations are read. -/
theorem exists_allDayCounts (h : ∀ obligation ∈ v.leaf.obligations, ∀ digits,
    Phrase.HasDayCount [] obligation.toList digits → digits.length ≤ Decimal.digitLimit) :
    ∃ counts, v.allDayCounts = .ok counts ∧ ∀ n, n ∈ counts ↔ ∃ obligation ∈ v.leaf.obligations, n ∈ daysOf obligation := by
  have read (obligation : String) (ho : obligation ∈ v.leaf.obligations) :=
    exists_dayCounts (h obligation ho)
  have hmapM : v.leaf.obligations.mapM dayCounts =
      .ok (v.leaf.obligations.map fun obligation => (dayCounts obligation).toOption.getD []) := by
    refine Except.mapM_eq_ok_map fun obligation ho => ?_
    obtain ⟨counts, hcounts, -⟩ := read obligation ho
    rw [hcounts]
    rfl
  refine ⟨_, by rw [allDayCounts, hmapM]; rfl, fun n => ?_⟩
  simp only [List.mem_flatten, List.mem_map]
  constructor
  · rintro ⟨_, ⟨obligation, ho, rfl⟩, hn⟩
    obtain ⟨counts, hcounts, hmem⟩ := read obligation ho
    rw [hcounts] at hn
    exact ⟨obligation, ho, (hmem n).1 hn⟩
  · rintro ⟨obligation, ho, hn⟩
    obtain ⟨counts, hcounts, hmem⟩ := read obligation ho
    exact ⟨_, ⟨obligation, ho, rfl⟩, by rw [hcounts]; exact (hmem n).2 hn⟩

/-- Short numerals can be read. -/
theorem hasReadableDayCounts (h : HasShortDayCounts verdicts) : HasReadableDayCounts verdicts := by
  intro v hv
  obtain ⟨counts, hcounts, -⟩ := exists_allDayCounts (h v hv)
  exact ⟨counts, hcounts⟩

/-- What is read of a verdict are the days that its obligations name. -/
theorem mem_dayCountsRead (h : HasShortDayCounts verdicts) (hv : v ∈ verdicts) :
    n ∈ v.dayCountsRead ↔ ∃ obligation ∈ v.leaf.obligations, n ∈ daysOf obligation := by
  obtain ⟨counts, hcounts, hmem⟩ := exists_allDayCounts (h v hv)
  rw [dayCountsRead, hcounts]
  exact hmem n

/-- The numbers of days of a jurisdiction are those read from its own verdicts. -/
theorem mem_flatMap_dayCountsRead (h : HasShortDayCounts verdicts) :
    n ∈ (ofJurisdiction verdicts j).flatMap dayCountsRead ↔ n ∈ days verdicts j := by
  simp only [List.mem_flatMap, ofJurisdiction, List.mem_filter, beq_iff_eq]
  constructor
  · rintro ⟨v, ⟨hv, hj⟩, hn⟩
    exact ⟨v, hv, hj, (mem_dayCountsRead h hv).1 hn⟩
  · rintro ⟨v, hv, hj, hn⟩
    exact ⟨v, ⟨hv, hj⟩, (mem_dayCountsRead h hv).2 hn⟩

/-- What counts for a jurisdiction is its greatest number of days. -/
theorem greatestDayCount_eq_some (h : HasShortDayCounts verdicts) :
    greatestDayCount (ofJurisdiction verdicts j) = some n ↔ IsGreatest (days verdicts j) n := by
  rw [greatestDayCount, List.max?_eq_some_iff]
  simp only [mem_flatMap_dayCountsRead h]
  rfl

/-- A jurisdiction that names days names a greatest number of them. -/
theorem exists_isGreatest (h : HasShortDayCounts verdicts) (hne : (days verdicts j).Nonempty) :
    ∃ n, IsGreatest (days verdicts j) n := by
  cases hgreatest : greatestDayCount (ofJurisdiction verdicts j) with
  | some n => exact ⟨n, (greatestDayCount_eq_some h).1 hgreatest⟩
  | none =>
    obtain ⟨n, hn⟩ := hne
    rw [greatestDayCount, List.max?_eq_none_iff] at hgreatest
    rw [← mem_flatMap_dayCountsRead h, hgreatest] at hn
    exact absurd hn List.not_mem_nil

/-- The position that a jurisdiction takes on timelines is the greatest number of days that it names. -/
theorem mem_positions_greatest (h : HasShortDayCounts verdicts) :
    (j, n) ∈ positions greatestDayCount verdicts ↔ IsGreatest (days verdicts j) n := by
  rw [mem_positions_iff, greatestDayCount_eq_some h, and_iff_right_iff_imp]
  rintro ⟨⟨v, hv, hj, -⟩, -⟩
  exact mem_jurisdictions.2 ⟨v, hv, hj⟩

/-! ## Conflicts between two jurisdictions -/

section Compared

variable {position : List Verdict → Option α} {compare : (String × α) × String × α → List Conflict} {kind : ConflictKind}
  {x y : α}

/-- If two jurisdictions take a position each, these are the positions among their verdicts. -/
theorem positions_ofPair (hlt : j < k) (hx : (j, x) ∈ positions position verdicts) (hy : (k, y) ∈ positions position verdicts) :
    positions position (ofPair verdicts j k) = [(j, x), (k, y)] := by
  have : Std.Antisymm fun a b : String × α => a.1 < b.1 := ⟨fun a b hab hba => absurd hba (lt_asymm hab)⟩
  have : Std.Irrefl fun a b : String × α => a.1 < b.1 := ⟨fun a => lt_irrefl a.1⟩
  refine (pairwise_positions position _).eq_of_mem_iff (List.pairwise_pair.2 hlt) fun ⟨name, z⟩ => ?_
  rw [ofPair, positions_filter, List.mem_filter, List.mem_pair]
  constructor
  · rintro ⟨hz, hname⟩
    have unique {w : α} (hw : (name, w) ∈ positions position verdicts) : (name, z) = (name, w) := by
      rw [Option.some.inj ((mem_positions_iff.1 hz).2.symm.trans (mem_positions_iff.1 hw).2)]
    rw [isEither, Bool.or_eq_true, beq_iff_eq, beq_iff_eq] at hname
    rcases hname with rfl | rfl
    · exact .inl (unique hx)
    · exact .inr (unique hy)
  · rintro (⟨⟨⟩⟩ | ⟨⟨⟩⟩)
    · exact ⟨hx, by simp [isEither]⟩
    · exact ⟨hy, by simp [isEither]⟩

/-- What is found between two jurisdictions that take a position each is what comparing these yields. -/
theorem filter_compared_eq (hyields : Yields kind compare) (hlt : j < k) (hx : (j, x) ∈ positions position verdicts)
    (hy : (k, y) ∈ positions position verdicts) :
    (compared position compare verdicts).filter (·.isBetween j k) = compare ((j, x), k, y) := by
  rw [filter_compared hyields, compared, positions_ofPair hlt hx hy]
  simp [pairsOf]

/-- What is found between two jurisdictions comes from a position of each. -/
theorem exists_of_isBetween (hyields : Yields kind compare) (hlt : j < k) {c : Conflict}
    (hc : c ∈ compared position compare verdicts) (hbetween : c.isBetween j k) :
    ∃ x y, (j, x) ∈ positions position verdicts ∧ (k, y) ∈ positions position verdicts ∧ c ∈ compare ((j, x), k, y) := by
  obtain ⟨j', x, k', y, hlt', hx, hy, hc⟩ := mem_compared_iff.1 hc
  have named := (hyields (j', x) (k', y) c hc).2
  rw [Conflict.isBetween, named.first, named.second] at hbetween
  simp only [Bool.or_eq_true, Bool.and_eq_true, beq_iff_eq] at hbetween
  rcases hbetween with ⟨rfl, rfl⟩ | ⟨rfl, rfl⟩
  · exact ⟨x, y, hx, hy, hc⟩
  · exact absurd hlt' (lt_asymm hlt)

end Compared

/-! ## Timeline conflicts -/

/-- The greatest numbers of days of two jurisdictions lie fifteen or more apart. -/
def LieApart (verdicts : List Verdict) (j k : String) (m n : Nat) : Prop :=
  IsGreatest (days verdicts j) m ∧ IsGreatest (days verdicts k) n ∧ 15 ≤ ((m : Int) - n).natAbs

/-- A conflict between two numbers of days names both. -/
structure IsTimelineBetween (c : Conflict) (j k : String) (m n : Nat) : Prop where
  kind : c.kind = .timeline
  first : c.first = j
  second : c.second = k
  description : c.description = "Timeline difference: " ++ j ++ " requires " ++ Decimal.ofNat m ++ " days, " ++ k ++ " requires " ++
    Decimal.ofNat n ++ " days"

/-- Two numbers of days make a conflict if they lie fifteen or more apart. -/
theorem timelineConflict?_cases (j k : String) (m n : Nat) :
    (15 ≤ ((m : Int) - n).natAbs ∧ ∃ c, timelineConflict? ((j, m), k, n) = some c ∧ IsTimelineBetween c j k m n) ∨
      (((m : Int) - n).natAbs < 15 ∧ timelineConflict? ((j, m), k, n) = none) := by
  rw [timelineConflict?, timelineThreshold]
  split
  · next h => exact .inr ⟨by omega, rfl⟩
  · next h => exact .inl ⟨by omega, _, rfl, rfl, rfl, rfl, rfl⟩

/-- If the day counts are short enough to be read, timelines can be compared in any order of the rules. Between two jurisdictions
there is exactly one conflict if both count days and the greatest numbers lie fifteen or more apart, and it names these; otherwise
there is none. -/
theorem timelineConflicts_iff (h : HasShortDayCounts verdicts) :
    ∃ found, timelineConflicts verdicts = .ok found ∧
      (∀ j, (days verdicts j).Nonempty → ∃ n, IsGreatest (days verdicts j) n) ∧
      (∀ c ∈ found, c.first < c.second) ∧
      ∀ j k, j < k →
        (∀ m n, LieApart verdicts j k m n → ∃ c, found.filter (·.isBetween j k) = [c] ∧ IsTimelineBetween c j k m n) ∧
        ((¬∃ m n, LieApart verdicts j k m n) → found.filter (·.isBetween j k) = []) := by
  refine ⟨_, timelineConflicts_eq (hasReadableDayCounts h), fun j hne => exists_isGreatest h hne, ?_, ?_⟩
  · intro c hc
    obtain ⟨j, -, k, -, hlt, hnames⟩ := names_of_mem_compared yields_timeline hc
    rwa [hnames.first, hnames.second]
  · intro j k hlt
    constructor
    · rintro m n ⟨hm, hn, hapart⟩
      rw [filter_compared_eq yields_timeline hlt ((mem_positions_greatest h).2 hm) ((mem_positions_greatest h).2 hn)]
      rcases timelineConflict?_cases j k m n with ⟨-, c, hc, hnames⟩ | ⟨hnear, -⟩
      · exact ⟨c, by rw [hc]; rfl, hnames⟩
      · omega
    · intro hnone
      rw [List.filter_eq_nil_iff]
      intro c hc hbetween
      obtain ⟨m, n, hm, hn, hc⟩ := exists_of_isBetween yields_timeline hlt hc hbetween
      rcases timelineConflict?_cases j k m n with ⟨hapart, -⟩ | ⟨-, hnear⟩
      · exact hnone ⟨m, n, (mem_positions_greatest h).1 hm, (mem_positions_greatest h).1 hn, hapart⟩
      · rw [hnear] at hc
        exact absurd hc List.not_mem_nil

/-- Obligations that are short enough count days by numerals that are. -/
theorem hasShortDayCounts_of_length
    (h : ∀ v ∈ verdicts, ∀ obligation ∈ v.leaf.obligations, obligation.toList.length ≤ Decimal.digitLimit) :
    HasShortDayCounts verdicts := by
  rintro v hv obligation ho digits ⟨skipped, rest, htext, after, rfl, -⟩
  have hlength := h v hv obligation ho
  rw [htext] at hlength
  simp only [List.length_append] at hlength
  omega

/-- What rules of the UK and of the EU ask for, each within some days. -/
def noticePeriods : List Verdict :=
  [demanding "UK" "fsma" ["Notify holders within 60 Days"],
    demanding "EU" "mica" ["Answer complaints in 5days", "Publish within 20 days of 007 daytime hours"]]

/-- The notice periods of the EU and the UK lie apart. -/
theorem timelineConflicts_iff_noticePeriods :
    HasShortDayCounts noticePeriods ∧ LieApart noticePeriods "EU" "UK" 20 60 ∧
      ∃ found c, timelineConflicts noticePeriods = .ok found ∧ found.filter (·.isBetween "EU" "UK") = [c] ∧
        IsTimelineBetween c "EU" "UK" 20 60 := by
  have hshort : HasShortDayCounts noticePeriods := hasShortDayCounts_of_length (by decide +kernel)
  have eu : IsGreatest (days noticePeriods "EU") 20 := (greatestDayCount_eq_some hshort).1 (by decide +kernel)
  have uk : IsGreatest (days noticePeriods "UK") 60 := (greatestDayCount_eq_some hshort).1 (by decide +kernel)
  have hapart : LieApart noticePeriods "EU" "UK" 20 60 := ⟨eu, uk, by decide⟩
  obtain ⟨found, hfound, -, -, hbetween⟩ := timelineConflicts_iff hshort
  obtain ⟨c, hc, hnames⟩ := (hbetween "EU" "UK" (by decide)).1 20 60 hapart
  exact ⟨hshort, hapart, found, c, hfound, hc, hnames⟩

end Verdict

end RegulatoryTrees
