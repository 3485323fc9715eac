import RegulatoryTrees.Proofs.Conflict.Pairs
import RegulatoryTrees.Proofs.Pattern.Language

/-!
# Obligations and the seams between them

The obligations of a jurisdiction are looked through as one text, in which blanks join them. So a wording is found there
exactly if it occurs in one of the obligations or in a text that reaches across the seam between two of them
(`occursIn_joined_iff`), and two jurisdictions are in conflict over an opposition exactly if its two wordings are found in
this way (`mem_obligationConflicts_iff`), although perhaps no single obligation is worded so.
-/

namespace RegulatoryTrees

/-! ## Texts joined by blanks -/

/-- The characters of some texts that blanks join. -/
def joined (texts : List String) : List Char := (String.intercalate " " texts).toList

/-- A text reaches across a seam: it ends the texts before the seam, and after the blank there it begins those behind it. -/
def ReachesAcross (part : List Char) (texts : List String) : Prop :=
  ∃ earlier later, texts = earlier ++ later ∧ earlier ≠ [] ∧ later ≠ [] ∧
    ∃ u v, u <:+ joined earlier ∧ v <+: joined later ∧ part = u ++ ' ' :: v

section Joined

variable {texts : List String} {text : String} {part : List Char}

theorem joined_singleton : joined [text] = text.toList := by
  rw [joined, String.intercalate_singleton]

/-- Two lists of texts are joined with one blank between them. -/
theorem joined_append {earlier later : List String} (hearlier : earlier ≠ []) (hlater : later ≠ []) :
    joined (earlier ++ later) = joined earlier ++ ' ' :: joined later := by
  simp [joined, String.intercalate_append_of_ne_nil hearlier hlater]

/-- A text is joined to others with one blank after it. -/
theorem joined_cons (htexts : texts ≠ []) : joined (text :: texts) = text.toList ++ ' ' :: joined texts := by
  rw [← List.singleton_append, joined_append (List.cons_ne_nil text []) htexts, joined_singleton]

/-- A part of one of the texts is a part of all of them. -/
theorem infix_joined_of_mem (h : text ∈ texts) : text.toList <:+: joined texts := by
  induction texts with
  | nil => exact absurd h List.not_mem_nil
  | cons first rest ih =>
    rcases eq_or_ne rest [] with rfl | hrest
    · rw [List.mem_singleton.1 h]
      exact ⟨[], [], by rw [joined_singleton, List.nil_append, List.append_nil]⟩
    · rw [joined_cons hrest]
      rcases List.mem_cons.1 h with rfl | h
      · exact List.infix_append_left
      · exact List.infix_append_of_infix_right (List.infix_cons (ih h))

/-- What is part of two texts with a blank between them is part of one of them or goes across the blank. -/
theorem infix_append_blank_iff (hpart : part ≠ []) {front back : List Char} : part <:+: front ++ ' ' :: back ↔
    part <:+: front ∨ part <:+: back ∨ ∃ u v, u <:+ front ∧ v <+: back ∧ part = u ++ ' ' :: v := by
  rw [List.infix_append_iff, List.infix_cons_iff]
  simp only [List.prefix_cons_iff, hpart, false_or]
  constructor
  · rintro (h | (⟨v, rfl, hv⟩ | h) | ⟨u, _, rfl, hu, rfl | ⟨v, rfl, hv⟩⟩)
    · exact .inl h
    · exact .inr (.inr ⟨[], v, List.nil_suffix, hv, rfl⟩)
    · exact .inr (.inl h)
    · exact .inl (by simpa using hu.isInfix)
    · exact .inr (.inr ⟨u, v, hu, hv, rfl⟩)
  · rintro (h | h | ⟨u, v, hu, hv, rfl⟩)
    · exact .inl h
    · exact .inr (.inl (.inr h))
    · exact .inr (.inr ⟨u, ' ' :: v, rfl, hu, .inr ⟨v, rfl, hv⟩⟩)

/-- A part of joined texts is part of one of them or reaches across a seam. A seam behind the first text stays one when the
first text is put in front. -/
theorem infix_joined_iff (hpart : part ≠ []) :
    part <:+: joined texts ↔ (∃ text ∈ texts, part <:+: text.toList) ∨ ReachesAcross part texts := by
  constructor
  · intro h
    induction texts with
    | nil => exact absurd (List.infix_nil.1 h) hpart
    | cons first rest ih =>
      rcases eq_or_ne rest [] with rfl | hrest
      · rw [joined_singleton] at h
        exact .inl ⟨first, List.mem_singleton_self first, h⟩
      · rw [joined_cons hrest, infix_append_blank_iff hpart] at h
        rcases h with h | h | ⟨u, v, hu, hv, hsplit⟩
        · exact .inl ⟨first, List.mem_cons_self, h⟩
        · rcases ih h with ⟨text, htext, h⟩ | ⟨earlier, later, rfl, hearlier, hlater, u, v, hu, hv, hsplit⟩
          · exact .inl ⟨text, List.mem_cons_of_mem first htext, h⟩
          · refine .inr ⟨first :: earlier, later, rfl, List.cons_ne_nil first earlier, hlater, u, v, ?_, hv, hsplit⟩
            rw [joined_cons hearlier]
            exact hu.trans ((List.suffix_cons ' ' _).trans (List.suffix_append _ _))
        · rw [← joined_singleton] at hu
          exact .inr ⟨[first], rest, rfl, List.cons_ne_nil first [], hrest, u, v, hu, hv, hsplit⟩
  · rintro (⟨text, htext, h⟩ | ⟨earlier, later, rfl, hearlier, hlater, u, v, hu, hv, rfl⟩)
    · exact h.trans (infix_joined_of_mem htext)
    · rw [joined_append hearlier hlater, infix_append_blank_iff hpart]
      exact .inr (.inr ⟨u, v, hu, hv, rfl⟩)

end Joined

/-! ## Wordings of obligations -/

/-- A wording is found in some obligations: in one of them, or in a text that reaches across a seam. -/
def Pattern.IsFoundIn (p : Pattern) (obligations : List String) : Prop :=
  (∃ obligation ∈ obligations, p.occursIn obligation = true) ∨ ∃ part, ReachesAcross part obligations ∧ p.Matches [] part []

/-- A wording whose place in a text does not matter. -/
structure Pattern.IsWording (p : Pattern) : Prop where
  simple : p.isSimple = true
  unanchored : p.isAnchored = false
  taking : p.isTaking = true

/-- A wording occurs in the joined text exactly if it is found in the obligations. -/
theorem Pattern.IsWording.occursIn_joined_iff {p : Pattern} (hp : p.IsWording) {obligations : List String} :
    p.occursIn (String.intercalate " " obligations) = true ↔ p.IsFoundIn obligations := by
  have occurs_iff := Pattern.occursIn_iff_infix hp.simple hp.unanchored
  rw [occurs_iff, IsFoundIn]
  simp only [occurs_iff]
  constructor
  · rintro ⟨part, hpart, h⟩
    rcases (infix_joined_iff (ne_nil_of_isTaking hp.taking h)).1 hpart with ⟨text, htext, hinfix⟩ | hacross
    · exact .inl ⟨text, htext, part, hinfix, h⟩
    · exact .inr ⟨part, hacross, h⟩
  · rintro (⟨text, htext, part, hinfix, h⟩ | ⟨part, hacross, h⟩)
    · exact ⟨part, (infix_joined_iff (ne_nil_of_isTaking hp.taking h)).2 (.inl ⟨text, htext, hinfix⟩), h⟩
    · exact ⟨part, (infix_joined_iff (ne_nil_of_isTaking hp.taking h)).2 (.inr hacross), h⟩

instance : DecidablePred Pattern.IsWording := fun p =>
  decidable_of_iff (p.isSimple = true ∧ p.isAnchored = false ∧ p.isTaking = true)
    ⟨fun ⟨simple, unanchored, taking⟩ => ⟨simple, unanchored, taking⟩, fun h => ⟨h.simple, h.unanchored, h.taking⟩⟩

/-- Both ways to word a known opposition are such wordings. -/
theorem Opposition.isWording_of_mem_known : ∀ o ∈ known, o.first.IsWording ∧ o.second.IsWording := by decide

/-- Known oppositions have descriptions of their own. -/
theorem Opposition.eq_of_description_eq : ∀ o ∈ known, ∀ o' ∈ known, o.description = o'.description → o = o' := by
  decide +kernel

namespace Verdict

variable {verdicts : List Verdict} {o : Opposition} {j k : String}

/-! ## Conflicts between obligations -/

/-- The obligations of a jurisdiction, in the order of its verdicts. -/
def obligationsOf (verdicts : List Verdict) (j : String) : List String :=
  (ofJurisdiction verdicts j).flatMap fun v => v.leaf.obligations

/-- One obligation of a jurisdiction is worded in one way and one of another jurisdiction in the other way. -/
def OpposeSingly (verdicts : List Verdict) (o : Opposition) (j k : String) : Prop :=
  ∃ s ∈ obligationsOf verdicts j, ∃ t ∈ obligationsOf verdicts k, o.between s t = true

/-- The conflict of a known opposition tells the opposition and the two jurisdictions. -/
theorem obligationConflict_inj {o' : Opposition} {j' k' : String} (ho : o ∈ Opposition.known) (ho' : o' ∈ Opposition.known)
    (h : obligationConflict o j k = obligationConflict o' j' k') : o = o' ∧ j = j' ∧ k = k' := by
  obtain rfl : j = j' := congrArg Conflict.first h
  obtain rfl : k = k' := congrArg Conflict.second h
  have described : o.description ++ " between " ++ j ++ " and " ++ k = o'.description ++ " between " ++ j ++ " and " ++ k :=
    congrArg Conflict.description h
  simp only [String.append_left_inj] at described
  exact ⟨Opposition.eq_of_description_eq o ho o' ho' described, rfl, rfl⟩

/-- The conflict of a known opposition between two jurisdictions is found exactly if the texts of their obligations stand in
the opposition. -/
theorem mem_obligationConflicts_iff_between (ho : o ∈ Opposition.known) (hlt : j < k) :
    obligationConflict o j k ∈ obligationConflicts Opposition.known verdicts ↔
      j ∈ jurisdictions verdicts ∧ k ∈ jurisdictions verdicts ∧
        o.between (obligationText (ofJurisdiction verdicts j)) (obligationText (ofJurisdiction verdicts k)) = true := by
  rw [obligationConflicts_eq, mem_compared_iff]
  constructor
  · rintro ⟨j', _, k', _, -, hs, ht, hc⟩
    obtain ⟨hj, rfl⟩ := by simpa using mem_positions_iff.1 hs
    obtain ⟨hk, rfl⟩ := by simpa using mem_positions_iff.1 ht
    obtain ⟨o', ho', heq⟩ := List.mem_map.1 hc
    obtain ⟨hknown, hbetween⟩ := List.mem_filter.1 ho'
    obtain ⟨rfl, rfl, rfl⟩ := obligationConflict_inj hknown ho heq
    exact ⟨hj, hk, hbetween⟩
  · rintro ⟨hj, hk, hbetween⟩
    exact ⟨j, _, k, _, hlt, mem_positions_iff.2 ⟨hj, rfl⟩, mem_positions_iff.2 ⟨hk, rfl⟩,
      List.mem_map.2 ⟨o, List.mem_filter.2 ⟨ho, hbetween⟩, rfl⟩⟩

/-- Where a wording is found, a verdict names an obligation. -/
theorem mem_jurisdictions_of_isFoundIn {p : Pattern} (h : p.IsFoundIn (obligationsOf verdicts j)) :
    j ∈ jurisdictions verdicts := by
  obtain ⟨obligation, hobligation⟩ : ∃ obligation, obligation ∈ obligationsOf verdicts j := by
    rcases h with ⟨obligation, hobligation, -⟩ | ⟨_, ⟨earlier, later, hsplit, hearlier, -⟩, -⟩
    · exact ⟨obligation, hobligation⟩
    · obtain ⟨first, hfirst⟩ := List.exists_mem_of_ne_nil earlier hearlier
      exact ⟨first, by rw [hsplit]; exact List.mem_append_left later hfirst⟩
  obtain ⟨v, hv, -⟩ := List.mem_flatMap.1 hobligation
  obtain ⟨hv, hj⟩ := List.mem_filter.1 hv
  exact mem_jurisdictions.2 ⟨v, hv, beq_iff_eq.1 hj⟩

/-- The conflict of a known opposition between two jurisdictions is found exactly if one wording is found in the obligations
of one of them and the other wording in those of the other, each in a single obligation or across a seam between
obligations. -/
theorem mem_obligationConflicts_iff (verdicts : List Verdict) (ho : o ∈ Opposition.known) (hlt : j < k) :
    obligationConflict o j k ∈ obligationConflicts Opposition.known verdicts ↔
      (o.first.IsFoundIn (obligationsOf verdicts j) ∧ o.second.IsFoundIn (obligationsOf verdicts k)) ∨
      (o.second.IsFoundIn (obligationsOf verdicts j) ∧ o.first.IsFoundIn (obligationsOf verdicts k)) := by
  obtain ⟨hfirst, hsecond⟩ := Opposition.isWording_of_mem_known o ho
  have between_iff :
      o.between (obligationText (ofJurisdiction verdicts j)) (obligationText (ofJurisdiction verdicts k)) = true ↔
      (o.first.IsFoundIn (obligationsOf verdicts j) ∧ o.second.IsFoundIn (obligationsOf verdicts k)) ∨
      (o.second.IsFoundIn (obligationsOf verdicts j) ∧ o.first.IsFoundIn (obligationsOf verdicts k)) := by
    simp only [Opposition.between, Bool.or_eq_true, Bool.and_eq_true, obligationText, hfirst.occursIn_joined_iff,
      hsecond.occursIn_joined_iff]
    rfl
  rw [mem_obligationConflicts_iff_between ho hlt, between_iff, ← and_assoc, and_iff_right_iff_imp]
  rintro (⟨hj, hk⟩ | ⟨hj, hk⟩)
  · exact ⟨mem_jurisdictions_of_isFoundIn hj, mem_jurisdictions_of_isFoundIn hk⟩
  · exact ⟨mem_jurisdictions_of_isFoundIn hj, mem_jurisdictions_of_isFoundIn hk⟩

/-- A verdict that asks for some things. -/
def demanding (jurisdiction ruleId : String) (obligations : List String) : Verdict :=
  ⟨jurisdiction, ruleId, ⟨⟨ruleId, none, none, [], none⟩, "Permitted", .compliant, obligations, none⟩⟩

/-- The opposition between a duty to register and an exemption from it. -/
def registration : Opposition where
  first := Phrase.apart "must" "register"
  second := Phrase.apart "registration" "exempt"
  severity := .warning
  description := "Registration requirement conflict"

/-- The EU asks for a registration in one obligation, and the UK exempts from it in one. -/
def singlyOpposed : List Verdict :=
  [demanding "EU" "mica" ["Keep records", "Issuers must register"], demanding "UK" "fsma" ["Registration exempt"]]

/-- Single obligations that stand in an opposition are in conflict. -/
theorem mem_obligationConflicts_iff_singly : registration ∈ Opposition.known ∧ "EU" < "UK" ∧
    obligationConflict registration "EU" "UK" ∈ obligationConflicts Opposition.known singlyOpposed := by
  have ho : registration ∈ Opposition.known := by decide
  have hlt : "EU" < "UK" := by decide
  refine ⟨ho, hlt, (mem_obligationConflicts_iff singlyOpposed ho hlt).2 (.inl ⟨.inl ?_, .inl ?_⟩)⟩
  · exact ⟨"Issuers must register", by decide, by decide +kernel⟩
  · exact ⟨"Registration exempt", by decide, by decide +kernel⟩

/-- The EU asks for a registration in no single obligation. -/
def acrossOpposed : List Verdict :=
  [demanding "EU" "mica" ["Disclose all that you must", "Register of holders to be kept"],
    demanding "UK" "fsma" ["Registration exempt"]]

/-- A conflict is found that no two single obligations stand in. -/
theorem not_opposeSingly_across :
    registration ∈ Opposition.known ∧
      obligationConflict registration "EU" "UK" ∈ obligationConflicts Opposition.known acrossOpposed ∧
      ¬OpposeSingly acrossOpposed registration "EU" "UK" := by
  have ho : registration ∈ Opposition.known := by decide
  refine ⟨ho, (mem_obligationConflicts_iff_between ho (by decide)).2 ⟨?_, ?_, by decide +kernel⟩, ?_⟩
  · exact mem_jurisdictions.2 ⟨_, List.mem_cons_self, rfl⟩
  · exact mem_jurisdictions.2 ⟨_, List.mem_cons_of_mem _ List.mem_cons_self, rfl⟩
  · unfold OpposeSingly
    decide +kernel

end Verdict

end RegulatoryTrees
