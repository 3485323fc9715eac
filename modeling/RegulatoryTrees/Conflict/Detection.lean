import RegulatoryTrees.Conflict.Phrases

/-!
# Finding conflicts

What each jurisdiction says is gathered from its verdicts, and every two jurisdictions are compared, in the order of their
names.
-/

namespace RegulatoryTrees

/-- Every two items of a list, in order. -/
def pairsOf {α : Type} : List α → List (α × α)
  | [] => []
  | x :: rest => rest.map (x, ·) ++ pairsOf rest

namespace Verdict

/-- The jurisdictions of some verdicts, each once, in the order of their names. -/
def jurisdictions (verdicts : List Verdict) : List String :=
  (verdicts.map Verdict.jurisdiction).eraseDups.mergeSort

/-- The verdicts of a jurisdiction. -/
def ofJurisdiction (verdicts : List Verdict) (jurisdiction : String) : List Verdict :=
  verdicts.filter (·.jurisdiction == jurisdiction)

/-- The position of each jurisdiction that takes one, in the order of their names. -/
def positions {α : Type} (position : List Verdict → Option α) (verdicts : List Verdict) : List (String × α) :=
  (jurisdictions verdicts).filterMap fun j => (position (ofJurisdiction verdicts j)).map (j, ·)

/-! ## Classification -/

/-- The classification that a verdict gives. -/
def classification? (v : Verdict) : Option String :=
  if Phrase.classifies.occursIn v.leaf.decision then some v.leaf.decision else none

/-- The last classification that some verdicts give. -/
def lastClassification? (verdicts : List Verdict) : Option String := (verdicts.filterMap classification?).getLast?

/-- The conflict between two classifications. -/
def classificationConflict? : (String × String) × String × String → Option Conflict
  | ((j, x), k, y) =>
    if x = y then none
    else some {
      id := "classification-" ++ j ++ "-" ++ k
      kind := .classification
      severity := .warning
      first := j
      second := k
      description := "Classification differs: " ++ j ++ " says \"" ++ x ++ "\" while " ++ k ++ " says \"" ++ y ++ "\""
      resolution := .satisfyBoth
      note := some "Apply the more restrictive classification" }

/-- The conflicts between classifications. -/
def classificationConflicts (verdicts : List Verdict) : List Conflict :=
  (pairsOf (positions lastClassification? verdicts)).filterMap classificationConflict?

/-! ## Timelines -/

/-- The least difference between two numbers of days that matters. -/
def timelineThreshold : Nat := 15

/-- The numbers of days that an obligation names. -/
def dayCounts (obligation : String) : Except Decimal.NumeralTooLong (List Nat) :=
  (Phrase.dayCount.allIn obligation).mapM fun found => Decimal.read ((found.captured? 1).getD [])

/-- The numbers of days that the obligations of a verdict name. -/
def allDayCounts (v : Verdict) : Except Decimal.NumeralTooLong (List Nat) :=
  return (← v.leaf.obligations.mapM dayCounts).flatten

/-- The conflict between two numbers of days. -/
def timelineConflict? : (String × Nat) × String × Nat → Option Conflict
  | ((j, m), k, n) =>
    if max m n - min m n < timelineThreshold then none
    else some {
      id := "timeline-" ++ j ++ "-" ++ k
      kind := .timeline
      severity := .warning
      first := j
      second := k
      description :=
        "Timeline difference: " ++ j ++ " requires " ++ Decimal.ofNat m ++ " days, " ++ k ++ " requires " ++
          Decimal.ofNat n ++ " days"
      resolution := .earliest
      note := some "Use the earlier deadline to satisfy both" }

/-- The conflicts between the greatest numbers of days that jurisdictions name. -/
def timelineConflicts (verdicts : List Verdict) : Except Decimal.NumeralTooLong (List Conflict) := do
  let counts ← verdicts.mapM fun v => return (v.jurisdiction, ← v.allDayCounts)
  let greatest := (jurisdictions verdicts).filterMap fun j =>
    (((counts.filter (·.1 == j)).flatMap (·.2)).max?).map (j, ·)
  return (pairsOf greatest).filterMap timelineConflict?

/-! ## Obligations -/

/-- The obligations of a jurisdiction in one text. -/
def obligationText (verdicts : List Verdict) : String :=
  String.intercalate " " (verdicts.flatMap fun v => v.leaf.obligations)

/-- The conflict of an opposition between two jurisdictions. -/
def obligationConflict (o : Opposition) (j k : String) : Conflict where
  id := "obligation-" ++ j ++ "-" ++ k ++ "-" ++ o.kind.name
  kind := o.kind
  severity := o.severity
  first := j
  second := k
  description := o.description ++ " between " ++ j ++ " and " ++ k
  resolution := if o.severity = .blocking then .satisfyBoth else .stricter
  note := none

/-- The conflicts between obligations that stand in one of some oppositions. -/
def obligationConflicts (oppositions : List Opposition) (verdicts : List Verdict) : List Conflict :=
  (pairsOf (positions (some ∘ obligationText) verdicts)).flatMap fun ((j, s), k, t) =>
    (oppositions.filter (·.between s t)).map fun o => obligationConflict o j k

/-! ## Decisions -/

/-- The conflict of a jurisdiction that blocks what another one permits. -/
def decisionConflict (j k permitter blocker : String) : Conflict where
  id := "decision-" ++ j ++ "-" ++ k
  kind := .decision
  severity := .warning
  first := j
  second := k
  description := permitter ++ " permits activity while " ++ blocker ++ " blocks it"
  resolution := .stricter
  note := some ("Must satisfy " ++ blocker ++ " requirements to proceed")

/-- The conflicts between verdicts that permit and verdicts that block. -/
def decisionConflicts (verdicts : List Verdict) : List Conflict :=
  let comesTo (j : String) (status : Status) := (ofJurisdiction verdicts j).any (·.leaf.status == status)
  (pairsOf (jurisdictions verdicts)).flatMap fun (j, k) =>
    ([(j, k), (k, j)].filter fun (permitter, blocker) => comesTo permitter .compliant && comesTo blocker .blocked).map
      fun (permitter, blocker) => decisionConflict j k permitter blocker

/-! ## All conflicts -/

/-- One verdict comes before another, by the names of jurisdiction and rule. -/
def precedes (v w : Verdict) : Bool :=
  v.jurisdiction < w.jurisdiction || (v.jurisdiction == w.jurisdiction && v.ruleId ≤ w.ruleId)

/-- The conflicts between verdicts in any order, of each identifier the first one. -/
def conflicts (includeDecisions : Bool) (verdicts : List Verdict) : Except Decimal.NumeralTooLong (List Conflict) := do
  let ordered := verdicts.mergeSort precedes
  if ordered.length < 2 then return []
  let found := classificationConflicts ordered ++ (← timelineConflicts ordered) ++
    obligationConflicts Opposition.known ordered ++ if includeDecisions then decisionConflicts ordered else []
  return found.eraseDupsBy fun c d => c.id == d.id

/-- What is noticed when conflicts of some verdicts have been found. -/
def notices (verdicts : List Verdict) (found : List Conflict) : List Notice :=
  if verdicts.length < 2 then []
  else [⟨.debug, "compliance_engine.jurisdiction.conflicts",
    "Detected " ++ Decimal.ofNat found.length ++ " conflict(s) across " ++ Decimal.ofNat verdicts.length ++
      " evaluated rule(s)"⟩]

end Verdict

end RegulatoryTrees
