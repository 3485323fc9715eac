import RegulatoryTrees.Proofs.Evaluation.Steps
import RegulatoryTrees.Proofs.Partial.Completion
import RegulatoryTrees.Proofs.Partial.Union

/-!
# What partial evaluation explores

The nodes that partial evaluation explores, defined by recursion without a stack, a flag or missing facts carried along
(`explored`), and what an outcome has to say about them (`outline`). The loop gives exactly that outline, or fails at the first
node that takes no part in evaluation (`evaluatePartial_eq_outline`), provided that the conditions decided before anything
branches can be rendered; if one of them cannot, the loop fails there. Missing facts are recorded at the leaves only, and yet
come out in the order in which they are met, because every explored tree begins with a path to a leaf.
-/

namespace RegulatoryTrees

namespace PartialEvaluation

/-! ## Definitions -/

/-- A node that is explored, with its depth. -/
structure Visit where
  node : Node
  depth : Nat

/-- Where a condition leads with some facts: to the branch for its answer, or to both branches if it has none. -/
def course (facts : Value) (c : Condition) : Except Condition.Failure (Option Bool) := do
  let fact ← c.factIn facts
  if isUndecided c fact then return none
  else return some (← c.apply fact).holds

/-- The nodes explored from a node at a depth, each before those below it, the branch of a condition that holds first. -/
def explored (facts : Value) (depth : Nat) : Node → List Visit
  | .condition header c note whenTrue whenFalse =>
    ⟨.condition header c note whenTrue whenFalse, depth⟩ ::
      match course facts c with
      | .ok none => explored facts (depth + 1) whenTrue ++ explored facts (depth + 1) whenFalse
      | .ok (some true) => explored facts (depth + 1) whenTrue
      | .ok (some false) => explored facts (depth + 1) whenFalse
      | .error _ => []
  | n => [⟨n, depth⟩]

/-- What a condition that is decided shows: its fact and its observation. -/
def decision? (facts : Value) (header : Header) (c : Condition) : Option (Value × Evaluation.Observation) :=
  match c.factIn facts with
  | .ok fact => if isUndecided c fact then none else (Evaluation.observe header c fact).toOption.map (fact, ·)
  | .error _ => none

namespace Visit

/-- Conditions and leaves take part in evaluation. -/
def isEvaluable (v : Visit) : Bool := v.node.kind == .condition || v.node.kind == .leaf

/-- The leaf visited, if it is one. -/
def leaf? (v : Visit) : Option Leaf :=
  match v.node with
  | .leaf l => some l
  | _ => none

/-- The fact path of a condition at which both branches are taken. -/
def openFact? (facts : Value) (v : Visit) : Option String :=
  match v.node with
  | .condition _ c _ _ _ =>
    match course facts c with
    | .ok none => some c.fact
    | _ => none
  | _ => none

/-- The diagnostics of a condition that is decided. -/
def diagnostics (facts : Value) (v : Visit) : List Diagnostic :=
  match v.node with
  | .condition header c _ _ _ => (decision? facts header c).elim [] fun decided => decided.2.diagnostics
  | _ => []

/-- The step of a condition that is decided, if the condition can be rendered. -/
def step? (facts : Value) (v : Visit) : Option Step :=
  match v.node with
  | .condition header c _ _ _ =>
    (decision? facts header c).bind fun decided => (Evaluation.stepOf header c decided.1 v.depth decided.2).toOption
  | _ => none

/-- The fact of a condition can be looked up and its operator applied. -/
def Applies (facts : Value) (v : Visit) : Prop := ∀ c, v.node.condition? = some c → ∃ way, course facts c = .ok way

/-- A condition can be rendered. -/
def Renders (v : Visit) : Prop := ∀ c, v.node.condition? = some c → ∃ text, c.describe = .ok text

end Visit

/-- The visits before the first condition at which both branches are taken. -/
def determinate (facts : Value) (vs : List Visit) : List Visit := vs.takeWhile fun v => (v.openFact? facts).isNone

/-- What an outcome says about the nodes explored: the leaves among them; the facts of the conditions at which both branches were
taken, each once, in the order in which they are met; the steps before the first of these conditions; and the diagnostics of the
other conditions. -/
def outline (facts : Value) (vs : List Visit) : PartialEvaluation where
  leaves := vs.filterMap Visit.leaf?
  missing := (vs.filterMap (Visit.openFact? facts)).eraseDups
  trace := (determinate facts vs).filterMap (Visit.step? facts)
  diagnostics := vs.flatMap (Visit.diagnostics facts)

/-! ## A survey of a tree -/

/-- The findings after some visits below some missing facts, if nothing goes wrong: the facts are recorded as if each condition
at which both branches are taken recorded its own. -/
def Findings.extend (s : Findings) (facts : Value) (missing : List String) (vs : List Visit) : Findings where
  leaves := (vs.filterMap Visit.leaf?).reverse ++ s.leaves
  missing := union (union s.missing missing) (vs.filterMap (Visit.openFact? facts))
  trace := if s.branched then s.trace else ((determinate facts vs).filterMap (Visit.step? facts)).reverse ++ s.trace
  diagnostics := (vs.flatMap (Visit.diagnostics facts)).reverse ++ s.diagnostics
  branched := s.branched || vs.any fun v => (v.openFact? facts).isSome

/-- What a condition that is decided adds to the findings: its diagnostics and, before anything has branched, its step. -/
structure Findings.Records (facts : Value) (s : Findings) (v : Visit) (after : Findings) : Prop where
  leaves : after.leaves = s.leaves
  missing : after.missing = s.missing
  trace : after.trace = if s.branched then s.trace else (v.step? facts).toList ++ s.trace
  diagnostics : after.diagnostics = (v.diagnostics facts).reverse ++ s.diagnostics
  branched : after.branched = s.branched

/-- What a survey comes to: the findings after all visits, or the failure at the first node that takes no part in evaluation,
with the diagnostics up to it. -/
def surveyed (s : Findings) (facts : Value) (missing : List String) (vs : List Visit) : Except Evaluation.Failure Findings :=
  match vs.find? fun v => !v.isEvaluable with
  | none => .ok (s.extend facts missing vs)
  | some v =>
    .error (s.fail ⟨.notEvaluable v.node.id v.node.kind, (vs.takeWhile Visit.isEvaluable).flatMap (Visit.diagnostics facts)⟩)

/-- A survey of visits that can all be evaluated records them all. -/
theorem surveyed_none {s : Findings} {facts : Value} {missing : List String} {vs : List Visit}
    (h : vs.find? (fun v => !v.isEvaluable) = none) : surveyed s facts missing vs = .ok (s.extend facts missing vs) := by
  rw [surveyed, h]

/-- A survey fails at the first visit that cannot be evaluated, with the diagnostics of those before it. -/
theorem surveyed_some {s : Findings} {facts : Value} {missing : List String} {vs : List Visit} {v : Visit}
    (h : vs.find? (fun v => !v.isEvaluable) = some v) :
    surveyed s facts missing vs = .error (s.fail
      ⟨.notEvaluable v.node.id v.node.kind, (vs.takeWhile Visit.isEvaluable).flatMap (Visit.diagnostics facts)⟩) := by
  rw [surveyed, h]

/-- Where all of the first visits take part in evaluation, the visits up to the first that does not are found after them. -/
theorem takeWhile_append_of_find?_eq_none {vs ws : List Visit} (h : vs.find? (fun v => !v.isEvaluable) = none) :
    (vs ++ ws).takeWhile Visit.isEvaluable = vs ++ ws.takeWhile Visit.isEvaluable := by
  apply List.takeWhile_append_of_pos
  intro v hv
  simpa using List.find?_eq_none.1 h v hv

/-- Where one of the first visits does not take part in evaluation, the visits after them do not count. -/
theorem takeWhile_append_of_find?_eq_some {vs ws : List Visit} {v : Visit}
    (h : vs.find? (fun v => !v.isEvaluable) = some v) :
    (vs ++ ws).takeWhile Visit.isEvaluable = vs.takeWhile Visit.isEvaluable := by
  obtain ⟨hv, before, after, rfl, hb⟩ := List.find?_eq_some_iff_append.1 h
  have hbefore : ∀ b ∈ before, b.isEvaluable = true := fun b hm => by simpa using hb b hm
  have hv' : v.isEvaluable = false := by simpa using hv
  rw [List.append_assoc, List.takeWhile_append_of_pos hbefore, List.takeWhile_append_of_pos hbefore]
  simp [hv']

/-- A leaf is recorded with the facts above it. -/
theorem surveyed_leaf (s : Findings) (facts : Value) (missing : List String) (l : Leaf) (depth : Nat) :
    surveyed s facts missing [⟨.leaf l, depth⟩] = .ok (s.addLeaf l missing) := by
  obtain ⟨leaves, recorded, trace, diagnostics, branched⟩ := s
  cases branched <;> rfl

section Condition

variable {s : Findings} {facts : Value} {missing : List String} {v : Visit}

/-- The findings after a condition at which both branches are taken are those after its branches, one after the other, each
below the fact of the condition as well. The first branch has recorded the facts above the condition and the condition's own,
so the second adds none of them. -/
theorem Findings.extend_open {fact : String} (hopen : v.openFact? facts = some fact) (hleaf : v.leaf? = none)
    (hdiagnostics : v.diagnostics facts = []) (vs ws : List Visit) :
    ((Findings.extend { s with branched := true } facts (union missing [fact]) vs).extend facts (union missing [fact]) ws) =
      s.extend facts missing (v :: (vs ++ ws)) := by
  have hsub : ∀ y ∈ union missing [fact],
      y ∈ union (union s.missing (union missing [fact])) (vs.filterMap (Visit.openFact? facts)) :=
    fun y hy => mem_union.2 (Or.inl (mem_union.2 (Or.inr hy)))
  have hmissing : union (union (union (union s.missing (union missing [fact])) (vs.filterMap (Visit.openFact? facts)))
        (union missing [fact])) (ws.filterMap (Visit.openFact? facts)) =
      union (union s.missing missing) ((v :: (vs ++ ws)).filterMap (Visit.openFact? facts)) := by
    rw [union_of_subset hsub, union_union_singleton, List.filterMap_cons_some hopen, List.filterMap_append, union_cons _ (_ ++ _),
      union_append]
  simp only [Findings.extend, hmissing]
  congr 1
  · simp [hleaf]
  · simp [determinate, hopen]
  · simp [hdiagnostics]
  · simp [hopen]

/-- What a survey comes to at a condition at which both branches are taken. -/
theorem surveyed_open {fact : String} (hopen : v.openFact? facts = some fact) (hleaf : v.leaf? = none)
    (hdiagnostics : v.diagnostics facts = []) (hv : v.isEvaluable = true) (vs ws : List Visit) :
    surveyed s facts missing (v :: (vs ++ ws)) =
      surveyed { s with branched := true } facts (union missing [fact]) vs >>= fun after =>
        surveyed after facts (union missing [fact]) ws := by
  have hfind : (v :: (vs ++ ws)).find? (fun v => !v.isEvaluable) =
      (vs.find? fun v => !v.isEvaluable).or (ws.find? fun v => !v.isEvaluable) := by
    rw [List.find?_cons_of_neg (by simp [hv]), List.find?_append]
  cases hvs : vs.find? fun v => !v.isEvaluable with
  | some w =>
    rw [hvs, Option.some_or] at hfind
    rw [surveyed_some hvs, surveyed_some hfind, List.takeWhile_cons_of_pos hv, takeWhile_append_of_find?_eq_some hvs]
    simp [Findings.fail, hdiagnostics]
  | none =>
    rw [hvs, Option.none_or] at hfind
    rw [surveyed_none hvs, Except.ok_bind]
    cases hws : ws.find? fun v => !v.isEvaluable with
    | none =>
      rw [hws] at hfind
      rw [surveyed_none hws, surveyed_none hfind, Findings.extend_open hopen hleaf hdiagnostics]
    | some w =>
      rw [hws] at hfind
      rw [surveyed_some hws, surveyed_some hfind, List.takeWhile_cons_of_pos hv, takeWhile_append_of_find?_eq_none hvs]
      simp [Findings.fail, Findings.extend, Evaluation.Failure.after, hdiagnostics]

/-- What a survey comes to at a condition that is decided is what it comes to on the branch, from what the condition records. -/
theorem surveyed_decided {after : Findings} (hopen : v.openFact? facts = none) (hleaf : v.leaf? = none)
    (hv : v.isEvaluable = true) (hr : s.Records facts v after) (vs : List Visit) :
    surveyed s facts missing (v :: vs) = surveyed after facts missing vs := by
  have hfind : (v :: vs).find? (fun v => !v.isEvaluable) = vs.find? fun v => !v.isEvaluable := by
    rw [List.find?_cons_of_neg (by simp [hv])]
  cases hvs : vs.find? fun v => !v.isEvaluable with
  | some w =>
    rw [surveyed_some hvs, surveyed_some (hfind.trans hvs), List.takeWhile_cons_of_pos hv]
    simp [Findings.fail, Evaluation.Failure.after, hr.diagnostics]
  | none =>
    rw [surveyed_none hvs, surveyed_none (hfind.trans hvs)]
    simp only [Findings.extend, hr.missing, hr.branched, hr.leaves, hr.diagnostics, hr.trace]
    congr 2
    · simp [hleaf]
    · simp [hopen]
    · cases s.branched with
      | true => rfl
      | false => cases hst : v.step? facts <;> simp [determinate, hopen, hst]
    · simp
    · simp [hopen]

end Condition

/-! ## Conditions with some facts -/

/-- A condition whose course is open is undecided. -/
theorem course_eq_none {facts : Value} {c : Condition} (h : course facts c = .ok none) :
    ∃ fact, c.factIn facts = .ok fact ∧ isUndecided c fact = true := by
  rw [course, Except.bind_eq_ok] at h
  obtain ⟨fact, hf, h⟩ := h
  cases hu : isUndecided c fact with
  | true => exact ⟨fact, hf, hu⟩
  | false =>
    simp only [hu, Bool.false_eq_true, if_false] at h
    obtain ⟨o, -, h⟩ := Except.bind_eq_ok.1 h
    simp [pure, Except.pure] at h

/-- A condition whose course is chosen is decided and comes to the answer. -/
theorem course_eq_some {facts : Value} {c : Condition} {holds : Bool} (h : course facts c = .ok (some holds)) :
    ∃ fact o, c.factIn facts = .ok fact ∧ isUndecided c fact = false ∧ c.apply fact = .ok o ∧ o.holds = holds := by
  rw [course, Except.bind_eq_ok] at h
  obtain ⟨fact, hf, h⟩ := h
  cases hu : isUndecided c fact with
  | true => simp [hu, pure, Except.pure] at h
  | false =>
    simp only [hu, Bool.false_eq_true, if_false] at h
    obtain ⟨o, ho, h⟩ := Except.bind_eq_ok.1 h
    exact ⟨fact, o, hf, hu, ho, by simpa [pure, Except.pure] using h⟩

/-- What a decided condition shows is what observing it shows. -/
theorem decision?_eq {facts fact : Value} {c : Condition} {o : Condition.Outcome} (header : Header)
    (hf : c.factIn facts = .ok fact) (hu : isUndecided c fact = false) (ho : c.apply fact = .ok o) :
    decision? facts header c = some (fact, ⟨o.holds, (c.diagnostic? (some header.id) o).toList⟩) := by
  have hs : Evaluation.observe header c fact = .ok ⟨o.holds, (c.diagnostic? (some header.id) o).toList⟩ :=
    Evaluation.observe_eq_ok.2 ⟨o, ho, rfl⟩
  rw [decision?, hf]
  simp [hu, hs, Except.toOption]

/-- The first visits up to one at which both branches are taken start with a condition that is decided. -/
theorem determinate_decided {facts : Value} {v : Visit} (h : v.openFact? facts = none) (vs : List Visit) :
    determinate facts (v :: vs) = v :: determinate facts vs := by
  rw [determinate, List.takeWhile_cons_of_pos (by simp [h])]
  rfl

/-- A condition that cannot be rendered fails for that reason. -/
theorem describe_eq_error {c : Condition} {f : Condition.Failure} (h : c.describe = .error f) :
    ∃ cause, f = .rendering cause := by
  rw [Condition.describe] at h
  cases hv : c.value.relaxedText with
  | error cause => exact ⟨cause, by simpa [hv] using h.symm⟩
  | ok text =>
    rw [hv, Except.mapError_ok, Except.ok_bind] at h
    cases ho : c.operator? with
    | none => simp [ho, pure, Except.pure] at h
    | some op => cases hp : op.testsPresence <;> simp [ho, hp, pure, Except.pure] at h

/-- A condition that can be rendered has a step. -/
theorem stepOf_eq_ok {c : Condition} {text : String} (h : c.describe = .ok text) (header : Header) (fact : Value) (depth : Nat)
    (seen : Evaluation.Observation) : ∃ step, Evaluation.stepOf header c fact depth seen = .ok step := by
  rw [Evaluation.stepOf, h]
  exact ⟨_, rfl⟩

/-- A condition that cannot be rendered has no step. -/
theorem stepOf_eq_error {c : Condition} (h : ¬∃ text, c.describe = .ok text) (header : Header) (fact : Value) (depth : Nat)
    (seen : Evaluation.Observation) :
    ∃ cause, Evaluation.stepOf header c fact depth seen = .error ⟨.condition (.rendering cause), seen.diagnostics⟩ := by
  cases hd : c.describe with
  | ok text => exact absurd ⟨text, hd⟩ h
  | error f =>
    obtain ⟨cause, rfl⟩ := describe_eq_error hd
    exact ⟨cause, by rw [Evaluation.stepOf, hd]; rfl⟩

/-- A visit of a condition renders if the condition does. -/
theorem Visit.renders_condition {header : Header} {c : Condition} {note : Option String} {whenTrue whenFalse : Node}
    (depth : Nat) :
    Visit.Renders ⟨.condition header c note whenTrue whenFalse, depth⟩ ↔ ∃ text, c.describe = .ok text := by
  refine ⟨fun h => h c rfl, fun h d hd => ?_⟩
  obtain rfl : c = d := by simpa [Node.condition?] using hd
  exact h

/-- There is nothing to render about a node that is not a condition. -/
theorem Visit.renders_of_condition?_eq_none {v : Visit} (h : v.node.condition? = none) : v.Renders := by
  intro c hc
  rw [h] at hc
  exact nomatch hc

/-! ## The loop and the recursive definition -/

section Survey

variable {facts : Value} {header : Header} {c : Condition} {note : Option String} {whenTrue whenFalse : Node} {depth : Nat}

/-- Nothing is explored below a node that is not a condition. -/
theorem explored_of_condition?_eq_none {n : Node} (h : n.condition? = none) : explored facts depth n = [⟨n, depth⟩] := by
  cases n with
  | condition header c note whenTrue whenFalse => simp [Node.condition?] at h
  | leaf | group | router | anchor => simp [explored]

/-- Where a course is open, both branches are explored, the one that holds before the other. -/
theorem explored_open (h : course facts c = .ok none) :
    explored facts depth (.condition header c note whenTrue whenFalse) =
      ⟨.condition header c note whenTrue whenFalse, depth⟩ ::
        (explored facts (depth + 1) whenTrue ++ explored facts (depth + 1) whenFalse) := by
  rw [explored, h]

/-- Where a course is chosen, one branch is explored. -/
theorem explored_decided {holds : Bool} (h : course facts c = .ok (some holds)) :
    explored facts depth (.condition header c note whenTrue whenFalse) =
      ⟨.condition header c note whenTrue whenFalse, depth⟩ ::
        explored facts (depth + 1) (if holds then whenTrue else whenFalse) := by
  rw [explored, h]
  cases holds <;> rfl

/-- The nodes explored are some of those of the walk, in their order. -/
theorem nodes_explored_sublist (facts : Value) (n : Node) : ∀ depth : Nat,
    ((explored facts depth n).map Visit.node).Sublist n.walk := by
  intro depth
  rw [Node.walk_eq_preorder]
  cases n with
  | condition header c note whenTrue whenFalse =>
    have htrue := nodes_explored_sublist facts whenTrue (depth + 1)
    have hfalse := nodes_explored_sublist facts whenFalse (depth + 1)
    rw [Node.walk_eq_preorder] at htrue hfalse
    rw [explored, List.map_cons, Node.preorder]
    refine List.Sublist.cons_cons _ ?_
    split
    · rw [List.map_append]
      exact htrue.append hfalse
    · exact htrue.trans (List.sublist_append_left _ _)
    · exact hfalse.trans (List.sublist_append_right _ _)
    · exact List.nil_sublist _
  | leaf _ | group _ _ _ _ | router _ _ | anchor _ _ _ =>
    rw [explored_of_condition?_eq_none rfl, Node.preorder_eq]
    exact (List.nil_sublist _).cons_cons _

/-- What is explored are nodes of the tree. -/
theorem node_mem_walk_of_mem_explored (n : Node) {v : Visit} (hv : v ∈ explored facts depth n) : v.node ∈ n.walk :=
  (nodes_explored_sublist facts n depth).subset (List.mem_map_of_mem hv)

/-- Where a course is open, the fact of the condition is. -/
theorem openFact?_open (h : course facts c = .ok none) :
    Visit.openFact? facts ⟨.condition header c note whenTrue whenFalse, depth⟩ = some c.fact := by
  simp only [Visit.openFact?, h]

/-- Where a course is chosen, no fact is open. -/
theorem openFact?_decided {holds : Bool} (h : course facts c = .ok (some holds)) :
    Visit.openFact? facts ⟨.condition header c note whenTrue whenFalse, depth⟩ = none := by
  simp only [Visit.openFact?, h]

/-- Where a course is open, there is nothing to diagnose. -/
theorem diagnostics_open (h : course facts c = .ok none) :
    Visit.diagnostics facts ⟨.condition header c note whenTrue whenFalse, depth⟩ = [] := by
  obtain ⟨fact, hf, hu⟩ := course_eq_none h
  simp [Visit.diagnostics, decision?, hf, hu]

/-- A condition is decided where it can be rendered, or where it need not be as something has branched before. -/
theorem decideBranch_records {s : Findings} {fact : Value} {o : Condition.Outcome} (header : Header) (note : Option String)
    (whenTrue whenFalse : Node) (depth : Nat) (hf : c.factIn facts = .ok fact) (hu : isUndecided c fact = false)
    (ho : c.apply fact = .ok o) (hrender : s.branched = true ∨ ∃ text, c.describe = .ok text) :
    ∃ after, decideBranch s header c fact depth = .ok (o.holds, after) ∧
      s.Records facts ⟨.condition header c note whenTrue whenFalse, depth⟩ after := by
  have hs : Evaluation.observe header c fact = .ok ⟨o.holds, (c.diagnostic? (some header.id) o).toList⟩ :=
    Evaluation.observe_eq_ok.2 ⟨o, ho, rfl⟩
  have hshown := decision?_eq header hf hu ho
  rw [decideBranch, hs, Except.mapError_ok, Except.ok_bind]
  cases hb : s.branched with
  | true =>
    refine ⟨_, rfl, rfl, rfl, ?_, ?_, hb.symm⟩
    · simp [hb]
    · simp [Visit.diagnostics, hshown]
  | false =>
    obtain ⟨text, htext⟩ := hrender.resolve_left (by simp [hb])
    obtain ⟨step, hstep⟩ := stepOf_eq_ok htext header fact depth ⟨o.holds, (c.diagnostic? (some header.id) o).toList⟩
    rw [hstep]
    refine ⟨_, rfl, rfl, rfl, ?_, ?_, hb.symm⟩
    · simp [hb, Visit.step?, hshown, hstep, Except.toOption]
    · simp [Visit.diagnostics, hshown]

/-- Before anything has branched, a condition that cannot be rendered fails for that reason. -/
theorem decideBranch_unrendered {s : Findings} {fact : Value} {o : Condition.Outcome} (header : Header) (depth : Nat)
    (ho : c.apply fact = .ok o) (hb : s.branched = false) (h : ¬∃ text, c.describe = .ok text) :
    ∃ cause ds, decideBranch s header c fact depth = .error ⟨.condition (.rendering cause), ds⟩ := by
  have hs : Evaluation.observe header c fact = .ok ⟨o.holds, (c.diagnostic? (some header.id) o).toList⟩ :=
    Evaluation.observe_eq_ok.2 ⟨o, ho, rfl⟩
  obtain ⟨cause, hstep⟩ := stepOf_eq_error h header fact depth ⟨o.holds, (c.diagnostic? (some header.id) o).toList⟩
  rw [decideBranch, hs, Except.mapError_ok, Except.ok_bind, hb, if_neg Bool.false_ne_true, hstep]
  exact ⟨cause, _, rfl⟩

/-- A survey decides a condition once its fact is found and its operator applied, and goes on below it. -/
theorem survey_decided {s : Findings} {missing : List String} {fact : Value} (hf : c.factIn facts = .ok fact)
    (hu : isUndecided c fact = false) :
    survey facts s depth missing (.condition header c note whenTrue whenFalse) =
      decideBranch s header c fact depth >>= fun decided =>
        survey facts decided.2 (depth + 1) missing (if decided.1 then whenTrue else whenFalse) := by
  rw [survey, hf, Except.mapError_ok, Except.ok_bind, hu]
  simp only [Bool.false_eq_true, if_false]
  congr 1
  funext decided
  obtain ⟨holds, after⟩ := decided
  cases holds <;> rfl

/-- The survey of a condition that is decided, from the surveys of the branch it chooses. -/
theorem survey_decided_eq_surveyed {s : Findings} {missing : List String} {holds : Bool}
    (hway : course facts c = .ok (some holds))
    (hbranch : ∀ after : Findings, (after.branched = true ∨
      ∀ v ∈ determinate facts (explored facts (depth + 1) (if holds then whenTrue else whenFalse)), v.Renders) →
        survey facts after (depth + 1) missing (if holds then whenTrue else whenFalse) =
          surveyed after facts missing (explored facts (depth + 1) (if holds then whenTrue else whenFalse)))
    (hrender : s.branched = true ∨
      ∀ v ∈ determinate facts (explored facts depth (.condition header c note whenTrue whenFalse)), v.Renders) :
    survey facts s depth missing (.condition header c note whenTrue whenFalse) =
      surveyed s facts missing (explored facts depth (.condition header c note whenTrue whenFalse)) := by
  obtain ⟨fact, o, hf, hu, ho, rfl⟩ := course_eq_some hway
  rw [explored_decided hway] at hrender ⊢
  have hall : s.branched = true ∨ (∃ text, c.describe = .ok text) ∧
      ∀ v ∈ determinate facts (explored facts (depth + 1) (if o.holds then whenTrue else whenFalse)), v.Renders := by
    rw [determinate_decided (openFact?_decided hway)] at hrender
    exact hrender.imp_right fun h => ⟨h _ List.mem_cons_self c rfl, fun v hv => h v (List.mem_cons_of_mem _ hv)⟩
  obtain ⟨after, hd, hr⟩ := decideBranch_records header note whenTrue whenFalse depth hf hu ho (hall.imp_right And.left)
  rw [survey_decided hf hu, hd, Except.ok_bind, surveyed_decided (openFact?_decided hway) rfl rfl hr]
  exact hbranch after (hall.imp (fun hb => hr.branched.trans hb) And.right)

end Survey

/-- A survey comes to what the explored nodes say, if their conditions apply and, unless something has branched before, those
decided before anything branches can be rendered. -/
theorem survey_eq_surveyed (facts : Value) (n : Node) : ∀ (s : Findings) (depth : Nat) (missing : List String),
    (∀ v ∈ explored facts depth n, v.Applies facts) →
      (s.branched = true ∨ ∀ v ∈ determinate facts (explored facts depth n), v.Renders) →
        survey facts s depth missing n = surveyed s facts missing (explored facts depth n) := by
  intro s depth missing happly hrender
  match n with
  | .leaf l =>
    rw [survey, explored_of_condition?_eq_none rfl, surveyed_leaf]
  | .condition header c note whenTrue whenFalse =>
    obtain ⟨way, hway⟩ := happly ⟨.condition header c note whenTrue whenFalse, depth⟩ List.mem_cons_self c rfl
    cases way with
    | none =>
      obtain ⟨fact, hf, hu⟩ := course_eq_none hway
      rw [explored_open hway] at happly ⊢
      have htrue := survey_eq_surveyed facts whenTrue { s with branched := true } (depth + 1) (union missing [c.fact])
        (fun v hv => happly v (List.mem_cons_of_mem _ (List.mem_append_left _ hv))) (Or.inl rfl)
      rw [surveyed_open (openFact?_open hway) rfl (diagnostics_open hway) rfl, ← htrue, survey, hf, Except.mapError_ok,
        Except.ok_bind, hu, if_pos rfl]
      cases ht : survey facts { s with branched := true } (depth + 1) (union missing [c.fact]) whenTrue with
      | error f => rfl
      | ok after =>
        have hb : after.branched = true := ((survey_keeps whenTrue ht).2 rfl).1
        exact survey_eq_surveyed facts whenFalse after (depth + 1) (union missing [c.fact])
          (fun v hv => happly v (List.mem_cons_of_mem _ (List.mem_append_right _ hv))) (Or.inl hb)
    | some holds =>
      rw [explored_decided hway] at happly
      cases holds with
      | true =>
        exact survey_decided_eq_surveyed hway (fun after => survey_eq_surveyed facts whenTrue after (depth + 1) missing
          fun v hv => happly v (List.mem_cons_of_mem _ hv)) hrender
      | false =>
        exact survey_decided_eq_surveyed hway (fun after => survey_eq_surveyed facts whenFalse after (depth + 1) missing
          fun v hv => happly v (List.mem_cons_of_mem _ hv)) hrender
  | .group header _ _ _ =>
    simp [survey, surveyed, explored, Visit.isEvaluable, Node.kind, Node.id, Node.header]
  | .router header _ =>
    simp [survey, surveyed, explored, Visit.isEvaluable, Node.kind, Node.id, Node.header]
  | .anchor header _ _ =>
    simp [survey, surveyed, explored, Visit.isEvaluable, Node.kind, Node.id, Node.header]

/-- A survey fails at the first condition that is decided before anything branches and cannot be rendered. If a condition is
rendered, the one that is not is below it. -/
theorem survey_unrendered (facts : Value) (n : Node) : ∀ (s : Findings) (depth : Nat) (missing : List String),
    s.branched = false → (∀ v ∈ explored facts depth n, v.Applies facts) →
      (∃ v ∈ determinate facts (explored facts depth n), ¬v.Renders) →
        ∃ cause ds, survey facts s depth missing n = .error ⟨.condition (.rendering cause), ds⟩ := by
  intro s depth missing hb happly hv
  match n with
  | .condition header c note whenTrue whenFalse =>
    obtain ⟨way, hway⟩ := happly ⟨.condition header c note whenTrue whenFalse, depth⟩ List.mem_cons_self c rfl
    cases way with
    | none =>
      rw [explored_open hway] at hv
      simp [determinate, openFact?_open hway] at hv
    | some holds =>
      obtain ⟨fact, o, hf, hu, ho, rfl⟩ := course_eq_some hway
      rw [explored_decided hway] at happly hv
      rw [determinate_decided (openFact?_decided hway)] at hv
      rw [survey_decided hf hu]
      by_cases htext : ∃ text, c.describe = .ok text
      · obtain ⟨after, hd, hr⟩ := decideBranch_records header note whenTrue whenFalse depth hf hu ho (Or.inr htext)
        rw [hd, Except.ok_bind]
        have hbelow : ∃ v ∈ determinate facts (explored facts (depth + 1) (if o.holds then whenTrue else whenFalse)),
            ¬v.Renders := by
          obtain ⟨v, hm, hn⟩ := hv
          rcases List.mem_cons.1 hm with rfl | hm
          · exact absurd ((Visit.renders_condition depth).2 htext) hn
          · exact ⟨v, hm, hn⟩
        have hbelow' := fun v hm => happly v (List.mem_cons_of_mem _ hm)
        cases hh : o.holds <;> rw [hh] at hbelow hbelow'
        · exact survey_unrendered facts whenFalse after (depth + 1) missing (hr.branched.trans hb) hbelow' hbelow
        · exact survey_unrendered facts whenTrue after (depth + 1) missing (hr.branched.trans hb) hbelow' hbelow
      · obtain ⟨cause, ds, hd⟩ := decideBranch_unrendered header depth ho hb htext
        exact ⟨cause, ds, by rw [hd]; rfl⟩
  | .leaf _ | .group _ _ _ _ | .router _ _ | .anchor _ _ _ =>
    obtain ⟨v, hm, hn⟩ := hv
    rw [explored_of_condition?_eq_none rfl, determinate] at hm
    rw [List.mem_singleton.1 (List.takeWhile_subset _ hm)] at hn
    exact absurd (Visit.renders_of_condition?_eq_none rfl) hn

end PartialEvaluation

/-! ## Partial evaluation -/

open PartialEvaluation

/-- Partial evaluation gives the outline of the nodes it explores, or fails at the first of them that takes no part in evaluation,
if the conditions decided before anything branches can be rendered; if one of these cannot, it fails for that reason. -/
theorem evaluatePartial_eq_outline {facts : Value} {tree : Node} (h : ∀ v ∈ explored facts 0 tree, v.Applies facts) :
    ((∀ v ∈ determinate facts (explored facts 0 tree), v.Renders) →
      tree.evaluatePartial facts =
        match (explored facts 0 tree).find? fun v => !v.isEvaluable with
        | none => .ok (outline facts (explored facts 0 tree))
        | some v => .error ⟨.notEvaluable v.node.id v.node.kind,
            ((explored facts 0 tree).takeWhile Visit.isEvaluable).flatMap (Visit.diagnostics facts)⟩) ∧
    ((∃ v ∈ determinate facts (explored facts 0 tree), ¬v.Renders) →
      ∃ cause ds, tree.evaluatePartial facts = .error ⟨.condition (.rendering cause), ds⟩) := by
  refine ⟨fun hrender => ?_, fun hrender => ?_⟩
  · rw [evaluatePartial_eq, survey_eq_surveyed facts tree {} 0 [] h (Or.inr hrender)]
    cases hfind : (explored facts 0 tree).find? fun v => !v.isEvaluable with
    | some v => simp [surveyed_some hfind, Findings.fail, Evaluation.Failure.after]
    | none =>
      rw [surveyed_none hfind]
      simp [Findings.extend, Findings.outcome, outline, union_nil]
  · obtain ⟨cause, ds, hs⟩ := survey_unrendered facts tree {} 0 [] rfl h hrender
    exact ⟨cause, ds, by rw [evaluatePartial_eq, hs]; rfl⟩

/-- With a licence whose kind is not known, everything explored applies and what is decided renders. -/
theorem evaluatePartial_eq_outline_licence :
    (∀ v ∈ explored Licence.known 0 Licence.tree, v.Applies Licence.known) ∧
      (∀ v ∈ determinate Licence.known (explored Licence.known 0 Licence.tree), v.Renders) ∧
        Licence.tree.evaluatePartial Licence.known =
          .ok (outline Licence.known (explored Licence.known 0 Licence.tree)) := by
  have happly : ∀ v ∈ explored Licence.known 0 Licence.tree, v.Applies Licence.known := by
    intro v hv c hc
    have hm : c ∈ (explored Licence.known 0 Licence.tree).filterMap fun v => v.node.condition? :=
      List.mem_filterMap.2 ⟨v, hv, hc⟩
    have hcs : ((explored Licence.known 0 Licence.tree).filterMap fun v => v.node.condition?) =
        [⟨"licence", "some?", .null⟩, ⟨"kind", "eq", .text "full"⟩] := rfl
    rw [hcs, List.mem_cons, List.mem_singleton] at hm
    rcases hm with rfl | rfl <;> exact ⟨_, rfl⟩
  have hrender : ∀ v ∈ determinate Licence.known (explored Licence.known 0 Licence.tree), v.Renders := by
    have hd : determinate Licence.known (explored Licence.known 0 Licence.tree) = [⟨Licence.tree, 0⟩] := rfl
    intro v hv
    rw [hd, List.mem_singleton] at hv
    rw [hv]
    exact (Visit.renders_condition 0).2 ⟨_, rfl⟩
  exact ⟨happly, hrender, (evaluatePartial_eq_outline happly).1 hrender⟩

namespace Dated

/-- A tree whose condition expects a mapping with a date for a key. -/
def tree : Node :=
  .condition (Licence.header "listed") ⟨"issuer", "eq", .mapping [(.date ⟨2024, 1, 1⟩, .text "x")]⟩ none
    (.router (Licence.header "in") []) (.router (Licence.header "out") [])

/-- The facts of an issuer. -/
def facts : Value := .record [("issuer", .text "Acme")]

end Dated

/-- All conditions explored apply and the router on the false branch is explored, yet the failure is not about the router: the
condition before it has a value that cannot be written. -/
theorem evaluatePartial_dateKey :
    (∀ v ∈ explored Dated.facts 0 Dated.tree, v.Applies Dated.facts) ∧
      (explored Dated.facts 0 Dated.tree).find? (fun v => !v.isEvaluable) = some ⟨.router (Licence.header "out") [], 1⟩ ∧
      Dated.tree.evaluatePartial Dated.facts = .error ⟨.condition (.rendering (.unwritableKey "date")), []⟩ ∧
      Dated.tree.evaluatePartial Dated.facts ≠ .error ⟨.notEvaluable "out" .router, []⟩ := by
  have hp : Dated.tree.evaluatePartial Dated.facts = .error ⟨.condition (.rendering (.unwritableKey "date")), []⟩ := by
    rw [evaluatePartial_eq]
    rfl
  refine ⟨?_, rfl, hp, ?_⟩
  · have he : explored Dated.facts 0 Dated.tree = [⟨Dated.tree, 0⟩, ⟨.router (Licence.header "out") [], 1⟩] := rfl
    rw [he]
    simp [Visit.Applies, Dated.tree, Node.condition?]
    exact ⟨_, rfl⟩
  · rw [hp]
    exact fun h => nomatch h

end RegulatoryTrees
