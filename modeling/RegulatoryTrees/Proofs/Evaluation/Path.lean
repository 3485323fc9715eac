import Mathlib.Data.List.Nodup
import RegulatoryTrees.Proofs.Evaluation.Steps
import RegulatoryTrees.Proofs.Tree.Walk

/-!
# The path of an evaluation

An evaluation goes from the root of a tree to a leaf and takes one branch of each condition that it meets. If no two nodes of
the tree share an identifier, its path and its branches can be told from the tree by the identifiers on the path alone
(`Evaluation.Leads.filter_eq_reverse`): of the other nodes and branches none bears or joins such identifiers only.
-/

namespace RegulatoryTrees

/-- A branch of a condition, by the nodes that it joins. -/
structure Turn where
  source : String
  branch : Bool
  target : String
  deriving DecidableEq

/-- Both ends of a branch are marked. -/
def Turn.isMarked (marked : String → Bool) (t : Turn) : Bool := marked t.source && marked t.target

namespace Node

/-- The nodes of a tree but those in groups, each after those below it, the branch for a condition that does not hold first. -/
def drawn : Node → List String
  | .condition h _ _ whenTrue whenFalse => drawn whenFalse ++ drawn whenTrue ++ [h.id]
  | n => [n.id]

/-- The branches of a condition, the one for a condition that does not hold first; other nodes have none. -/
def branches : Node → List Turn
  | .condition h _ _ whenTrue whenFalse => [⟨h.id, false, whenFalse.id⟩, ⟨h.id, true, whenTrue.id⟩]
  | _ => []

/-- The branches of the conditions of a tree but those in groups, in the order in which the conditions are drawn. -/
def turns : Node → List Turn
  | .condition h c note whenTrue whenFalse =>
    turns whenFalse ++ turns whenTrue ++ (Node.condition h c note whenTrue whenFalse).branches
  | _ => []

section Ids

variable {h : Header} {c : Condition} {note : Option String} {whenTrue whenFalse n : Node}

/-- The identifiers of a condition are its own and those of its branches. -/
theorem ids_condition : (Node.condition h c note whenTrue whenFalse).ids = h.id :: (whenTrue.ids ++ whenFalse.ids) := by
  simp [ids, walk_eq_preorder, preorder, id, header]

theorem id_mem_ids (n : Node) : n.id ∈ n.ids := List.mem_map_of_mem (mem_walk_self n)

/-- The nodes that are drawn are nodes of the tree. -/
theorem drawn_subset_ids (n : Node) : n.drawn ⊆ n.ids := by
  fun_induction drawn n with
  | case1 h c note whenTrue whenFalse hfalse htrue =>
    intro id hid
    rw [ids_condition]
    simp only [List.mem_append, List.mem_singleton] at hid
    rcases hid with (hid | hid) | rfl
    · exact List.mem_cons_of_mem _ (List.mem_append_right _ (hfalse hid))
    · exact List.mem_cons_of_mem _ (List.mem_append_left _ (htrue hid))
    · exact List.mem_cons_self
  | case2 n => simpa using id_mem_ids n

/-- The branches of a node lead from it. -/
theorem source_of_mem_branches {t : Turn} (ht : t ∈ n.branches) : t.source = n.id := by
  cases n with
  | condition =>
    rcases List.mem_pair.1 ht with rfl | rfl <;> rfl
  | leaf | group | router | anchor => cases ht

/-- A node has one branch for each answer. -/
theorem eq_of_mem_branches {t u : Turn} (ht : t ∈ n.branches) (hu : u ∈ n.branches) (h : t.branch = u.branch) : t = u := by
  cases n with
  | condition =>
    rcases List.mem_pair.1 ht with rfl | rfl <;> rcases List.mem_pair.1 hu with rfl | rfl <;> first | rfl | cases h
  | leaf | group | router | anchor => cases ht

/-- The branches of a tree are those of its nodes. -/
theorem exists_mem_walk_of_mem_turns (n : Node) : ∀ t ∈ n.turns, ∃ m ∈ n.walk, t ∈ m.branches := by
  fun_induction turns n with
  | case1 h c note whenTrue whenFalse hfalse htrue =>
    intro t ht
    rcases List.mem_append.1 ht with ht | ht
    · rcases List.mem_append.1 ht with ht | ht
      · obtain ⟨m, hm, ht⟩ := hfalse t ht
        exact ⟨m, mem_walk_of_child (List.mem_pair.2 (.inr rfl)) hm, ht⟩
      · obtain ⟨m, hm, ht⟩ := htrue t ht
        exact ⟨m, mem_walk_of_child List.mem_cons_self hm, ht⟩
    · exact ⟨_, mem_walk_self _, ht⟩
  | case2 => simp

/-- A branch leads from a node of the tree. -/
theorem source_mem_ids (n : Node) (t : Turn) (ht : t ∈ n.turns) : t.source ∈ n.ids := by
  obtain ⟨m, hm, ht⟩ := exists_mem_walk_of_mem_turns n t ht
  rw [source_of_mem_branches ht]
  exact List.mem_map_of_mem hm

end Ids

end Node

namespace Evaluation

/-- The nodes on the way to the leaf, the leaf included. -/
def path (e : Evaluation) : List String := e.trace.map Step.nodeId ++ [e.leaf.id]

/-- The branches taken on the way to the leaf. -/
def turns (e : Evaluation) : List Turn :=
  List.zipWith (fun step next => ⟨step.nodeId, step.holds, next⟩) e.trace e.path.tail

variable {facts : Value} {depth : Nat} {n : Node} {e : Evaluation} {step : Step} {diagnostics : List Diagnostic}

/-- A step puts its node before the path. -/
theorem path_afterStep : (afterStep step diagnostics e).path = step.nodeId :: e.path := rfl

/-- A step adds the branch that it takes, to the next node on the path. -/
theorem turns_afterStep {next : String} {further : List String} (h : e.path = next :: further) :
    (afterStep step diagnostics e).turns = ⟨step.nodeId, step.holds, next⟩ :: e.turns := by
  rw [turns, path_afterStep, List.tail_cons, turns, h]
  rfl

/-- A step bears the identifier of its condition. -/
theorem nodeId_of_stepOf {header : Header} {c : Condition} {fact : Value} {seen : Observation}
    (h : stepOf header c fact depth seen = .ok step) : step.nodeId = header.id := by
  obtain ⟨text, -, h⟩ := Except.bind_eq_ok.1 h
  cases h
  rfl

/-- An evaluation leads from a node to a leaf, at each condition by the branch for the answer of its step. -/
inductive Leads : Node → Evaluation → Prop where
  | leaf (l : Leaf) : Leads (.leaf l) ⟨l, [], []⟩
  | step {header : Header} {c : Condition} {note : Option String} {whenTrue whenFalse : Node} {step : Step}
      {diagnostics : List Diagnostic} {rest : Evaluation} (hid : step.nodeId = header.id)
      (hrest : Leads (if step.holds then whenTrue else whenFalse) rest) :
      Leads (.condition header c note whenTrue whenFalse) (afterStep step diagnostics rest)

/-- An evaluation leads through the tree. -/
theorem leads_of_evaluateFrom (h : evaluateFrom facts depth n = .ok e) : Leads n e := by
  induction htrace : e.trace generalizing depth n e with
  | nil =>
    cases n with
    | leaf l =>
      cases h
      exact .leaf l
    | condition =>
      obtain ⟨_, _, _, _, -, -, -, -, rfl⟩ := evaluateFrom_condition_eq_ok.1 h
      cases htrace
    | group | router | anchor => cases h
  | cons first trace ih =>
    cases n with
    | condition =>
      obtain ⟨fact, seen, step, rest, -, -, hstep, hrest, rfl⟩ := evaluateFrom_condition_eq_ok.1 h
      obtain ⟨-, htrace⟩ := List.cons.inj htrace
      rw [← (stepOf_fields hstep).2.2.2] at hrest
      exact .step (nodeId_of_stepOf hstep) (ih hrest htrace)
    | leaf => cases h; cases htrace
    | group | router | anchor => cases h

namespace Leads

/-- The path begins at the root. -/
theorem exists_path_eq_cons (h : Leads n e) : ∃ further, e.path = n.id :: further := by
  cases h with
  | leaf l => exact ⟨[], rfl⟩
  | @step header _ _ _ _ step _ rest hid _ => exact ⟨rest.path, by rw [path_afterStep, hid]; rfl⟩

/-- The nodes on the path are nodes of the tree. -/
theorem path_subset_ids (h : Leads n e) : e.path ⊆ n.ids := by
  induction h with
  | leaf l =>
    have hpath : (Evaluation.mk l [] []).path = [(Node.leaf l).id] := rfl
    rw [hpath]
    exact List.cons_subset.2 ⟨Node.id_mem_ids (.leaf l), List.nil_subset _⟩
  | @step header _ _ whenTrue whenFalse step _ rest hid _ ih =>
    intro id hmem
    rw [Node.ids_condition]
    rcases List.mem_cons.1 hmem with rfl | hmem
    · rw [hid]
      exact List.mem_cons_self
    · refine List.mem_cons_of_mem _ (List.mem_append.2 ?_)
      have hbelow := ih hmem
      split at hbelow
      · exact .inl hbelow
      · exact .inr hbelow

/-- The branches taken are branches of the tree. -/
theorem turns_subset (h : Leads n e) : e.turns ⊆ n.turns := by
  induction h with
  | leaf l => exact List.nil_subset _
  | @step header c note whenTrue whenFalse step diagnostics rest hid hrest ih =>
    obtain ⟨further, hpath⟩ := hrest.exists_path_eq_cons
    rw [turns_afterStep hpath, hid, Node.turns]
    refine List.cons_subset.2 ⟨List.mem_append_right _ ?_, fun t ht => List.mem_append_left _ (List.mem_append.2 ?_)⟩
    · cases step.holds <;> simp [Node.branches]
    · have hbelow := ih ht
      split at hbelow
      · exact .inr hbelow
      · exact .inl hbelow

/-- For each step, the branch of its answer is taken at its node. -/
theorem map_turns (h : Leads n e) :
    (e.turns.map fun t => (t.source, t.branch)) = e.trace.map fun step => (step.nodeId, step.holds) := by
  induction h with
  | leaf l => rfl
  | @step _ _ _ _ _ step diagnostics rest _ hrest ih =>
    obtain ⟨further, hpath⟩ := hrest.exists_path_eq_cons
    rw [turns_afterStep hpath, List.map_cons, ih]
    rfl

/-- Neighbours on the path are joined by the branches taken. -/
theorem zip_path_tail (h : Leads n e) : e.path.zip e.path.tail = e.turns.map fun t => (t.source, t.target) := by
  induction h with
  | leaf l => rfl
  | @step _ _ _ _ _ step diagnostics rest _ hrest ih =>
    obtain ⟨further, hpath⟩ := hrest.exists_path_eq_cons
    rw [turns_afterStep hpath, List.map_cons, ← ih, path_afterStep, List.tail_cons, hpath]
    rfl

/-- If no two nodes share an identifier, the branches taken are the branches of the tree on which a step of the trace leaves
its node. Both leave the one node that has the identifier of the step. -/
theorem mem_turns_iff (h : Leads n e) (hids : n.ids.Nodup) (t : Turn) :
    t ∈ e.turns ↔
      (∃ step ∈ e.trace, step.nodeId = t.source ∧ step.holds = t.branch) ∧ ∃ m ∈ n.walk, t ∈ m.branches := by
  constructor
  · intro ht
    have hstep : (t.source, t.branch) ∈ e.trace.map fun step => (step.nodeId, step.holds) := by
      rw [← h.map_turns]
      exact List.mem_map_of_mem ht
    obtain ⟨step, hmem, heq⟩ := List.mem_map.1 hstep
    exact ⟨⟨step, hmem, congrArg Prod.fst heq, congrArg Prod.snd heq⟩,
      n.exists_mem_walk_of_mem_turns t (h.turns_subset ht)⟩
  · rintro ⟨⟨step, hmem, hid, hholds⟩, m, hm, ht⟩
    have htaken : (t.source, t.branch) ∈ e.turns.map fun t => (t.source, t.branch) := by
      rw [h.map_turns, ← hid, ← hholds]
      exact List.mem_map_of_mem hmem
    obtain ⟨taken, htaken, heq⟩ := List.mem_map.1 htaken
    obtain ⟨m', hm', htaken'⟩ := n.exists_mem_walk_of_mem_turns taken (h.turns_subset htaken)
    have hnode : m' = m := by
      refine List.inj_on_of_nodup_map hids hm' hm ?_
      rw [← Node.source_of_mem_branches htaken', ← Node.source_of_mem_branches ht]
      exact congrArg Prod.fst heq
    rw [Node.eq_of_mem_branches (hnode ▸ ht) htaken' (congrArg Prod.snd heq).symm]
    exact htaken

/-- Where nothing is marked, no node that is drawn and no branch is. -/
theorem filter_eq_nil_of_unmarked {marked : String → Bool} (h : ∀ id ∈ n.ids, marked id = false) :
    n.drawn.filter marked = [] ∧ n.turns.filter (·.isMarked marked) = [] := by
  constructor
  · exact List.filter_eq_nil_iff.2 fun id hid => by simp [h id (n.drawn_subset_ids hid)]
  · exact List.filter_eq_nil_iff.2 fun t ht => by simp [Turn.isMarked, h t.source (n.source_mem_ids t ht)]

/-- If no two nodes share an identifier and the identifiers on the path are marked, the nodes drawn that are marked are those
of the path, and the branches that are marked those that the evaluation takes. Below the root, the identifiers that are marked
are those on the rest of the path. -/
theorem filter_eq_reverse (h : Leads n e) (hids : n.ids.Nodup) {marked : String → Bool}
    (hmarked : ∀ id ∈ n.ids, marked id = true ↔ id ∈ e.path) :
    n.drawn.filter marked = e.path.reverse ∧ n.turns.filter (·.isMarked marked) = e.turns.reverse := by
  induction h with
  | leaf l =>
    have hroot : marked l.id = true := (hmarked l.id (Node.id_mem_ids (.leaf l))).2 List.mem_cons_self
    constructor
    · exact List.filter_cons_of_pos hroot
    · rfl
  | @step header c note whenTrue whenFalse step diagnostics rest hid hrest ih =>
    rw [Node.ids_condition] at hids hmarked
    rw [path_afterStep, hid] at hmarked
    obtain ⟨hfresh, hbelow⟩ := List.nodup_cons.1 hids
    obtain ⟨htrue, hfalse, hapart⟩ := List.nodup_append.1 hbelow
    have hroot : marked header.id = true := (hmarked header.id List.mem_cons_self).2 List.mem_cons_self
    have hmarked : ∀ id ∈ whenTrue.ids ++ whenFalse.ids, marked id = true ↔ id ∈ rest.path := by
      intro id hmem
      have hne : id ≠ header.id := fun heq => hfresh (heq ▸ hmem)
      rw [hmarked id (List.mem_cons_of_mem _ hmem), List.mem_cons, or_iff_right hne]
    obtain ⟨further, hpath⟩ := hrest.exists_path_eq_cons
    have hsubset := hrest.path_subset_ids
    have hnext : (if step.holds then whenTrue else whenFalse).id ∈ rest.path := by
      rw [hpath]
      exact List.mem_cons_self
    rw [turns_afterStep hpath, path_afterStep, hid]
    have unmarked {other : Node} (hother : ∀ id ∈ other.ids, id ∈ whenTrue.ids ++ whenFalse.ids)
        (hoff : ∀ id ∈ other.ids, id ∉ (if step.holds then whenTrue else whenFalse).ids) :
        ∀ id ∈ other.ids, marked id = false := by
      intro id hmem
      rw [Bool.eq_false_iff, ne_eq, hmarked id (hother id hmem)]
      exact fun hpath => hoff id hmem (hsubset hpath)
    cases hb : step.holds with
    | true =>
      simp only [hb, if_true] at ih hnext unmarked
      have hother := unmarked (fun id => List.mem_append_right _) fun id hid hid' => hapart id hid' id hid rfl
      have hon : Turn.isMarked marked ⟨header.id, true, whenTrue.id⟩ = true := by
        simp [Turn.isMarked, hroot, (hmarked _ (List.mem_append_left _ whenTrue.id_mem_ids)).2 hnext]
      have hoff : Turn.isMarked marked ⟨header.id, false, whenFalse.id⟩ = false := by
        simp [Turn.isMarked, hother _ whenFalse.id_mem_ids]
      obtain ⟨hdrawn, hturns⟩ := ih htrue fun id hid => hmarked id (List.mem_append_left _ hid)
      obtain ⟨hdrawn', hturns'⟩ := filter_eq_nil_of_unmarked hother
      simp [Node.drawn, Node.turns, Node.branches, hdrawn, hdrawn', hturns, hturns', hroot, hon, hoff]
    | false =>
      simp only [hb, Bool.false_eq_true, if_false] at ih hnext unmarked
      have hother := unmarked (fun id => List.mem_append_left _) fun id hid hid' => hapart id hid id hid' rfl
      have hon : Turn.isMarked marked ⟨header.id, false, whenFalse.id⟩ = true := by
        simp [Turn.isMarked, hroot, (hmarked _ (List.mem_append_right _ whenFalse.id_mem_ids)).2 hnext]
      have hoff : Turn.isMarked marked ⟨header.id, true, whenTrue.id⟩ = false := by
        simp [Turn.isMarked, hother _ whenTrue.id_mem_ids]
      obtain ⟨hdrawn, hturns⟩ := ih hfalse fun id hid => hmarked id (List.mem_append_right _ hid)
      obtain ⟨hdrawn', hturns'⟩ := filter_eq_nil_of_unmarked hother
      simp [Node.drawn, Node.turns, Node.branches, hdrawn, hdrawn', hturns, hturns', hroot, hon, hoff]

end Leads

end Evaluation

end RegulatoryTrees
