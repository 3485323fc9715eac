import Mathlib.Data.List.TakeWhile
import RegulatoryTrees.Proofs.Partial.Narrowing
import RegulatoryTrees.Proofs.Tree.Traversals

/-!
# Reachable leaves in the order of the walk

A partial evaluation explores some of the nodes of the walk, in their order (`nodes_explored_sublist`), so its leaves are some of those
of the tree and its missing facts some of the fact paths. In a tree of conditions and leaves of which no condition finds its fact or
asks for presence, it explores all of them (`nodes_explored_eq`), as long as every path can be followed.
-/

namespace RegulatoryTrees

namespace Node

/-- The leaf that a node is. -/
def leaf? : Node → Option Leaf
  | .leaf l => some l
  | _ => none

/-- A walk meets as many leaves as are counted. -/
theorem length_filterMap_leaf? (tree : Node) : (tree.walk.filterMap leaf?).length = tree.counts.leaves := by
  have hkind (n : Node) : n.leaf?.isSome = decide (n.kind = .leaf) := by cases n <;> rfl
  rw [List.length_filterMap_eq_countP]
  simp only [hkind]
  exact (tree.ofKind_counts .leaf).symm

/-- The conditions of a tree that begins with a condition are this one and those of its branches. -/
theorem conditions_condition (header : Header) (c : Condition) (note : Option String) (whenTrue whenFalse : Node) :
    (Node.condition header c note whenTrue whenFalse).conditions = c :: (whenTrue.conditions ++ whenFalse.conditions) := by
  simp only [conditions, walk_eq_preorder, preorder]
  rw [List.filterMap_cons_some (f := condition?) rfl, List.filterMap_append]

end Node

/-- A condition finds no fact, and its operator does not ask for presence. -/
structure Condition.Lacks (facts : Value) (c : Condition) : Prop where
  unresolved : ∀ value, facts.factAt c.fact = .ok value → value.isMissing = true
  not_isNil : c.operator? ≠ some .isNil
  not_isSome : c.operator? ≠ some .isSome

namespace PartialEvaluation

variable {facts : Value} {c : Condition}

/-! ## Visits and nodes -/

/-- The leaves that are visited are those among the nodes visited. -/
theorem filterMap_leaf?_map_node (vs : List Visit) : vs.filterMap Visit.leaf? = (vs.map Visit.node).filterMap Node.leaf? := by
  rw [List.filterMap_map]
  refine List.filterMap_congr fun v _ => ?_
  obtain ⟨n, depth⟩ := v
  cases n <;> rfl

/-- Both branches are taken at a condition only, for its fact path. -/
theorem factPath?_of_openFact? {v : Visit} {path : String} (h : v.openFact? facts = some path) : v.node.factPath? = some path := by
  obtain ⟨n, depth⟩ := v
  cases n with
  | condition header d note whenTrue whenFalse => exact congrArg some (fact_of_openFact? h).symm
  | leaf | group | router | anchor => cases h

/-- The conditions explored are conditions of the tree. -/
theorem mem_conditions_of_mem_explored {n : Node} {depth : Nat} {v : Visit} (hv : v ∈ explored facts depth n)
    (hc : v.node.condition? = some c) : c ∈ n.conditions :=
  Node.mem_conditions.2 ⟨v.node, node_mem_walk_of_mem_explored n hv, hc⟩

/-! ## Trees all of which is explored -/

/-- What a condition comes to is known only if its path can be followed. -/
theorem exists_fact_of_course {way : Option Bool} (h : course facts c = .ok way) : ∃ value, facts.factAt c.fact = .ok value := by
  rw [course, Except.bind_eq_ok] at h
  obtain ⟨fact, hf, -⟩ := h
  rw [Condition.factIn, Except.mapError_eq_ok] at hf
  exact ⟨fact, hf⟩

/-- Both branches are taken at a condition that lacks its fact, if its path can be followed. -/
theorem course_of_lacks (h : c.Lacks facts) (hfact : ∃ value, facts.factAt c.fact = .ok value) : course facts c = .ok none := by
  obtain ⟨value, hvalue⟩ := hfact
  have hpresence : c.operator?.any Operator.testsPresence = false := by
    cases hop : c.operator? with
    | none => rfl
    | some op =>
      cases op with
      | isNil => exact absurd hop h.not_isNil
      | isSome => exact absurd hop h.not_isSome
      | eq | neq | gt | lt | gte | lte | isIn | contains | matchesPattern => rfl
  have hu : isUndecided c value = true := by rw [isUndecided, h.unresolved value hvalue, hpresence, Bool.not_false, Bool.and_self]
  exact course_of_undecided (by rw [Condition.factIn, Except.mapError_eq_ok, hvalue]) hu

/-- Where both branches are taken at every condition, all nodes are explored. -/
theorem nodes_explored_eq {n : Node} (hbinary : n.IsBinary) (hopen : ∀ c ∈ n.conditions, course facts c = .ok none) (depth : Nat) :
    (explored facts depth n).map Visit.node = n.preorder := by
  match n with
  | .condition header c note whenTrue whenFalse =>
    rw [Node.conditions_condition, List.forall_mem_cons, List.forall_mem_append] at hopen
    obtain ⟨hway, hopentrue, hopenfalse⟩ := hopen
    rw [explored_open hway, List.map_cons, List.map_append, nodes_explored_eq hbinary.1 hopentrue,
      nodes_explored_eq hbinary.2 hopenfalse, Node.preorder]
  | .leaf _ => rfl
  | .group _ _ _ _ | .router _ _ | .anchor _ _ _ => exact hbinary.elim

/-- Where every condition lacks its fact, both branches are taken at all of them if none of those explored fails. -/
theorem course_of_applies {n : Node} (hbinary : n.IsBinary) (hlacks : ∀ c ∈ n.conditions, c.Lacks facts) {depth : Nat}
    (happlies : ∀ v ∈ explored facts depth n, v.Applies facts) : ∀ c ∈ n.conditions, course facts c = .ok none := by
  match n with
  | .condition header c note whenTrue whenFalse =>
    rw [Node.conditions_condition, List.forall_mem_cons, List.forall_mem_append] at hlacks ⊢
    obtain ⟨hlack, hlackstrue, hlacksfalse⟩ := hlacks
    obtain ⟨way, hway⟩ := happlies ⟨.condition header c note whenTrue whenFalse, depth⟩ List.mem_cons_self c rfl
    have hopen := course_of_lacks hlack (exists_fact_of_course hway)
    rw [explored_open hopen, List.forall_mem_cons, List.forall_mem_append] at happlies
    exact ⟨hopen, course_of_applies hbinary.1 hlackstrue happlies.2.1, course_of_applies hbinary.2 hlacksfalse happlies.2.2⟩
  | .leaf l =>
    rw [Node.conditions, Node.walk_eq_preorder]
    exact fun c hc => absurd hc List.not_mem_nil
  | .group _ _ _ _ | .router _ _ | .anchor _ _ _ => exact hbinary.elim

section Open

variable {tree : Node} (hopen : ∀ c ∈ tree.conditions, course facts c = .ok none)

include hopen

/-- Every condition explored is one at which both branches are taken. -/
theorem openFact?_eq_factPath? {depth : Nat} {v : Visit} (hv : v ∈ explored facts depth tree) :
    v.openFact? facts = v.node.factPath? := by
  obtain ⟨n, level⟩ := v
  cases n with
  | condition header d note whenTrue whenFalse => exact openFact?_open (hopen d (mem_conditions_of_mem_explored hv rfl))
  | leaf | group | router | anchor => rfl

/-- A tree of conditions and leaves has a partial evaluation if both branches are taken at every condition: nothing fails, and no
condition has to be put in words. -/
theorem exists_evaluatePartial (hbinary : tree.IsBinary) : ∃ p, tree.evaluatePartial facts = .ok p := by
  have happlies : ∀ v ∈ explored facts 0 tree, v.Applies facts :=
    fun v hv c hc => ⟨none, hopen c (mem_conditions_of_mem_explored hv hc)⟩
  have hrenders : ∀ v ∈ determinate facts (explored facts 0 tree), v.Renders := by
    intro v hv c hc
    have hnone := List.mem_takeWhile_imp hv
    rw [openFact?_eq_factPath? hopen ((List.takeWhile_prefix _).subset hv)] at hnone
    obtain ⟨n, level⟩ := v
    cases n with
    | condition => cases hnone
    | leaf | group | router | anchor => cases hc
  have hfind : (explored facts 0 tree).find? (fun v => !v.isEvaluable) = none := by
    refine List.find?_eq_none.2 fun v hv => ?_
    have hkind := tree.isBinary_iff.1 hbinary v.node (node_mem_walk_of_mem_explored tree hv)
    simpa [Visit.isEvaluable, or_iff_not_imp_left] using hkind
  rw [evaluatePartial_eq, survey_eq_surveyed facts tree {} 0 [] happlies (Or.inr hrenders), surveyed_none hfind]
  exact ⟨_, rfl⟩

end Open

end PartialEvaluation

open PartialEvaluation

/-! ## Leaves and missing facts -/

/-- A partial evaluation lists some of the leaves of the walk, in their order and each at most as often, and some of the fact paths of
the tree, each once. A tree of conditions and leaves none of whose conditions finds its fact or asks for presence has a partial
evaluation exactly if every path can be followed, and it lists all of the leaves, one more than there are conditions, and all of the
fact paths. -/
theorem evaluatePartial_in_walk_order (tree : Node) (facts : Value) :
    (∀ p, tree.evaluatePartial facts = .ok p →
      p.leaves.Sublist (tree.walk.filterMap Node.leaf?) ∧ (∀ l, p.leaves.count l ≤ (tree.walk.filterMap Node.leaf?).count l) ∧
        p.missing.Nodup ∧ p.missing ⊆ tree.factPaths) ∧
    (tree.IsBinary → (∀ c ∈ tree.conditions, c.Lacks facts) →
      ((∃ p, tree.evaluatePartial facts = .ok p) ↔ ∀ c ∈ tree.conditions, ∃ value, facts.factAt c.fact = .ok value) ∧
      ∀ p, tree.evaluatePartial facts = .ok p →
        p.leaves = tree.walk.filterMap Node.leaf? ∧ p.leaves.length = tree.counts.conditions + 1 ∧ p.missing = tree.factPaths) := by
  refine ⟨fun p hp => ?_, fun hbinary hlacks => ⟨⟨fun ⟨p, hp⟩ c hc => ?_, fun hfacts => ?_⟩, fun p hp => ?_⟩⟩
  · obtain ⟨-, rfl⟩ := outline_of_evaluatePartial hp
    have hsublist := nodes_explored_sublist facts tree 0
    have hleaves : (outline facts (explored facts 0 tree)).leaves.Sublist (tree.walk.filterMap Node.leaf?) := by
      rw [outline, filterMap_leaf?_map_node]
      exact hsublist.filterMap Node.leaf?
    refine ⟨hleaves, fun l => hleaves.count_le l, nodup_eraseDups _, fun path hpath => ?_⟩
    obtain ⟨v, hv, hopen⟩ := List.mem_filterMap.1 (List.mem_eraseDups.1 hpath)
    refine List.mem_eraseDups.2 (List.mem_filterMap.2 ⟨v.node, ?_, factPath?_of_openFact? hopen⟩)
    exact hsublist.subset (List.mem_map_of_mem hv)
  · obtain ⟨hsucceeds, -⟩ := outline_of_evaluatePartial hp
    exact exists_fact_of_course (course_of_applies hbinary hlacks (fun v hv => (hsucceeds v hv).1) c hc)
  · exact exists_evaluatePartial (fun c hc => course_of_lacks (hlacks c hc) (hfacts c hc)) hbinary
  · obtain ⟨hsucceeds, rfl⟩ := outline_of_evaluatePartial hp
    have hopen := course_of_applies hbinary hlacks fun v hv => (hsucceeds v hv).1
    have hnodes := nodes_explored_eq hbinary hopen 0
    rw [← Node.walk_eq_preorder] at hnodes
    have hleaves : (outline facts (explored facts 0 tree)).leaves = tree.walk.filterMap Node.leaf? := by
      rw [outline, filterMap_leaf?_map_node, hnodes]
    refine ⟨hleaves, ?_, ?_⟩
    · rw [hleaves, Node.length_filterMap_leaf?, Node.leaves_counts hbinary]
    · have hmissing : (explored facts 0 tree).filterMap (Visit.openFact? facts) =
          (explored facts 0 tree).filterMap (Node.factPath? ∘ Visit.node) :=
        List.filterMap_congr fun v hv => openFact?_eq_factPath? hopen hv
      rw [outline, hmissing, ← List.filterMap_map, hnodes, Node.factPaths]

/-! ## A form that is blank -/

namespace Form

/-- A tree that asks for the size of an issuer and then, either way, for the kind of its clients. -/
def tree : Node :=
  .condition (Licence.header "size") ⟨"issuer.size", "gt", .int 10⟩ none
    (.condition (Licence.header "large") ⟨"clients", "eq", .text "retail"⟩ none
      (.leaf (Licence.leaf "publish" .requiresAction)) (.leaf (Licence.leaf "register" .requiresAction)))
    (.condition (Licence.header "small") ⟨"clients", "eq", .text "retail"⟩ none
      (.leaf (Licence.leaf "warn" .requiresAction)) (.leaf (Licence.leaf "trade" .compliant)))

/-- No facts at all. -/
def blank : Value := .record []

/-- The conditions of the form, of which the last two ask the same. -/
theorem conditions_tree : tree.conditions =
    [⟨"issuer.size", "gt", .int 10⟩, ⟨"clients", "eq", .text "retail"⟩, ⟨"clients", "eq", .text "retail"⟩] := by
  rw [Node.conditions, Node.walk_eq_preorder]
  rfl

/-- Every condition can look for its fact in a blank form and does not find it. -/
theorem lacks_blank : ∀ c ∈ tree.conditions, c.Lacks blank ∧ blank.factAt c.fact = .ok .missing := by
  have hgt : Operator.named? "gt" = some .gt := by decide
  have heq : Operator.named? "eq" = some .eq := by decide
  have hlacks {c : Condition} {op : Operator} (hfact : blank.factAt c.fact = .ok .missing) (hop : c.operator? = some op)
      (hpresence : op.testsPresence = false) : c.Lacks blank ∧ blank.factAt c.fact = .ok .missing := by
    refine ⟨⟨fun value hvalue => ?_, ?_, ?_⟩, hfact⟩
    · rw [hfact, Except.ok.injEq] at hvalue
      exact hvalue ▸ rfl
    all_goals
      rw [hop]
      rintro ⟨⟩
      cases hpresence
  rw [conditions_tree]
  simp only [List.forall_mem_cons]
  exact ⟨hlacks rfl hgt rfl, hlacks rfl heq rfl, hlacks rfl heq rfl, nofun⟩

end Form

/-- Nothing is known of a blank form: all four leaves can be reached, and the two facts, one of them asked for twice, are missing. -/
theorem evaluatePartial_in_walk_order_form :
    Form.tree.IsBinary ∧ (∀ c ∈ Form.tree.conditions, c.Lacks Form.blank) ∧
      ∃ p, Form.tree.evaluatePartial Form.blank = .ok p ∧ p.leaves.map Leaf.id = ["publish", "register", "warn", "trade"] ∧
        p.leaves.Sublist (Form.tree.walk.filterMap Node.leaf?) ∧ p.leaves.length = 4 ∧ p.missing = ["issuer.size", "clients"] := by
  obtain ⟨hsome, hblank⟩ := evaluatePartial_in_walk_order Form.tree Form.blank
  have hbinary : Form.tree.IsBinary := ⟨⟨trivial, trivial⟩, trivial, trivial⟩
  have hlacks : ∀ c ∈ Form.tree.conditions, c.Lacks Form.blank := fun c hc => (Form.lacks_blank c hc).1
  obtain ⟨hexists, hall⟩ := hblank hbinary hlacks
  obtain ⟨p, hp⟩ := hexists.2 fun c hc => ⟨.missing, (Form.lacks_blank c hc).2⟩
  obtain ⟨hleaves, hlength, hmissing⟩ := hall p hp
  refine ⟨hbinary, hlacks, p, hp, ?_, (hsome p hp).1, ?_, ?_⟩
  · rw [hleaves, Node.walk_eq_preorder]
    rfl
  · rw [hlength, Node.counts, Node.walk_eq_preorder]
    rfl
  · rw [hmissing, Node.factPaths, Node.walk_eq_preorder]
    rfl

end RegulatoryTrees
