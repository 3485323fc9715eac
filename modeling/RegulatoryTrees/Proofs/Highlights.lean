import RegulatoryTrees.Proofs.Graph
import RegulatoryTrees.Proofs.Layout.Bounds
import RegulatoryTrees.Proofs.Layout.Marks
import RegulatoryTrees.Proofs.Partial.Exploration

/-!
# All views highlight one path

The path of an evaluation is collected from its result, from its trace alone, by the layout and for the graph; if no two nodes
of the tree share an identifier, all of them show the same nodes and branches (`highlights_agree`). The graph words all
conditions of the tree, also those off the path, so there is none where one of them can neither be worded nor has a label.
-/

namespace RegulatoryTrees

namespace Evaluation

/-- The neighbours on the path are the ends of the edges of the graph whose source a step of the trace is about and which bear
the name of its answer. -/
theorem Leads.mem_edges_iff {tree : Node} {e : Evaluation} {g : Graph} (h : Leads tree e) (hids : tree.ids.Nodup)
    (hg : Graph.ofTree tree = .ok g) (source target : String) :
    (source, target) ∈ (Graph.Highlight.ofEvaluation e).edges ↔
      ∃ edge ∈ g.edges, (∃ step ∈ e.trace, edge.source = step.nodeId ∧ edge.kind = branchName step.holds) ∧
        (edge.source, edge.target) = (source, target) := by
  have hedges : (Graph.Highlight.ofEvaluation e).edges = e.turns.map fun t => (t.source, t.target) := h.zip_path_tail
  rw [hedges]
  constructor
  · intro hmem
    obtain ⟨t, ht, hends⟩ := List.mem_map.1 hmem
    obtain ⟨⟨step, hstep, hid, hholds⟩, n, hn, hbranch⟩ := (h.mem_turns_iff hids t).1 ht
    obtain ⟨edge, hedge, hsource, hkind, htarget⟩ := (Graph.mem_branches_iff n t).1 hbranch
    refine ⟨edge, (Graph.mem_edges_ofTree hg edge).2 ⟨n, hn, hedge⟩, ⟨step, hstep, ?_, ?_⟩, ?_⟩
    · rw [hsource, hid]
    · rw [hkind, hholds]
    · rw [hsource, htarget]
      exact hends
  · rintro ⟨edge, hedge, ⟨step, hstep, hsource, hkind⟩, hends⟩
    obtain ⟨n, hn, hedge⟩ := (Graph.mem_edges_ofTree hg edge).1 hedge
    have hbranch : (⟨edge.source, step.holds, edge.target⟩ : Turn) ∈ n.branches :=
      (Graph.mem_branches_iff n _).2 ⟨edge, hedge, rfl, hkind, rfl⟩
    have hturn := (h.mem_turns_iff hids _).2 ⟨⟨step, hstep, hsource.symm, rfl⟩, n, hn, hbranch⟩
    exact hends ▸ List.mem_map_of_mem hturn

end Evaluation

/-- All views highlight one path. The identifiers on the path are the same whether they are collected from the result, from the
trace with the leaf, or for the graph. A layout that highlights them marks the nodes of the trace and the leaf, and for each
step the link from its node on the branch of its answer, and nothing else; there is one unless the tree is too wide for its
sizes. If each condition of the tree has a label or can be put in words, there is a graph, and otherwise there is none; the
edges highlighted in it are those from a node of the trace on the branch of the answer given there. -/
theorem highlights_agree {tree : Node} {facts : Value} {e : Evaluation} (hids : tree.ids.Nodup)
    (h : tree.evaluate facts = .ok e) :
    (∀ id, (id ∈ Layout.pathOfTrace e.trace (some e.leaf) ↔ id ∈ e.pathIds) ∧
      (id ∈ (Graph.Highlight.ofEvaluation e).vertices ↔ id ∈ e.pathIds)) ∧
    (∀ config : LayoutConfig Quantity,
      (∀ l, Layout.ofTree config e.pathIds tree = .ok l → l.Marks e) ∧
      ∀ size, config.Within size → (tree.columns + 1) * (2 * size + 1) < wholeLimit →
        ∃ l, Layout.ofTree config e.pathIds tree = .ok l) ∧
    ((∃ g, Graph.ofTree tree = .ok g) ↔ ∀ n ∈ tree.walk, Graph.Labelled n) ∧
    ∀ g, Graph.ofTree tree = .ok g → ∀ source target, (source, target) ∈ (Graph.Highlight.ofEvaluation e).edges ↔
      ∃ edge ∈ g.edges, (∃ step ∈ e.trace, edge.source = step.nodeId ∧ edge.kind = branchName step.holds) ∧
        (edge.source, edge.target) = (source, target) := by
  have hleads := Evaluation.leads_of_evaluateFrom h
  refine ⟨fun id => ⟨Iff.rfl, List.mem_eraseDups.symm⟩, fun config => ⟨fun l hl => ?_, fun size hsize hlimit => ?_⟩,
    Graph.exists_ofTree_iff tree, fun g hg => hleads.mem_edges_iff hids hg⟩
  · exact Layout.marks_of_ofTree hleads hids hl
  · exact Layout.exists_ofTree e.pathIds hsize hlimit

/-- The default layout of the tree that grants a full licence marks the path to it, and its graph highlights that path. -/
theorem highlights_agree_licence :
    Licence.tree.ids.Nodup ∧ Licence.tree.evaluate Licence.full = .ok Licence.granted ∧
      (∃ l, Layout.ofTree .default Licence.granted.pathIds Licence.tree = .ok l ∧ l.Marks Licence.granted) ∧
      ∃ g, Graph.ofTree Licence.tree = .ok g ∧ ∃ edge ∈ g.edges,
        (∃ step ∈ Licence.granted.trace, edge.source = step.nodeId ∧ edge.kind = branchName step.holds) ∧
          (edge.source, edge.target) = ("unlimited", "trade") := by
  have hids : Licence.tree.ids.Nodup := by
    rw [Node.ids, Node.walk_eq_preorder]
    decide
  have hlimit : (Licence.tree.columns + 1) * (2 * 200 + 1) < wholeLimit := by
    decide +kernel
  have agree := highlights_agree hids Licence.evaluate_full
  obtain ⟨l, hl⟩ := (agree.2.1 .default).2 200 LayoutConfig.default_within hlimit
  obtain ⟨g, hg⟩ : ∃ g, Graph.ofTree Licence.tree = .ok g := ⟨_, rfl⟩
  exact ⟨hids, Licence.evaluate_full, ⟨l, hl, (agree.2.1 .default).1 l hl⟩, g, hg,
    (agree.2.2.2 g hg "unlimited" "trade").1 (by decide)⟩

namespace Dated

/-- A tree that lists an issuer by name, and on the other branch asks for a mapping with a date for a key. -/
def listed : Node :=
  .condition (Licence.header "listed") ⟨"issuer", "eq", .text "Acme"⟩ none (.leaf (Licence.leaf "in" .compliant))
    (.condition (Licence.header "dated") ⟨"issuer", "eq", .mapping [(.date ⟨2024, 1, 1⟩, .text "x")]⟩ none
      (.leaf (Licence.leaf "odd" .blocked)) (.leaf (Licence.leaf "out" .blocked)))

end Dated

/-- An issuer is listed without a look at the condition on the other branch, but there is no graph: that condition cannot be
put in words. -/
theorem not_exists_graph_dated :
    Dated.listed.ids.Nodup ∧ (∃ e, Dated.listed.evaluate Dated.facts = .ok e) ∧
      Graph.ofTree Dated.listed = .error (.rendering (.unwritableKey "date")) := by
  refine ⟨?_, ⟨_, rfl⟩, rfl⟩
  rw [Node.ids, Node.walk_eq_preorder]
  decide

end RegulatoryTrees
