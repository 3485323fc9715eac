import RegulatoryTrees.Proofs.Evaluation.Path
import RegulatoryTrees.Layout
import RegulatoryTrees.Proofs.Outcome

/-!
# What a layout marks

Whatever a layout is computed with, its boxes are the nodes drawn and its links the branches between them, a box is marked if
its node is highlighted, and a link if both its ends are (`subtree_shows`). So a layout that highlights the path of an
evaluation marks the nodes on that path and the branches that the steps of the trace take (`marks_of_ofTree`).
-/

namespace RegulatoryTrees

variable {α : Type}

/-- The branch that a link is drawn for. -/
def Link.turn (l : Link α) : Turn := ⟨l.fromId, l.branch, l.toId⟩

namespace Layout

/-- A layout marks the boxes of the nodes on the path of an evaluation, and for each step of the trace the link that leaves its
node on the branch of its answer; no other boxes or links. -/
structure Marks (l : Layout α) (e : Evaluation) : Prop where
  boxes : (l.boxes.filter Box.onPath).map Box.id = (e.trace.map Step.nodeId ++ [e.leaf.id]).reverse
  links : ((l.links.filter Link.onPath).map fun k => (k.fromId, k.branch)) =
    (e.trace.map fun step => (step.nodeId, step.holds)).reverse

/-- Boxes and links show a tree with some of its nodes marked. -/
structure Shows (boxes : List (Box α)) (links : List (Link α)) (marked : String → Bool) (n : Node) : Prop where
  ids : boxes.map Box.id = n.drawn
  turns : links.map Link.turn = n.turns
  boxMarks : ∀ b ∈ boxes, b.onPath = marked b.id
  linkMarks : ∀ l ∈ links, l.onPath = l.turn.isMarked marked

namespace Shows

variable {boxes : List (Box α)} {links : List (Link α)} {marked : String → Bool} {n : Node}

/-- The boxes that are marked are those of the nodes that are. -/
theorem map_filter_boxes (h : Shows boxes links marked n) :
    (boxes.filter Box.onPath).map Box.id = n.drawn.filter marked := by
  rw [← h.ids, List.filter_map, List.filter_congr h.boxMarks]
  rfl

/-- The links that are marked are those of the branches between nodes that are. -/
theorem map_filter_links (h : Shows boxes links marked n) :
    (links.filter Link.onPath).map Link.turn = n.turns.filter (·.isMarked marked) := by
  rw [← h.turns, List.filter_map, List.filter_congr h.linkMarks]
  rfl

end Shows

section Subtrees

variable [Coordinate α] {config : LayoutConfig α} {highlighted : List String}

/-- A box in its place bears the identifier of its node, and is marked if that is highlighted. -/
theorem place_id {n : Node} {depth : Nat} {left : α} {b : Box α} (h : place config highlighted n depth left = .ok b) :
    b.id = n.id ∧ b.onPath = highlighted.contains n.id := by
  obtain ⟨x, -, h⟩ := Except.bind_eq_ok.1 h
  obtain ⟨level, -, h⟩ := Except.bind_eq_ok.1 h
  obtain ⟨offset, -, h⟩ := Except.bind_eq_ok.1 h
  obtain ⟨y, -, h⟩ := Except.bind_eq_ok.1 h
  cases h
  exact ⟨rfl, rfl⟩

/-- A link is drawn for the branch between its boxes, and is marked if they are. -/
theorem connect_turn {upper lower : Box α} {branch : Bool} {l : Link α} (h : connect upper lower branch = .ok l) :
    l.turn = ⟨upper.id, branch, lower.id⟩ ∧ l.onPath = (upper.onPath && lower.onPath) := by
  obtain ⟨fromX, -, h⟩ := Except.bind_eq_ok.1 h
  obtain ⟨fromY, -, h⟩ := Except.bind_eq_ok.1 h
  obtain ⟨toX, -, h⟩ := Except.bind_eq_ok.1 h
  cases h
  exact ⟨rfl, rfl⟩

/-- A node that is no condition is a box by itself. -/
theorem subtree_single {n : Node} {depth : Nat} {left : α} {s : Subtree α}
    (hn : ∀ header c note whenTrue whenFalse, n = .condition header c note whenTrue whenFalse → False)
    (h : subtree config highlighted depth left n = .ok s) :
    place config highlighted n depth left = .ok s.root ∧ s.boxes = [s.root] ∧ s.links = [] := by
  rw [subtree] at h
  · obtain ⟨root, hroot, h⟩ := Except.bind_eq_ok.1 h
    obtain ⟨extent, -, h⟩ := Except.bind_eq_ok.1 h
    cases h
    exact ⟨hroot, rfl, rfl⟩
  · exact hn

/-- A condition is drawn as the two subtrees below it, its own box, and its links to theirs. -/
theorem subtree_condition {header : Header} {c : Condition} {note : Option String} {whenTrue whenFalse : Node} {depth : Nat}
    {left : α} {s : Subtree α}
    (h : subtree config highlighted depth left (.condition header c note whenTrue whenFalse) = .ok s) :
    ∃ (middle x : α) (lower upper : Subtree α) (toFalse toTrue : Link α),
      subtree config highlighted (depth + 1) left whenFalse = .ok lower ∧
      subtree config highlighted (depth + 1) middle whenTrue = .ok upper ∧
      place config highlighted (.condition header c note whenTrue whenFalse) depth x = .ok s.root ∧
      connect s.root lower.root false = .ok toFalse ∧ connect s.root upper.root true = .ok toTrue ∧
      s.boxes = lower.boxes ++ upper.boxes ++ [s.root] ∧ s.links = lower.links ++ upper.links ++ [toFalse, toTrue] := by
  rw [subtree] at h
  obtain ⟨lower, hlower, h⟩ := Except.bind_eq_ok.1 h
  obtain ⟨middle, -, h⟩ := Except.bind_eq_ok.1 h
  obtain ⟨upper, hupper, h⟩ := Except.bind_eq_ok.1 h
  obtain ⟨total, -, h⟩ := Except.bind_eq_ok.1 h
  obtain ⟨halfTotal, -, h⟩ := Except.bind_eq_ok.1 h
  obtain ⟨center, -, h⟩ := Except.bind_eq_ok.1 h
  obtain ⟨halfWidth, -, h⟩ := Except.bind_eq_ok.1 h
  obtain ⟨x, -, h⟩ := Except.bind_eq_ok.1 h
  obtain ⟨root, hroot, h⟩ := Except.bind_eq_ok.1 h
  obtain ⟨toFalse, hfalse, h⟩ := Except.bind_eq_ok.1 h
  obtain ⟨toTrue, htrue, h⟩ := Except.bind_eq_ok.1 h
  cases h
  exact ⟨middle, x, lower, upper, toFalse, toTrue, hlower, hupper, hroot, hfalse, htrue, rfl, rfl⟩

/-- A subtree in its place shows its node, with the highlighted ones marked. -/
theorem subtree_shows (n : Node) : ∀ {depth : Nat} {left : α} {s : Subtree α},
    subtree config highlighted depth left n = .ok s →
      s.root.id = n.id ∧ s.root.onPath = highlighted.contains n.id ∧
        Shows s.boxes s.links highlighted.contains n := by
  fun_induction Node.drawn n with
  | case1 header c note whenTrue whenFalse hfalse htrue =>
    intro depth left s h
    obtain ⟨middle, x, lower, upper, toFalse, toTrue, hlower, hupper, hroot, hto, hto', hboxes, hlinks⟩ := subtree_condition h
    obtain ⟨hid, hmark, hshows⟩ := hfalse hlower
    obtain ⟨hid', hmark', hshows'⟩ := htrue hupper
    obtain ⟨hturn, honPath⟩ := connect_turn hto
    obtain ⟨hturn', honPath'⟩ := connect_turn hto'
    obtain ⟨hrootId, hrootMark⟩ := place_id hroot
    refine ⟨hrootId, hrootMark, ?_, ?_, ?_, ?_⟩
    · simp only [hboxes, List.map_append, List.map_cons, List.map_nil, hshows.ids, hshows'.ids, hrootId, Node.drawn,
        Node.id, Node.header]
    · simp only [hlinks, List.map_append, List.map_cons, List.map_nil, hshows.turns, hshows'.turns, hturn, hturn', hrootId,
        hid, hid', Node.turns, Node.branches, Node.id, Node.header]
    · rw [hboxes]
      intro b hb
      rcases List.mem_append.1 hb with hb | hb
      · exact (List.mem_append.1 hb).elim (hshows.boxMarks b) (hshows'.boxMarks b)
      · rw [List.mem_singleton.1 hb, hrootMark, hrootId]
    · rw [hlinks]
      intro l hl
      rcases List.mem_append.1 hl with hl | hl
      · exact (List.mem_append.1 hl).elim (hshows.linkMarks l) (hshows'.linkMarks l)
      · rcases List.mem_pair.1 hl with rfl | rfl
        · rw [honPath, hturn, Turn.isMarked, hrootMark, hmark, hrootId, hid]
        · rw [honPath', hturn', Turn.isMarked, hrootMark, hmark', hrootId, hid']
  | case2 n hn =>
    intro depth left s h
    obtain ⟨hroot, hboxes, hlinks⟩ := subtree_single hn h
    obtain ⟨hid, hmark⟩ := place_id hroot
    refine ⟨hid, hmark, ?_, ?_, ?_, ?_⟩
    · rw [hboxes, List.map_singleton, hid, Node.drawn]
      exact hn
    · rw [hlinks, List.map_nil, Node.turns]
      exact hn
    · rw [hboxes]
      intro b hb
      rw [List.mem_singleton.1 hb, hmark, hid]
    · rw [hlinks]
      exact fun l hl => absurd hl List.not_mem_nil

/-- A layout shows its tree, with the highlighted nodes marked. -/
theorem ofTree_shows {tree : Node} {l : Layout α} (h : ofTree config highlighted tree = .ok l) :
    Shows l.boxes l.links highlighted.contains tree := by
  obtain ⟨all, hall, h⟩ := Except.bind_eq_ok.1 h
  obtain ⟨right, -, h⟩ := Except.bind_eq_ok.1 h
  obtain ⟨width, -, h⟩ := Except.bind_eq_ok.1 h
  obtain ⟨bottom, -, h⟩ := Except.bind_eq_ok.1 h
  obtain ⟨height, -, h⟩ := Except.bind_eq_ok.1 h
  cases h
  exact (subtree_shows tree hall).2.2

/-- A layout that highlights the path of an evaluation marks that path, if no two nodes share an identifier. -/
theorem marks_of_ofTree {tree : Node} {e : Evaluation} {l : Layout α} (hleads : Evaluation.Leads tree e)
    (hids : tree.ids.Nodup) (h : ofTree config e.pathIds tree = .ok l) : l.Marks e := by
  have hshows := ofTree_shows h
  have hmarked : ∀ id ∈ tree.ids, e.pathIds.contains id = true ↔ id ∈ e.path := by
    intro id _
    rw [List.contains_iff_mem, Evaluation.pathIds, List.mem_eraseDups]
    rfl
  obtain ⟨hdrawn, hturns⟩ := hleads.filter_eq_reverse hids hmarked
  constructor
  · exact hshows.map_filter_boxes.trans hdrawn
  · calc ((l.links.filter Link.onPath).map fun k => (k.fromId, k.branch))
        = ((l.links.filter Link.onPath).map Link.turn).map fun t => (t.source, t.branch) := by
          rw [List.map_map]
          rfl
      _ = (e.turns.map fun t => (t.source, t.branch)).reverse := by
          rw [hshows.map_filter_links, hturns, List.map_reverse]
      _ = (e.trace.map fun step => (step.nodeId, step.holds)).reverse := by rw [hleads.map_turns]

end Subtrees

end Layout

end RegulatoryTrees
