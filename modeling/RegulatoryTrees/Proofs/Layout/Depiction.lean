import RegulatoryTrees.Proofs.Layout.Bounds
import RegulatoryTrees.Proofs.Layout.Marks
import RegulatoryTrees.Proofs.Layout.Separation

/-!
# What a layout draws

Whatever a layout is computed with, it has one box for each node that branches lead to, and one link for each branch, between the
boxes of its ends (`subtree_depicts`). The boxes stand in post-order, the branch for a condition that does not hold first
(`Node.pairwise_ways`), so they are those of the walk backwards, less the nodes in groups (`Node.reverse_drawn_sublist`). A link is
told by its upper node and its branch, so links have different identifiers if boxes do (`Depicts.nodup_linkIds`).
-/

namespace RegulatoryTrees

namespace Node

/-! ## The order of the nodes -/

/-- The nodes are drawn in post-order: a way comes before its beginnings, and where two ways part, the one by the branch for a
condition that does not hold comes first. -/
theorem pairwise_ways (n : Node) : n.ways.Pairwise fun p q => q <+: p ∨ Parts p q := by
  induction n using spots.induct with
  | case1 header c note whenTrue whenFalse hfalse htrue =>
    have below (branch : Bool) {ways : List (List Bool)} (h : ways.Pairwise fun p q => q <+: p ∨ Parts p q) :
        (ways.map (branch :: ·)).Pairwise fun p q => q <+: p ∨ Parts p q := by
      refine List.pairwise_map.2 (h.imp fun hpq => hpq.imp (fun hprefix => ?_) (Parts.after branch))
      exact List.cons_prefix_cons.2 ⟨rfl, hprefix⟩
    rw [ways_condition]
    refine List.pairwise_append.2
      ⟨List.pairwise_append.2 ⟨below false hfalse, below true htrue, ?_⟩, List.pairwise_singleton _ _, ?_⟩
    · intro p hp q hq
      obtain ⟨p, -, rfl⟩ := List.mem_map.1 hp
      obtain ⟨q, -, rfl⟩ := List.mem_map.1 hq
      exact .inr (Parts.here p q)
    · intro p _ q hq
      rw [List.mem_singleton.1 hq]
      exact .inl List.nil_prefix
  | case2 n hn =>
    rw [ways_single hn]
    exact List.pairwise_singleton _ _

/-- Backwards, the nodes that are drawn are nodes of the walk, in its order. -/
theorem reverse_drawn_sublist (n : Node) : n.drawn.reverse.Sublist n.ids := by
  fun_induction drawn n with
  | case1 h c note whenTrue whenFalse hfalse htrue =>
    rw [ids_condition, List.reverse_append, List.reverse_append, List.reverse_singleton]
    exact (htrue.append hfalse).cons_cons h.id
  | case2 n => exact List.singleton_sublist.2 n.id_mem_ids

/-! ## The branches that are drawn -/

/-- The forks of a tree are the children of its spots. -/
theorem forks_eq (n : Node) : n.forks = n.spots.flatMap fun s => s.children.map fun child => (s.way, child.1) := by
  simp only [forks, arms, List.map_flatMap, List.map_map, Function.comp_def]

/-- The forks of a node with a condition are those of its branches and its own two. -/
theorem forks_condition (header : Header) (c : Condition) (note : Option String) (whenTrue whenFalse : Node) :
    (Node.condition header c note whenTrue whenFalse).forks =
      (whenFalse.forks.map fun fork => (false :: fork.1, fork.2)) ++ (whenTrue.forks.map fun fork => (true :: fork.1, fork.2)) ++
        [([], false), ([], true)] := by
  have below (branch : Bool) (columns : Nat) (s : Spot) :
      ((s.under branch columns).children.map fun child => ((s.under branch columns).way, child.1)) =
        (s.children.map fun child => (s.way, child.1)).map fun fork => (branch :: fork.1, fork.2) := by
    rw [Spot.children_under, List.map_map, List.map_map]
    rfl
  rw [forks_eq, forks_eq, forks_eq, spots, List.flatMap_append, List.flatMap_append, List.flatMap_singleton, List.flatMap_map,
    List.flatMap_map, List.map_flatMap, List.map_flatMap]
  simp only [below]
  rfl

/-- There is no fork without a condition. -/
theorem forks_single {n : Node}
    (hn : ∀ header c note whenTrue whenFalse, n = .condition header c note whenTrue whenFalse → False) : n.forks = [] := by
  rw [forks_eq, spots_single hn, List.flatMap_singleton, children_single hn]
  rfl

/-- A branch leads to each node that is drawn, but to the root. -/
theorem length_forks (n : Node) : n.forks.length + 1 = n.ways.length := by
  induction n using spots.induct with
  | case1 header c note whenTrue whenFalse hfalse htrue =>
    rw [forks_condition, ways_condition]
    simp only [List.length_append, List.length_map, List.length_cons, List.length_nil]
    omega
  | case2 n hn =>
    rw [forks_single hn, ways_single hn]
    rfl

end Node

variable {α : Type}

/-! ## Boxes and links -/

/-- The upper edge of the boxes at a depth. -/
def Layout.top [Coordinate α] (config : LayoutConfig α) (depth : Nat) : Except Overflow α := do
  Coordinate.add (← Coordinate.mul (Coordinate.ofNat depth) (← Coordinate.add config.nodeHeight config.verticalSpacing))
    config.padding

/-- A box depicts a node at a depth. -/
structure Box.Depicts [Coordinate α] (config : LayoutConfig α) (highlighted : List String) (depth : Nat) (n : Node) (b : Box α) :
    Prop where
  id : b.id = n.id
  kind : b.kind = n.kind
  depth : b.depth = depth
  y : Layout.top config b.depth = .ok b.y
  width : b.width = config.nodeWidth
  height : b.height = config.nodeHeight
  onPath : b.onPath = highlighted.contains n.id

/-- A link joins two boxes by a branch: it leads from the middle of the lower edge of the one to the middle of the upper edge of the
other, and is on the path if both are. -/
structure Link.Joins [Coordinate α] (k : Link α) (upper lower : Box α) (branch : Bool) : Prop where
  fromId : k.fromId = upper.id
  toId : k.toId = lower.id
  fromX : upper.centerX = .ok k.fromX
  fromY : upper.bottomY = .ok k.fromY
  toX : lower.centerX = .ok k.toX
  toY : k.toY = lower.y
  branch : k.branch = branch
  onPath : k.onPath = (upper.onPath && lower.onPath)

/-- A link is drawn for a branch of one of the nodes that ways lead to: it joins the boxes of its ends. -/
def Link.IsAt [Coordinate α] (spots : List (List Bool × Box α)) (fork : List Bool × Bool) (k : Link α) : Prop :=
  ∃ upper lower, (fork.1, upper) ∈ spots ∧ (fork.1 ++ [fork.2], lower) ∈ spots ∧ k.Joins upper lower fork.2

/-- A box depicts the node that branches lead to from a node at a depth. -/
def Box.IsAt [Coordinate α] (config : LayoutConfig α) (highlighted : List String) (depth : Nat) (n : Node) (way : List Bool)
    (b : Box α) : Prop :=
  ∃ m, n.along? way = some m ∧ b.Depicts config highlighted (depth + way.length) m

namespace Layout

/-- Boxes and links depict a node that is drawn at a depth with all that is drawn below it: there is a box for each node that branches
lead to, and a link for each branch. -/
structure Depicts [Coordinate α] (config : LayoutConfig α) (highlighted : List String) (depth : Nat) (n : Node)
    (bs : List (Box α)) (ks : List (Link α)) : Prop where
  boxes : List.Forall₂ (Box.IsAt config highlighted depth n) n.ways bs
  links : List.Forall₂ (Link.IsAt (n.ways.zip bs)) n.forks ks

variable [Coordinate α] {config : LayoutConfig α} {highlighted : List String} {depth : Nat} {n : Node}

/-- A box is placed as the depiction of its node says. -/
theorem place_depicts {left : α} {b : Box α} (h : place config highlighted n depth left = .ok b) :
    b.Depicts config highlighted depth n := by
  obtain ⟨x, -, h⟩ := Except.bind_eq_ok.1 h
  obtain ⟨level, hlevel, h⟩ := Except.bind_eq_ok.1 h
  obtain ⟨offset, hoffset, h⟩ := Except.bind_eq_ok.1 h
  obtain ⟨y, hy, h⟩ := Except.bind_eq_ok.1 h
  cases h
  exact ⟨rfl, rfl, rfl, Except.bind_eq_ok.2 ⟨level, hlevel, Except.bind_eq_ok.2 ⟨offset, hoffset, hy⟩⟩, rfl, rfl, rfl⟩

theorem connect_joins {upper lower : Box α} {branch : Bool} {k : Link α} (h : connect upper lower branch = .ok k) :
    k.Joins upper lower branch := by
  obtain ⟨fromX, hfromX, h⟩ := Except.bind_eq_ok.1 h
  obtain ⟨fromY, hfromY, h⟩ := Except.bind_eq_ok.1 h
  obtain ⟨toX, htoX, h⟩ := Except.bind_eq_ok.1 h
  cases h
  exact ⟨rfl, rfl, hfromX, hfromY, htoX, rfl, rfl, rfl⟩

/-! ## Subtrees -/

namespace Depicts

variable {bs : List (Box α)} {ks : List (Link α)}

/-- Below a condition, the nodes of a branch are one level further down. -/
theorem boxes_below {m : Node} {branch : Bool} (h : Depicts config highlighted (depth + 1) m bs ks)
    (hbranch : ∀ way, n.along? (branch :: way) = m.along? way) :
    List.Forall₂ (Box.IsAt config highlighted depth n) (m.ways.map (branch :: ·)) bs := by
  refine List.forall₂_map_left_iff.2 (h.boxes.imp fun way b hb => ?_)
  obtain ⟨below, hbelow, hb⟩ := hb
  refine ⟨below, (hbranch way).trans hbelow, ?_⟩
  rw [List.length_cons, Nat.add_comm way.length, ← Nat.add_assoc]
  exact hb

/-- The links of a branch stay between the same boxes. -/
theorem links_below {branch : Bool} {spots : List (List Bool × Box α)} (h : Depicts config highlighted depth n bs ks)
    (hspots : ∀ way b, (way, b) ∈ n.ways.zip bs → (branch :: way, b) ∈ spots) :
    List.Forall₂ (Link.IsAt spots) (n.forks.map fun fork => (branch :: fork.1, fork.2)) ks := by
  refine List.forall₂_map_left_iff.2 (h.links.imp fun fork k hk => ?_)
  obtain ⟨upper, lower, hupper, hlower, hk⟩ := hk
  exact ⟨upper, lower, hspots _ _ hupper, hspots _ _ hlower, hk⟩

/-- No two ways lead to boxes with one identifier, if boxes have different ones. -/
theorem way_eq_of_id_eq (h : Depicts config highlighted depth n bs ks) (hids : (bs.map Box.id).Nodup) {p q : List Bool} {b c : Box α}
    (hb : (p, b) ∈ n.ways.zip bs) (hc : (q, c) ∈ n.ways.zip bs) (hid : b.id = c.id) : p = q := by
  have hzip : (n.ways.zip bs).map (Box.id ∘ Prod.snd) = bs.map Box.id := by
    rw [← List.map_map, List.map_snd_zip (Nat.le_of_eq h.boxes.length_eq.symm)]
  exact (Prod.mk.inj (List.inj_on_of_nodup_map (hzip ▸ hids) hb hc hid)).1

end Depicts

/-- A subtree depicts its node, and the box of the node is the one that no branch leads to. -/
theorem subtree_depicts (n : Node) : ∀ {depth : Nat} {left : α} {s : Subtree α},
    subtree config highlighted depth left n = .ok s →
      ([], s.root) ∈ n.ways.zip s.boxes ∧ Depicts config highlighted depth n s.boxes s.links := by
  induction n using Node.spots.induct with
  | case1 header c note whenTrue whenFalse hfalse htrue =>
    intro depth left s h
    obtain ⟨middle, x, lower, upper, toFalse, toTrue, hlower, hupper, hroot, hto, hto', hboxes, hlinks⟩ := subtree_condition h
    obtain ⟨hlowerRoot, hlower⟩ := hfalse hlower
    obtain ⟨hupperRoot, hupper⟩ := htrue hupper
    have hzip : (Node.condition header c note whenTrue whenFalse).ways.zip s.boxes =
        ((whenFalse.ways.zip lower.boxes).map fun spot => (false :: spot.1, spot.2)) ++
          ((whenTrue.ways.zip upper.boxes).map fun spot => (true :: spot.1, spot.2)) ++ [([], s.root)] := by
      have hlength := hlower.boxes.length_eq
      have hlength' := hupper.boxes.length_eq
      rw [Node.ways_condition, hboxes, List.zip_append (by simp [hlength, hlength']), List.zip_append (by simp [hlength]),
        List.zip_map_left, List.zip_map_left]
      rfl
    have hbelow : ∀ way b, (way, b) ∈ whenFalse.ways.zip lower.boxes →
        (false :: way, b) ∈ (Node.condition header c note whenTrue whenFalse).ways.zip s.boxes := fun way b hmem =>
      hzip ▸ List.mem_append_left _ (List.mem_append_left _ (List.mem_map_of_mem hmem))
    have hbelow' : ∀ way b, (way, b) ∈ whenTrue.ways.zip upper.boxes →
        (true :: way, b) ∈ (Node.condition header c note whenTrue whenFalse).ways.zip s.boxes := fun way b hmem =>
      hzip ▸ List.mem_append_left _ (List.mem_append_right _ (List.mem_map_of_mem hmem))
    have htop : ([], s.root) ∈ (Node.condition header c note whenTrue whenFalse).ways.zip s.boxes :=
      hzip ▸ List.mem_append_right _ (List.mem_singleton_self _)
    refine ⟨htop, ?_, ?_⟩
    · rw [hboxes, Node.ways_condition]
      exact List.rel_append (List.rel_append (hlower.boxes_below fun _ => rfl) (hupper.boxes_below fun _ => rfl))
        (.cons ⟨_, Node.along?_nil _, place_depicts hroot⟩ .nil)
    · rw [hlinks, Node.forks_condition]
      exact List.rel_append (List.rel_append (hlower.links_below hbelow) (hupper.links_below hbelow'))
        (.cons ⟨s.root, lower.root, htop, hbelow _ _ hlowerRoot, connect_joins hto⟩
          (.cons ⟨s.root, upper.root, htop, hbelow' _ _ hupperRoot, connect_joins hto'⟩ .nil))
  | case2 n hn =>
    intro depth left s h
    obtain ⟨hroot, hboxes, hlinks⟩ := subtree_single hn h
    rw [hboxes, hlinks]
    refine ⟨?_, ?_, ?_⟩
    · rw [Node.ways_single hn]
      exact List.mem_singleton_self _
    · rw [Node.ways_single hn]
      exact .cons ⟨n, n.along?_nil, place_depicts hroot⟩ .nil
    · rw [Node.forks_single hn]
      exact .nil

/-- The layout of a tree depicts it. -/
theorem depicts_ofTree {tree : Node} {l : Layout α} (h : ofTree config highlighted tree = .ok l) :
    Depicts config highlighted 0 tree l.boxes l.links := by
  obtain ⟨all, hall, h⟩ := Except.bind_eq_ok.1 h
  obtain ⟨right, -, h⟩ := Except.bind_eq_ok.1 h
  obtain ⟨width, -, h⟩ := Except.bind_eq_ok.1 h
  obtain ⟨bottom, -, h⟩ := Except.bind_eq_ok.1 h
  obtain ⟨height, -, h⟩ := Except.bind_eq_ok.1 h
  cases h
  exact (subtree_depicts tree hall).2

/-! ## Identifiers of links -/

/-- The identifier of a link tells its upper node and its branch. The names of the branches end differently, in "ue" and in
"se". -/
theorem identifier_inj {source target : String} {branch other : Bool}
    (h : source ++ "-" ++ branchName branch = target ++ "-" ++ branchName other) : source = target ∧ branch = other := by
  have hsame {name : String} (h : source ++ "-" ++ name = target ++ "-" ++ name) : source = target := by
    rwa [String.append_left_inj, String.append_left_inj] at h
  have hend := congrArg (fun text => text.toList.reverse[1]?) h
  cases branch <;> cases other
  · exact ⟨hsame h, rfl⟩
  · simp [branchName] at hend
  · simp [branchName] at hend
  · exact ⟨hsame h, rfl⟩

/-- Where related items have different keys unless they are related to one item, the keys of items related to different ones are
different. -/
theorem nodup_map_of_forall₂ {β γ κ : Type} {R : β → γ → Prop} {key : γ → κ} {xs : List β} {ys : List γ}
    (h : List.Forall₂ R xs ys) (hkey : ∀ x y x' y', R x y → R x' y' → key y = key y' → x = x') (hxs : xs.Nodup) :
    (ys.map key).Nodup := by
  induction h with
  | nil => exact List.nodup_nil
  | @cons x y xs ys hxy hrest ih =>
    obtain ⟨hx, hxs⟩ := List.nodup_cons.1 hxs
    rw [List.map_cons, List.nodup_cons]
    refine ⟨fun hmem => ?_, ih hxs⟩
    obtain ⟨y', hy', heq⟩ := List.mem_map.1 hmem
    obtain ⟨i, hi, rfl⟩ := List.getElem_of_mem hy'
    have hrelated := hrest.get (hrest.length_eq ▸ hi) hi
    exact hx (hkey _ _ _ _ hxy hrelated heq.symm ▸ List.get_mem xs _)

/-- Links have different identifiers if boxes do. -/
theorem Depicts.nodup_linkIds {bs : List (Box α)} {ks : List (Link α)} (h : Depicts config highlighted depth n bs ks)
    (hids : (bs.map Box.id).Nodup) : (ks.map Link.id).Nodup := by
  refine nodup_map_of_forall₂ h.links ?_ n.nodup_forks
  rintro ⟨way, branch⟩ k ⟨way', branch'⟩ k' ⟨upper, lower, hupper, -, hk⟩ ⟨upper', lower', hupper', -, hk'⟩ heq
  rw [Link.id, Link.id, hk.fromId, hk.branch, hk'.fromId, hk'.branch] at heq
  obtain ⟨hid, rfl⟩ := identifier_inj heq
  exact congrArg (·, branch) (h.way_eq_of_id_eq hids hupper hupper' hid)

/-! ## Layouts of trees -/

/-- The boxes of a layout depict the nodes that branches lead to, one box for each, in post-order, the branch for a condition that does
not hold first; backwards they are nodes of the walk in its order. The links are those of the branches, one for each, so there is one
fewer than boxes, and they have different identifiers if the nodes have. This holds whatever is computed with; there is a layout if
it is exact, and, as numbers are written, unless a size that is whole or the number of columns is too large for doubles. -/
theorem ofTree_depicts (highlighted : List String) (tree : Node) :
    (tree.ways.Nodup ∧ (∀ way, way ∈ tree.ways ↔ (tree.along? way).isSome) ∧
      tree.ways.Pairwise fun p q => q <+: p ∨ Node.Parts p q) ∧
    (tree.forks.Nodup ∧ ∀ way branch, (way, branch) ∈ tree.forks ↔ (tree.along? (way ++ [branch])).isSome) ∧
    (∀ {α : Type} [Coordinate α] (config : LayoutConfig α) (l : Layout α), ofTree config highlighted tree = .ok l →
      Depicts config highlighted 0 tree l.boxes l.links ∧ (l.boxes.map Box.id).reverse.Sublist tree.ids ∧
      l.links.length + 1 = l.boxes.length ∧
      (tree.ids.Nodup ∨ (l.boxes.map Box.id).Nodup → (l.links.map Link.id).Nodup)) ∧
    (∀ config : LayoutConfig Rat, ∃ l, ofTree config highlighted tree = .ok l) ∧
    ∀ (config : LayoutConfig Quantity) (size : Nat), config.Within size → (tree.columns + 1) * (2 * size + 1) < wholeLimit →
      ∃ l, ofTree config highlighted tree = .ok l := by
  refine ⟨⟨tree.nodup_ways, fun _ => Node.mem_ways, tree.pairwise_ways⟩, ⟨tree.nodup_forks, fun _ _ => Node.mem_forks⟩, ?_,
    fun config => ⟨_, ofTree_eq config highlighted tree⟩, fun config size hsize hlimit => exists_ofTree highlighted hsize hlimit⟩
  intro α _ config l hl
  have hdepicts := depicts_ofTree hl
  have hsublist : (l.boxes.map Box.id).reverse.Sublist tree.ids := by
    rw [(ofTree_shows hl).ids]
    exact tree.reverse_drawn_sublist
  refine ⟨hdepicts, hsublist, ?_, fun hids => hdepicts.nodup_linkIds (hids.elim (fun hids => ?_) id)⟩
  · rw [← hdepicts.links.length_eq, ← hdepicts.boxes.length_eq, tree.length_forks]
  · exact List.nodup_reverse.1 (hsublist.nodup hids)

/-- The default layout of the small tree has five boxes and four links, and no two links share an identifier. -/
theorem ofTree_depicts_licence :
    Licence.tree.ids.Nodup ∧ ∃ l, ofTree .default ["licensed"] Licence.tree = .ok l ∧
      Depicts .default ["licensed"] 0 Licence.tree l.boxes l.links ∧ l.boxes.length = 5 ∧ l.links.length = 4 ∧
      (l.links.map Link.id).Nodup := by
  have hids : Licence.tree.ids.Nodup := by
    rw [Node.ids, Node.walk_eq_preorder]
    decide
  have hlimit : (Licence.tree.columns + 1) * (2 * 200 + 1) < wholeLimit := by
    decide +kernel
  obtain ⟨-, -, hdepicts, -, hexists⟩ := ofTree_depicts ["licensed"] Licence.tree
  obtain ⟨l, hl⟩ := hexists .default 200 LayoutConfig.default_within hlimit
  obtain ⟨hl', -, hlength, hnodup⟩ := hdepicts .default l hl
  have hboxes : l.boxes.length = 5 := hl'.boxes.length_eq.symm
  exact ⟨hids, l, hl, hl', hboxes, by omega, hnodup (.inl hids)⟩

end Layout

end RegulatoryTrees
