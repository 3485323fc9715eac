import RegulatoryTrees.Proofs.Graph.ReadingBack
import RegulatoryTrees.Proofs.Partial.Exploration
import RegulatoryTrees.Proofs.Tree.Addresses

/-!
# The graph and the walk

The graph of a tree has a node for each address of the tree, in the order of the walk, at the depth of the address, and, for each
address but that of the root, one edge that leads there from the parent (`pieceOf_shows`). Its other edges are the routes. From a node
whose identifier no other node has there lead exactly its own edges (`filter_source_ofTree`).
-/

namespace RegulatoryTrees

variable {α β γ : Type}

/-- Items of a list that are related to others are so together with their numbers. -/
theorem forall₂_zipIdx {R : α → β → Prop} {xs : List α} {ys : List β} (h : List.Forall₂ R xs ys) :
    List.Forall₂ (fun x y => xs[x.2]? = some x.1 ∧ R x.1 y) xs.zipIdx ys := by
  rw [List.forall₂_iff_zip]
  refine ⟨by rw [List.length_zipIdx, h.length_eq], fun {x y} hmem => ⟨?_, ?_⟩⟩
  · exact List.mem_zipIdx_iff_getElem?.1 (List.of_mem_zip hmem).1
  · refine List.forall₂_zip h ?_
    rw [← List.zipIdx_map_fst 0 xs, List.zip_map_left]
    exact List.mem_map_of_mem hmem

/-- Related items that yield the same yield the same in all. -/
theorem flatMap_eq_of_forall₂ {R : α → β → Prop} {f : α → List γ} {g : β → List γ} {xs : List α} {ys : List β}
    (h : List.Forall₂ R xs ys) (hfg : ∀ x y, R x y → f x = g y) : xs.flatMap f = ys.flatMap g := by
  induction h with
  | nil => rfl
  | cons hxy _ ih => rw [List.flatMap_cons, List.flatMap_cons, hfg _ _ hxy, ih]

/-- Where only items with one key yield anything, and no other item has the key of an item, all is the yield of that item. -/
theorem flatMap_eq_of_nodup {κ : Type} {key : α → κ} {f : α → List β} {xs : List α} (hxs : (xs.map key).Nodup)
    {x : α} (hx : x ∈ xs) (hf : ∀ y ∈ xs, key y ≠ key x → f y = []) : xs.flatMap f = f x := by
  induction xs with
  | nil => exact absurd hx List.not_mem_nil
  | cons y rest ih =>
    rw [List.map_cons, List.nodup_cons] at hxs
    rw [List.flatMap_cons]
    rcases List.mem_cons.1 hx with rfl | hx
    · rw [List.flatMap_eq_nil_iff.2, List.append_nil]
      intro z hz
      exact hf z (List.mem_cons_of_mem x hz) fun heq => hxs.1 (heq ▸ List.mem_map_of_mem hz)
    · rw [hf y List.mem_cons_self fun heq => hxs.1 (heq ▸ List.mem_map_of_mem hx), List.nil_append]
      exact ih hxs.2 hx fun z hz => hf z (List.mem_cons_of_mem y hz)

namespace Edge

/-- A way out of a router. -/
def isRoute (e : Edge) : Bool := e.kind == "route"

/-- An edge to a child: a branch of a condition, or to a member of a group. -/
def isStructural (e : Edge) : Bool := e.kind == "true" || e.kind == "false" || e.kind == "member"

end Edge

/-- A node of a graph stands for a node of a tree at a depth. -/
structure Vertex.StandsFor (depth : Nat) (n : Node) (v : Vertex) : Prop where
  id : v.id = n.id
  kind : v.kind = n.kind.name
  depth : v.depth = depth

/-- A node of a graph stands for the node at an address. -/
def Vertex.IsAt (depth : Nat) (n : Node) (address : List Nat) (v : Vertex) : Prop :=
  ∃ m, n.at? address = some m ∧ v.StandsFor (depth + address.length) m

/-- An edge leads to the node at an address, and is the edge of its number from the parent. -/
def Edge.IsTo (n : Node) (address : List Nat) (e : Edge) : Prop :=
  ∃ above i parent child, address = above ++ [i] ∧ n.at? above = some parent ∧ parent.children[i]? = some child ∧
    (Graph.edgesOf parent)[i]? = some e

/-- An edge leads to the node of a graph that stands at an address, from the one that stands at the address above, a level higher. -/
def Edge.LeadsTo (tree : Node) (spots : List (List Nat × Vertex)) (address : List Nat) (e : Edge) : Prop :=
  ∃ above i parent child upper lower, address = above ++ [i] ∧ tree.at? above = some parent ∧ parent.children[i]? = some child ∧
    (Graph.edgesOf parent)[i]? = some e ∧ (above, upper) ∈ spots ∧ (address, lower) ∈ spots ∧ e.source = upper.id ∧
    e.target = lower.id ∧ lower.depth = upper.depth + 1

namespace Graph

/-! ## Edges of a node -/

/-- Of the edges of a node, those to its children come first, in their order. -/
theorem isStructural_of_child {n child : Node} {i : Nat} {e : Edge} (hchild : n.children[i]? = some child)
    (he : (edgesOf n)[i]? = some e) :
    e.isStructural = true ∧ e.isRoute = false ∧ e.source = n.id ∧ e.target = child.id := by
  cases n with
  | condition header c note whenTrue whenFalse =>
    match i with
    | 0 | 1 =>
      cases hchild
      cases he
      exact ⟨rfl, rfl, rfl, rfl⟩
    | _ + 2 => exact nomatch hchild
  | group header members entry exit =>
    change members[i]? = some child at hchild
    rw [edgesOf, List.getElem?_map, hchild] at he
    cases he
    exact ⟨rfl, rfl, rfl, rfl⟩
  | leaf | router | anchor => exact nomatch hchild

/-- An edge of a node belongs to the structure unless it is a route. -/
theorem isStructural_eq_not_isRoute {n : Node} {e : Edge} (h : e ∈ edgesOf n) : e.isStructural = !e.isRoute := by
  cases n with
  | condition =>
    rcases List.mem_pair.1 h with rfl | rfl
    · rfl
    · rfl
  | group | router =>
    obtain ⟨_, _, rfl⟩ := List.mem_map.1 h
    rfl
  | leaf | anchor => exact absurd h List.not_mem_nil

/-- The edges of a node lead to its children, and then to where a router leads. -/
theorem map_target_edgesOf (n : Node) : (edgesOf n).map Edge.target = n.children.map Node.id ++ targetsOf n := by
  cases n <;> simp [edgesOf, Node.children, targetsOf]

/-- The routes that leave a node. -/
def routesOf (n : Node) : List Edge := (edgesOf n).filter Edge.isRoute

/-- No edge to a member of a group is a route. -/
theorem routesOf_group (header : Header) (members : List Node) (entry : String) (exit : Option String) :
    routesOf (.group header members entry exit) = [] := by
  refine List.filter_eq_nil_iff.2 fun e he => ?_
  obtain ⟨_, _, rfl⟩ := List.mem_map.1 he
  exact Bool.false_ne_true

/-- All edges of a router are routes. -/
theorem routesOf_router (header : Header) (routes : List Route) :
    routesOf (.router header routes) = edgesOf (.router header routes) := by
  refine List.filter_eq_self.2 fun e he => ?_
  obtain ⟨_, _, rfl⟩ := List.mem_map.1 he
  rfl

/-- No node has both routes and children. -/
theorem routesOf_eq_nil_or (n : Node) : routesOf n = [] ∨ n.children = [] := by
  cases n with
  | group => exact .inl (routesOf_group _ _ _ _)
  | condition => exact .inl rfl
  | leaf | router | anchor => exact .inr rfl

/-- There is a route for each branch of a router. -/
theorem map_target_routesOf (n : Node) : (routesOf n).map Edge.target = targetsOf n := by
  cases n with
  | group =>
    rw [routesOf_group]
    rfl
  | router => rw [routesOf_router, map_target_edgesOf, Node.children, List.map_nil, List.nil_append]
  | condition | leaf | anchor => rfl

/-! ## Pieces -/

/-- The part of the graph of a node that comes of a child of a number: the edge there and the piece of the child. -/
structure IsPart (depth : Nat) (n : Node) (child : Node × Nat) (part : Edge × Piece) : Prop where
  below : n.children[child.2]? = some child.1
  edge : (edgesOf n)[child.2]? = some part.1
  piece : pieceOf (depth + 1) child.1 = .ok part.2

/-- The graph of a group is made of an edge to each member and the graph of the member. -/
theorem piecesOf_eq_ok {depth : Nat} {group : String} {ns : List Node} {p : Piece} (h : piecesOf depth group ns = .ok p) :
    ∃ parts : List (Edge × Piece),
      List.Forall₂ (fun n part => Edge.mk group n.id "member" "" = part.1 ∧ pieceOf depth n = .ok part.2) ns parts ∧
      p.vertices = (parts.flatMap fun part => part.2.vertices) ∧ p.edges = parts.flatMap fun part => part.1 :: part.2.edges := by
  induction ns generalizing p with
  | nil =>
    cases h
    exact ⟨[], .nil, rfl, rfl⟩
  | cons n rest ih =>
    rw [piecesOf] at h
    obtain ⟨first, hfirst, h⟩ := Except.bind_eq_ok.1 h
    obtain ⟨others, hothers, h⟩ := Except.bind_eq_ok.1 h
    cases h
    obtain ⟨parts, hparts, hvertices, hedges⟩ := ih hothers
    refine ⟨(⟨group, n.id, "member", ""⟩, first) :: parts, .cons ⟨rfl, hfirst⟩ hparts, ?_, ?_⟩
    · rw [List.flatMap_cons, ← hvertices]
      rfl
    · rw [List.flatMap_cons, ← hedges]
      rfl

/-- The graph of a node and all that lies below it is made of the node, of a part for each child, and of its routes. -/
theorem pieceOf_eq_ok {depth : Nat} {n : Node} {p : Piece} (h : pieceOf depth n = .ok p) :
    ∃ top parts, vertexOf depth n = .ok top ∧ List.Forall₂ (IsPart depth n) n.children.zipIdx parts ∧
      p.vertices = top :: (parts.flatMap fun part => part.2.vertices) ∧
      p.edges = (parts.flatMap fun part => part.1 :: part.2.edges) ++ routesOf n ∧
      edgesOf n = parts.map Prod.fst ++ routesOf n := by
  cases n with
  | condition header c note whenTrue whenFalse =>
    rw [pieceOf] at h
    obtain ⟨top, htop, h⟩ := Except.bind_eq_ok.1 h
    obtain ⟨upper, hupper, h⟩ := Except.bind_eq_ok.1 h
    obtain ⟨lower, hlower, h⟩ := Except.bind_eq_ok.1 h
    cases h
    refine ⟨top, [(⟨header.id, whenTrue.id, "true", "Yes"⟩, upper), (⟨header.id, whenFalse.id, "false", "No"⟩, lower)], htop,
      .cons ⟨rfl, rfl, hupper⟩ (.cons ⟨rfl, rfl, hlower⟩ .nil), ?_, ?_, rfl⟩
    · simp [Piece.append, Piece.behind]
    · simp [Piece.append, Piece.behind, routesOf, edgesOf, Edge.isRoute]
  | group header members entry exit =>
    rw [pieceOf] at h
    obtain ⟨top, htop, h⟩ := Except.bind_eq_ok.1 h
    obtain ⟨below, hbelow, h⟩ := Except.bind_eq_ok.1 h
    cases h
    obtain ⟨parts, hparts, hvertices, hedges⟩ := piecesOf_eq_ok hbelow
    have hfirst : (edgesOf (.group header members entry exit)) = parts.map Prod.fst := by
      rw [edgesOf, ← List.forall₂_eq_eq_eq]
      exact List.forall₂_map_left_iff.2 (List.forall₂_map_right_iff.2 (hparts.imp fun _ _ hpart => hpart.1))
    have hall : List.Forall₂ (IsPart depth (.group header members entry exit)) members.zipIdx parts := by
      refine (forall₂_zipIdx hparts).imp fun child part hpart => ⟨hpart.1, ?_, hpart.2.2⟩
      rw [edgesOf, List.getElem?_map, hpart.1, Option.map_some, hpart.2.1]
    refine ⟨top, parts, htop, hall, ?_, ?_, ?_⟩
    · rw [← hvertices]
    · rw [← hedges, routesOf_group, List.append_nil]
    · rw [routesOf_group, List.append_nil, hfirst]
  | router header routes =>
    rw [pieceOf] at h
    obtain ⟨top, htop, h⟩ := Except.bind_eq_ok.1 h
    cases h
    refine ⟨top, [], htop, .nil, rfl, ?_, ?_⟩
    · rw [routesOf_router]
      rfl
    · rw [routesOf_router]
      rfl
  | leaf | anchor =>
    rw [pieceOf] at h
    · obtain ⟨top, htop, h⟩ := Except.bind_eq_ok.1 h
      cases h
      exact ⟨top, [], htop, .nil, rfl, rfl, rfl⟩
    all_goals simp

/-! ## Nodes and edges at their addresses -/

/-- A vertex stands for the node that it is drawn for. -/
theorem vertexOf_standsFor {depth : Nat} {n : Node} {v : Vertex} (h : vertexOf depth n = .ok v) : v.StandsFor depth n := by
  obtain ⟨label, -, h⟩ := Except.bind_eq_ok.1 h
  cases h
  exact ⟨rfl, rfl, rfl⟩

/-- What stands at an address from a child stands at the longer one from its parent. -/
theorem isAt_cons {depth : Nat} {n child : Node} {i : Nat} (hchild : n.children[i]? = some child) {address : List Nat} {v : Vertex}
    (h : v.IsAt (depth + 1) child address) : v.IsAt depth n (i :: address) := by
  obtain ⟨m, hm, hv⟩ := h
  refine ⟨m, (Node.at?_cons hchild address).trans hm, ?_⟩
  rwa [List.length_cons, Nat.add_comm address.length, ← Nat.add_assoc]

/-- An edge to a place below a child is one to the place below the node. -/
theorem isTo_cons {n child : Node} {i : Nat} (hchild : n.children[i]? = some child) {address : List Nat} {e : Edge}
    (h : e.IsTo child address) : e.IsTo n (i :: address) := by
  obtain ⟨above, j, parent, below, rfl, hparent, hbelow, he⟩ := h
  exact ⟨i :: above, j, parent, below, rfl, (Node.at?_cons hchild above).trans hparent, hbelow, he⟩

/-- There is a node of the graph for each address, and an edge for each address below the root. -/
theorem pieceOf_shows {depth : Nat} {n : Node} {p : Piece} (h : pieceOf depth n = .ok p) :
    List.Forall₂ (Vertex.IsAt depth n) n.addresses p.vertices ∧
      List.Forall₂ (Edge.IsTo n) n.addresses.tail (p.edges.filter Edge.isStructural) := by
  induction n using Node.of_children generalizing depth p with
  | node n ih =>
    obtain ⟨top, parts, htop, hparts, hvertices, hedges, -⟩ := pieceOf_eq_ok h
    have hbelow {child : Node × Nat} {part : Edge × Piece} (hpart : IsPart depth n child part) :=
      ih child.1 (List.mem_of_getElem? hpart.below) hpart.piece
    rw [hvertices, hedges, Node.addresses_eq, List.tail_cons]
    refine ⟨.cons ⟨n, rfl, vertexOf_standsFor htop⟩ (List.rel_flatMap hparts fun child part hpart => ?_), ?_⟩
    · exact List.forall₂_map_left_iff.2 ((hbelow hpart).1.imp fun _ _ => isAt_cons hpart.below)
    · have hroutes : (routesOf n).filter Edge.isStructural = [] := by
        refine List.filter_eq_nil_iff.2 fun e he => ?_
        obtain ⟨he, hroute⟩ := List.mem_filter.1 he
        rw [isStructural_eq_not_isRoute he, hroute]
        exact Bool.false_ne_true
      rw [List.filter_append, hroutes, List.append_nil, List.filter_flatMap]
      refine List.rel_flatMap hparts fun child part hpart => ?_
      have hedge := isStructural_of_child hpart.below hpart.edge
      rw [List.filter_cons_of_pos hedge.1, Node.addresses_eq_cons_tail, List.map_cons]
      refine .cons ⟨[], child.2, n, child.1, rfl, rfl, hpart.below, hpart.edge⟩ ?_
      exact List.forall₂_map_left_iff.2 ((hbelow hpart).2.imp fun _ _ => isTo_cons hpart.below)

/-- The edges of a graph that are sought are found node by node, if below a node that has one of its children's edges among them there
are no others. -/
theorem filter_edges_pieceOf {sought : Edge → Bool} {depth : Nat} {n : Node} {p : Piece} (h : pieceOf depth n = .ok p)
    (hsought : ∀ m ∈ n.preorder, (∀ e ∈ edgesOf m, e.isStructural = true → sought e = false) ∨
      ∀ k ∈ m.children.flatMap Node.preorder, (edgesOf k).filter sought = []) :
    p.edges.filter sought = n.preorder.flatMap fun m => (edgesOf m).filter sought := by
  induction n using Node.of_children generalizing depth p with
  | node n ih =>
    obtain ⟨top, parts, -, hparts, -, hedges, hfirst⟩ := pieceOf_eq_ok h
    rw [Node.preorder_eq_flatMap] at hsought
    have hbelow : (parts.flatMap fun part => part.2.edges.filter sought) =
        (n.children.flatMap Node.preorder).flatMap fun m => (edgesOf m).filter sought := by
      rw [List.flatMap_assoc]
      conv_rhs => rw [← List.zipIdx_map_fst 0 n.children, List.flatMap_map]
      refine (flatMap_eq_of_forall₂ hparts fun child part hpart => ?_).symm
      have hchild := List.mem_of_getElem? hpart.below
      refine (ih child.1 hchild hpart.piece fun m hm => ?_).symm
      exact hsought m (List.mem_cons_of_mem n (List.mem_flatMap.2 ⟨child.1, hchild, hm⟩))
    rw [hedges, List.filter_append, List.filter_flatMap, Node.preorder_eq_flatMap, List.flatMap_cons, ← hbelow]
    rcases hsought n List.mem_cons_self with hnone | hnone
    · have hroutes : (edgesOf n).filter sought = (routesOf n).filter sought := by
        rw [routesOf, List.filter_filter]
        refine List.filter_congr fun e he => ?_
        cases hroute : e.isRoute with
        | true => rw [Bool.and_true]
        | false => rw [hnone e he (by rw [isStructural_eq_not_isRoute he, hroute, Bool.not_false]), Bool.false_and]
      have hthere : (parts.map Prod.fst).filter sought = [] := by
        rw [hfirst, List.filter_append] at hroutes
        exact List.append_left_eq_self.1 hroutes
      have hparts' : (parts.flatMap fun part => (part.1 :: part.2.edges).filter sought) =
          parts.flatMap fun part => part.2.edges.filter sought :=
        List.flatMap_congr fun part hpart =>
          List.filter_cons_of_neg (List.filter_eq_nil_iff.1 hthere part.1 (List.mem_map_of_mem hpart))
      rw [hparts', hroutes]
      rcases routesOf_eq_nil_or n with hroutes | hchildren
      · rw [hroutes, List.filter_nil, List.append_nil, List.nil_append]
      · rw [hchildren] at hbelow
        rw [hbelow, List.flatMap_nil, List.flatMap_nil, List.nil_append, List.append_nil]
    · rw [List.flatMap_eq_nil_iff.2 hnone] at hbelow
      have hparts' : (parts.flatMap fun part => (part.1 :: part.2.edges).filter sought) = (parts.map Prod.fst).filter sought := by
        rw [List.map_eq_flatMap, List.filter_flatMap]
        refine List.flatMap_congr fun part hpart => ?_
        rw [List.filter_cons, List.filter_cons, List.flatMap_eq_nil_iff.1 hbelow part hpart, List.filter_nil]
      rw [hparts', hbelow, List.append_nil, hfirst, List.filter_append]

/-! ## Trees -/

/-- A graph follows a tree: its nodes are those at the addresses of the tree, in the order of the walk, and besides the routes of the
nodes it has one edge to each address but that of the root. -/
structure Follows (tree : Node) (g : Graph) : Prop where
  vertices : List.Forall₂ (Vertex.IsAt 0 tree) tree.addresses g.vertices
  edges : List.Forall₂ (Edge.LeadsTo tree (tree.addresses.zip g.vertices)) tree.addresses.tail (g.edges.filter Edge.isStructural)
  routes : g.edges.filter Edge.isRoute = tree.walk.flatMap routesOf
  others : ∀ e ∈ g.edges, e.isStructural = !e.isRoute

section

variable {tree : Node} {g : Graph}

/-- The edges of the graph of a tree that are sought are found node by node, as in `filter_edges_pieceOf`. -/
theorem filter_edges_ofTree {sought : Edge → Bool} (h : ofTree tree = .ok g)
    (hsought : ∀ m ∈ tree.preorder, (∀ e ∈ edgesOf m, e.isStructural = true → sought e = false) ∨
      ∀ k ∈ m.children.flatMap Node.preorder, (edgesOf k).filter sought = []) :
    g.edges.filter sought = tree.walk.flatMap fun m => (edgesOf m).filter sought := by
  obtain ⟨all, hall, h⟩ := Except.bind_eq_ok.1 h
  cases h
  rw [Node.walk_eq_preorder]
  exact filter_edges_pieceOf hall hsought

/-- The routes of a graph are those of the nodes in the order of the walk. -/
theorem filter_routes_ofTree (h : ofTree tree = .ok g) : g.edges.filter Edge.isRoute = tree.walk.flatMap routesOf := by
  refine filter_edges_ofTree h fun m _ => .inl fun e he hstructural => ?_
  rw [isStructural_eq_not_isRoute he] at hstructural
  rwa [Bool.not_eq_true'] at hstructural

/-- If no two nodes have one identifier, the edges from a node are its own, in their order. -/
theorem filter_source_ofTree (h : ofTree tree = .ok g) (hids : tree.ids.Nodup) {n : Node} (hn : n ∈ tree.walk) :
    (g.edges.filter fun e => e.source == n.id) = edgesOf n := by
  have hsource {m : Node} {e : Edge} (he : e ∈ edgesOf m) : (e.source == n.id) = (m.id == n.id) := by
    rw [(target_of_mem_edgesOf he).1]
  have hnone {m : Node} (hm : m.id ≠ n.id) : ((edgesOf m).filter fun e => e.source == n.id) = [] := by
    refine List.filter_eq_nil_iff.2 fun e he => ?_
    rw [hsource he, beq_eq_false_iff_ne.2 hm]
    exact Bool.false_ne_true
  rw [filter_edges_ofTree h, flatMap_eq_of_nodup hids hn fun m _ hm => hnone hm, List.filter_eq_self]
  · intro e he
    rw [hsource he, beq_self_eq_true]
  · intro m hm
    by_cases hid : m.id = n.id
    · rw [Node.ids, Node.walk_eq_preorder] at hids
      have hbelow : (m.preorder.map Node.id).Nodup := hids.sublist ((Node.preorder_infix hm).sublist.map Node.id)
      rw [Node.preorder_eq_flatMap, List.map_cons, List.nodup_cons] at hbelow
      exact .inr fun k hk => hnone fun hkn => hbelow.1 (hid.trans hkn.symm ▸ List.mem_map_of_mem hk)
    · refine .inl fun e he _ => ?_
      rw [hsource he, beq_eq_false_iff_ne.2 hid]

/-- A node is found by each of the identifiers, and by no other. -/
theorem map_id_vertex? (g : Graph) (id : String) :
    (g.vertex? id).map Vertex.id = if (g.vertices.map Vertex.id).contains id then some id else none := by
  rw [vertex?]
  cases hv : g.vertices.find? (·.id == id) with
  | some v =>
    obtain rfl : v.id = id := by simpa using List.find?_some hv
    rw [if_pos (List.contains_iff_mem.2 (List.mem_map_of_mem (List.mem_of_find?_eq_some hv))), Option.map_some]
  | none =>
    refine (if_neg fun hmem => ?_).symm
    obtain ⟨v, hv', hid⟩ := List.mem_map.1 (List.contains_iff_mem.1 hmem)
    exact List.find?_eq_none.1 hv v hv' (beq_iff_eq.2 hid)

/-- The children of a node in a graph are what its edges lead to, as far as it is in the graph. -/
theorem children_ofTree (h : ofTree tree = .ok g) (hids : tree.ids.Nodup) {n : Node} (hn : n ∈ tree.walk) :
    (g.children n.id).map (fun child => child.2.id) = n.children.map Node.id ++ (targetsOf n).filter tree.ids.contains := by
  have hchildren : (n.children.map Node.id).filter tree.ids.contains = n.children.map Node.id := by
    refine List.filter_eq_self.2 fun id hid => List.contains_iff_mem.2 ?_
    obtain ⟨m, hm, rfl⟩ := List.mem_map.1 hid
    exact List.mem_map_of_mem (Node.mem_walk_trans hn (Node.mem_walk_of_mem_children hm))
  rw [← hchildren, ← List.filter_append, ← map_target_edgesOf, children, filter_source_ofTree h hids hn, List.map_filterMap,
    List.filter_map, ← List.filterMap_eq_filter, List.map_filterMap, ← ids_ofTree h]
  refine List.filterMap_congr fun e _ => ?_
  rw [Option.map_map, Option.guard, apply_ite (Option.map Edge.target)]
  exact map_id_vertex? g e.target

/-- The nodes of the graph of a tree are at its addresses, and its edges lead to all of them but the root. -/
theorem follows_ofTree (h : ofTree tree = .ok g) : Follows tree g := by
  have hroutes := filter_routes_ofTree h
  have hothers : ∀ e ∈ g.edges, e.isStructural = !e.isRoute := by
    intro e he
    obtain ⟨n, -, he⟩ := (mem_edges_ofTree h e).1 he
    exact isStructural_eq_not_isRoute he
  obtain ⟨all, hall, h⟩ := Except.bind_eq_ok.1 h
  cases h
  obtain ⟨hvertices, hedges⟩ := pieceOf_shows hall
  have hspot {address : List Nat} {m : Node} (hm : tree.at? address = some m) :
      ∃ v, (address, v) ∈ tree.addresses.zip all.vertices ∧ v.StandsFor address.length m := by
    have hmem := Node.mem_addresses.2 (Option.isSome_iff_exists.2 ⟨m, hm⟩)
    rw [← List.map_fst_zip (Nat.le_of_eq hvertices.length_eq)] at hmem
    obtain ⟨⟨_, v⟩, hspot, rfl⟩ := List.mem_map.1 hmem
    obtain ⟨m', hm', hv⟩ := List.forall₂_zip hvertices hspot
    obtain rfl := Option.some.inj (hm'.symm.trans hm)
    rw [Nat.zero_add] at hv
    exact ⟨v, hspot, hv⟩
  refine ⟨hvertices, hedges.imp fun address e he => ?_, hroutes, hothers⟩
  obtain ⟨above, i, parent, child, rfl, hparent, hchild, he⟩ := he
  have hbelow : tree.at? (above ++ [i]) = some child := by rw [Node.at?_concat, hparent, Option.bind_some, hchild]
  obtain ⟨upper, hupper, hup⟩ := hspot hparent
  obtain ⟨lower, hlower, hlow⟩ := hspot hbelow
  obtain ⟨-, -, hsource, htarget⟩ := isStructural_of_child hchild he
  refine ⟨above, i, parent, child, upper, lower, rfl, hparent, hchild, he, hupper, hlower, hsource.trans hup.id.symm,
    htarget.trans hlow.id.symm, ?_⟩
  rw [hlow.depth, hup.depth, List.length_append, List.length_singleton]
  rfl

/-- The nodes of the graph of a tree are of the kinds of the nodes of the walk. -/
theorem Follows.kinds (h : Follows tree g) : g.vertices.map Vertex.kind = tree.walk.map fun n => n.kind.name := by
  have hwalk : List.Forall₂ (fun o v => ∃ m, o = some m ∧ m.kind.name = Vertex.kind v) (tree.addresses.map tree.at?) g.vertices :=
    List.forall₂_map_left_iff.2 (h.vertices.imp fun _ _ hv => hv.imp fun _ hm => ⟨hm.1, hm.2.kind.symm⟩)
  rw [Node.map_at?_addresses, List.forall₂_map_left_iff] at hwalk
  refine Eq.symm ?_
  rw [← List.forall₂_eq_eq_eq]
  refine List.forall₂_map_left_iff.2 (List.forall₂_map_right_iff.2 (hwalk.imp fun n v hv => ?_))
  obtain ⟨m, hm, hkind⟩ := hv
  exact Option.some.inj hm ▸ hkind

/-- There are as many nodes of a kind as are counted. -/
theorem Follows.countP_kind (h : Follows tree g) (kind : NodeKind) :
    (g.vertices.countP fun v => v.kind == kind.name) = tree.counts.ofKind kind := by
  have hname (k : NodeKind) : (k.name == kind.name) = decide (k = kind) := by
    cases k <;> cases kind <;> rfl
  have hmap : (g.vertices.countP fun v => v.kind == kind.name) = (g.vertices.map Vertex.kind).countP (· == kind.name) := by
    rw [List.countP_map]
    rfl
  rw [hmap, h.kinds, List.countP_map, Node.ofKind_counts]
  exact List.countP_congr fun n _ => by rw [Function.comp_apply, hname]

end

/-- The graph of a tree, of which there is one if every condition has a label or can be put in words, follows the walk: it has the
nodes of the walk in their order, each kind as often as counted, one edge to each node but the root from the parent a level higher,
and one for each route. If no two nodes have one identifier, the children of a node in the graph are its children, or, for a router,
the targets that are nodes of the tree. -/
theorem ofTree_follows (tree : Node) :
    (tree.addresses.Nodup ∧ (∀ address, address ∈ tree.addresses ↔ (tree.at? address).isSome) ∧
      tree.addresses.map tree.at? = tree.walk.map some) ∧
    ((∃ g, ofTree tree = .ok g) ↔ ∀ n ∈ tree.walk, Labelled n) ∧
    ∀ g, ofTree tree = .ok g →
      Follows tree g ∧ g.vertices.map Vertex.id = tree.ids ∧
      (∀ kind : NodeKind, (g.vertices.countP fun v => v.kind == kind.name) = tree.counts.ofKind kind) ∧
      (g.edges.filter Edge.isStructural).length + 1 = tree.counts.total ∧
      (g.edges.filter Edge.isRoute).map Edge.target = tree.walk.flatMap targetsOf ∧
      (tree.ids.Nodup → ∀ n ∈ tree.walk,
        (g.children n.id).map (fun child => child.2.id) = n.children.map Node.id ++ (targetsOf n).filter tree.ids.contains ∧
        ∀ child ∈ g.children n.id, child.1 ∈ edgesOf n ∧ child.2 ∈ g.vertices ∧ child.1.target = child.2.id) := by
  refine ⟨⟨tree.nodup_addresses, fun _ => Node.mem_addresses, tree.map_at?_addresses⟩, exists_ofTree_iff tree, fun g hg => ?_⟩
  have hfollows := follows_ofTree hg
  refine ⟨hfollows, ids_ofTree hg, hfollows.countP_kind, ?_, ?_, fun hids n hn => ⟨children_ofTree hg hids hn, ?_⟩⟩
  · rw [← hfollows.edges.length_eq, Node.total_counts, ← Node.length_addresses, List.length_tail, Nat.sub_add_cancel]
    rw [Node.addresses_eq]
    exact Nat.succ_pos _
  · rw [hfollows.routes, List.map_flatMap]
    exact List.flatMap_congr fun n _ => map_target_routesOf n
  · intro child hchild
    obtain ⟨e, he, hv⟩ := List.mem_filterMap.1 hchild
    obtain ⟨v, hfound, rfl⟩ := Option.map_eq_some_iff.1 hv
    rw [filter_source_ofTree hg hids hn] at he
    rw [vertex?] at hfound
    exact ⟨he, List.mem_of_find?_eq_some hfound, Eq.symm (by simpa using List.find?_some hfound)⟩

end Graph

/-! ## Services by country -/

namespace Services

/-- A group of the tree that asks for a licence and a router abroad, one of whose ways leads into that tree. -/
def tree : Node :=
  .group (Licence.header "services")
    [Licence.tree, .router (Licence.header "abroad") [⟨"EU", .passporting, "trade"⟩, ⟨"US", .target, "register"⟩]]
    "licensed" none

/-- A group with a condition that expects a mapping with a date for a key. -/
def dated : Node := .group (Licence.header "services") [Dated.tree] "listed" none

end Services

namespace Graph

/-- In the graph of the services the group has its two members as children, and the router what it leads to within the tree. -/
theorem ofTree_follows_services :
    Services.tree.ids.Nodup ∧ ∃ g, ofTree Services.tree = .ok g ∧ Follows Services.tree g ∧
      (g.edges.filter Edge.isStructural).length = 6 ∧
      (g.children "services").map (fun child => child.2.id) = ["licensed", "abroad"] ∧
      (g.children "abroad").map (fun child => child.2.id) = ["trade"] := by
  have hids : Services.tree.ids.Nodup := by
    rw [Node.ids, Node.walk_eq_preorder]
    decide
  have htotal : Services.tree.counts.total = 7 := by
    rw [Node.counts, Node.walk_eq_preorder]
    rfl
  obtain ⟨-, -, hfollows⟩ := ofTree_follows Services.tree
  obtain ⟨g, hg⟩ : ∃ g, ofTree Services.tree = .ok g := ⟨_, rfl⟩
  obtain ⟨hg', -, -, hlength, -, hchildren⟩ := hfollows g hg
  refine ⟨hids, g, hg, hg', by omega, ?_, ?_⟩
  · refine (hchildren hids Services.tree (Node.mem_walk_self _)).1.trans ?_
    rfl
  · refine (hchildren hids (.router (Licence.header "abroad") [⟨"EU", .passporting, "trade"⟩, ⟨"US", .target, "register"⟩])
      (Node.mem_walk_of_mem_children (List.mem_cons_of_mem _ List.mem_cons_self))).1.trans ?_
    rw [Node.ids, Node.walk_eq_preorder]
    rfl

/-- A tree of which there is no graph: its condition has no label, and its value cannot be put in words. -/
theorem not_exists_graph_services :
    Services.dated.ids = ["services", "listed", "in", "out"] ∧ Services.dated.counts = ⟨1, 0, 1, 2, 0⟩ ∧
      ofTree Services.dated = .error (.rendering (.unwritableKey "date")) := by
  refine ⟨?_, ?_, rfl⟩
  · rw [Node.ids, Node.walk_eq_preorder]
    rfl
  · rw [Node.counts, Node.walk_eq_preorder]
    rfl

end Graph

end RegulatoryTrees
