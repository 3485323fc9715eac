import Mathlib.Data.List.Forall2
import RegulatoryTrees.Proofs.Format.RoundTrip

/-!
# Spellings of fields

A node is read from mappings, each of which has fields of its own (`Part.fields`). Which of its names a field stands under does not
matter for what is read, nor does anything under a key that names no field (`Respelled`): what is read of one spelling is read of
every other (`Respelled.agrees`), part by part, since each part is read field by field.
-/

namespace RegulatoryTrees

namespace Format

/-! ## Spellings -/

/-- The mappings that a node is read from. -/
inductive Part where
  | node
  | condition
  | branches
  | scope
  | route

/-- What a field has for a value: something that is taken as it stands, a mapping with fields, or a sequence of such mappings. -/
inductive Content where
  | plain
  | part (p : Part)
  | parts (p : Part)

/-- The fields that nodes of all kinds have. -/
def headerFields : List (FieldNames × Content) :=
  [(["nodeId", "node_id"], .plain), (["label"], .plain), (["sourceRef", "source_ref"], .plain), (["tags"], .plain),
    (["scope"], .part .scope), (["type"], .plain)]

/-- The fields of the nodes of a kind. -/
def kindFields : NodeKind → List (FieldNames × Content)
  | .condition => headerFields ++ [(["condition"], .part .condition), (["children"], .part .branches), (["annotation"], .plain)]
  | .leaf =>
    headerFields ++ [(["decision"], .plain), (["status"], .plain), (["obligations"], .plain), (["annotation"], .plain)]
  | .group =>
    headerFields ++ [(["children"], .parts .node), (["entryNodeId", "entry_node_id"], .plain),
      (["exitNodeId", "exit_node_id"], .plain)]
  | .router => headerFields ++ [(["branches"], .parts .route)]
  | .anchor => headerFields ++ [(["conflictId", "conflict_id"], .plain), (["pairedAnchorId", "paired_anchor_id"], .plain)]

/-- The fields of a mapping. Those of a node are told by its kind, and if it is of none there is only the field that says so. -/
def Part.fields (entries : List (Scalar × Value)) : Part → List (FieldNames × Content)
  | .node =>
    match nodeKind (.mapping entries) entries with
    | .ok kind => kindFields kind
    | .error _ => [(["type"], .plain)]
  | .condition => [(["fact"], .plain), (["op"], .plain), (["value"], .plain)]
  | .branches => [(["true"], .part .node), (["false"], .part .node)]
  | .scope => [(["jurisdictions"], .plain), (["roles"], .plain)]
  | .route => [(["jurisdiction"], .plain), (["role"], .plain), (["targetNodeId", "target_node_id"], .plain)]

/-- The values that stand under any of some names. -/
def given (names : FieldNames) (entries : List (Scalar × Value)) : List Value :=
  (entries.filter fun e => names.any fun name => e.1 == .text name).map Prod.snd

mutual

/-- A value is another one in a different spelling: in its mappings, fields may stand under other names of theirs, and there may be
other entries under keys that name no field. -/
inductive Respelled : Content → Value → Value → Prop
  | same (content : Content) (v : Value) : Respelled content v v
  | part {p : Part} {entries entries' : List (Scalar × Value)} (h : RespelledFields entries entries' (p.fields entries)) :
    Respelled (.part p) (.mapping entries) (.mapping entries')
  | parts {p : Part} (kind : SequenceKind) {vs ws : List Value} (h : RespelledItems p vs ws) :
    Respelled (.parts p) (.sequence kind vs) (.sequence kind ws)

/-- Entries hold each of some fields alike: either not at all, or each under one of its names, with values that differ in spelling. -/
inductive RespelledFields : List (Scalar × Value) → List (Scalar × Value) → List (FieldNames × Content) → Prop
  | nil {entries entries' : List (Scalar × Value)} : RespelledFields entries entries' []
  | absent {entries entries' : List (Scalar × Value)} {names : FieldNames} {content : Content} {fields : List (FieldNames × Content)}
    (h : given names entries = []) (h' : given names entries' = []) (hfields : RespelledFields entries entries' fields) :
    RespelledFields entries entries' ((names, content) :: fields)
  | held {entries entries' : List (Scalar × Value)} {names : FieldNames} {content : Content} {fields : List (FieldNames × Content)}
    {v w : Value} (h : given names entries = [v]) (h' : given names entries' = [w]) (hvalue : Respelled content v w)
    (hfields : RespelledFields entries entries' fields) : RespelledFields entries entries' ((names, content) :: fields)

/-- Items are one by one the others in a different spelling. -/
inductive RespelledItems : Part → List Value → List Value → Prop
  | nil {p : Part} : RespelledItems p [] []
  | cons {p : Part} {v w : Value} {vs ws : List Value} (hvalue : Respelled (.part p) v w) (hitems : RespelledItems p vs ws) :
    RespelledItems p (v :: vs) (w :: ws)

end

/-! ## Readings that come to the same -/

/-- Two readings come to the same: they give the same value, or both give none. -/
def Agree {α : Type} (x y : Checked α) : Prop := ∀ a, x = .ok a ↔ y = .ok a

namespace Agree

variable {α β : Type}

theorem refl (x : Checked α) : Agree x x := fun _ => Iff.rfl

theorem errors (faults faults' : List Fault) : Agree (.error faults : Checked α) (.error faults') := fun a => by simp

theorem under {x y : Checked α} (h : Agree x y) (part part' : PathPart) : Agree (Checked.under part x) (Checked.under part' y) :=
  fun a => by rw [Checked.under_eq_ok, Checked.under_eq_ok, h a]

theorem map {x y : Checked α} (h : Agree x y) (f : α → β) : Agree (f <$> x) (f <$> y) := fun b => by
  simp only [Except.map_eq_ok, h _]

/-- Two pairs of readings that come to the same do so together. -/
theorem and {f g : Checked (α → β)} {x y : Checked α} (hf : Agree f g) (h : Agree x y) :
    Agree (Checked.and f x) (Checked.and g y) :=
  fun b => by simp only [Checked.and_eq_ok, hf _, h _]

/-- Two readings that come to the same give the same value, or both give faults. -/
theorem cases {x y : Checked α} (h : Agree x y) :
    (∃ a, x = .ok a ∧ y = .ok a) ∨ ∃ faults faults', x = .error faults ∧ y = .error faults' := by
  cases x with
  | ok a => exact .inl ⟨a, rfl, (h a).1 rfl⟩
  | error faults =>
    cases y with
    | ok a => exact nomatch (h a).2 rfl
    | error faults' => exact .inr ⟨faults, faults', rfl, rfl⟩

end Agree

/-! ## Fields -/

section Fields

variable {names : FieldNames} {entries entries' : List (Scalar × Value)} {v w : Value}

/-- What is found under some names is given under them. -/
theorem mem_given_of_find? {name : String} (h : find? names entries = some (name, v)) : v ∈ given names entries := by
  obtain ⟨other, hother, found⟩ := List.exists_of_findSome?_eq_some h
  obtain ⟨w, hw, heq⟩ := Option.map_eq_some_iff.1 found
  obtain ⟨rfl, rfl⟩ := Prod.mk.inj heq
  rw [Value.lookup] at hw
  obtain ⟨e, he, rfl⟩ := Option.map_eq_some_iff.1 hw
  have hkey := List.find?_some he
  exact List.mem_map_of_mem (List.mem_filter.2 ⟨List.mem_of_find?_eq_some he, List.any_eq_true.2 ⟨other, hother, hkey⟩⟩)

/-- Where nothing is found under some names, nothing is given under them. -/
theorem given_eq_nil_of_find? (h : find? names entries = none) : given names entries = [] := by
  refine List.map_eq_nil_iff.2 (List.filter_eq_nil_iff.2 fun e he hkey => ?_)
  obtain ⟨name, hname, hkey⟩ := List.any_eq_true.1 hkey
  have hlookup : Value.lookup entries name = none := Option.map_eq_none_iff.1 (List.findSome?_eq_none_iff.1 h name hname)
  exact List.find?_eq_none.1 (Option.map_eq_none_iff.1 hlookup) e he hkey

/-- Nothing is found where nothing is given under the names. -/
theorem find?_of_given_nil (h : given names entries = []) : find? names entries = none := by
  cases hf : find? names entries with
  | none => rfl
  | some found => exact absurd (h ▸ mem_given_of_find? hf) List.not_mem_nil

/-- The one value that is given under the names is found. -/
theorem find?_of_given (h : given names entries = [v]) : ∃ name, find? names entries = some (name, v) := by
  cases hf : find? names entries with
  | none => exact nomatch h.symm.trans (given_eq_nil_of_find? hf)
  | some found =>
    have hmem := mem_given_of_find? hf
    rw [h, List.mem_singleton] at hmem
    exact ⟨found.1, by rw [← hmem]⟩

/-- Entries hold a field alike: under none of its names, or each under one of them, with values that are related. -/
def Alike (R : Value → Value → Prop) (names : FieldNames) (entries entries' : List (Scalar × Value)) : Prop :=
  (find? names entries = none ∧ find? names entries' = none) ∨
    ∃ name name' v w, find? names entries = some (name, v) ∧ find? names entries' = some (name', w) ∧ R v w

namespace Alike

variable {α : Type} {R : Value → Value → Prop} {read : Value → Checked α}

/-- A field that must be there is read alike. -/
theorem required (h : Alike R names entries entries') (hread : ∀ v w, R v w → Agree (read v) (read w)) (whole whole' : Value) :
    Agree (Format.required names read whole entries) (Format.required names read whole' entries') := by
  rcases h with ⟨h, h'⟩ | ⟨name, name', v, w, h, h', hR⟩
  · rw [Format.required, Format.required, h, h']
    exact Agree.errors _ _
  · rw [Format.required, Format.required, h, h']
    exact (hread v w hR).under _ _

/-- A field that may be missing is read alike. -/
theorem optional (h : Alike R names entries entries') (hread : ∀ v w, R v w → Agree (read v) (read w)) (default : α) :
    Agree (Format.optional names read default entries) (Format.optional names read default entries') := by
  rcases h with ⟨h, h'⟩ | ⟨name, name', v, w, h, h', hR⟩
  · rw [Format.optional, Format.optional, h, h']
    exact Agree.refl _
  · rw [Format.optional, Format.optional, h, h']
    exact (hread v w hR).under _ _

end Alike

/-- A field under one name that holds the same is looked up alike. -/
theorem lookup_eq_of_alike {name : String} (h : Alike Eq [name] entries entries') :
    Value.lookup entries name = Value.lookup entries' name := by
  have hlookup (entries : List (Scalar × Value)) : (find? [name] entries).map Prod.snd = Value.lookup entries name := by
    rw [find?_cons]
    cases Value.lookup entries name <;> rfl
  rw [← hlookup, ← hlookup]
  rcases h with ⟨h, h'⟩ | ⟨name', name'', v, w, h, h', rfl⟩
  · rw [h, h']
  · rw [h, h']
    rfl

end Fields

/-! ## Parts -/

section Parts

variable {refusal : Refusal} {around : List NodeKind} {entries entries' : List (Scalar × Value)}

/-- Values that are read alike as a part of a node. A scope may be missing. -/
def Part.ReadAlike (refusal : Refusal) (v w : Value) : Part → Prop
  | .node => ∀ around, Agree (Format.node refusal around v) (Format.node refusal around w)
  | .condition => Agree (Format.condition refusal v) (Format.condition refusal w)
  | .branches => ∀ around, Agree (Format.branches refusal around v) (Format.branches refusal around w)
  | .scope => Agree (nullable (Format.scope refusal) v) (nullable (Format.scope refusal) w)
  | .route => Agree (Format.route refusal v) (Format.route refusal w)

/-- Values that are read alike as the content of a field. -/
def Content.ReadAlike (refusal : Refusal) (v w : Value) : Content → Prop
  | .plain => v = w
  | .part p => p.ReadAlike refusal v w
  | .parts p =>
    v = w ∨ ∃ kind vs ws, v = .sequence kind vs ∧ w = .sequence kind ws ∧
      List.Forall₂ (fun v w => p.ReadAlike refusal v w) vs ws

/-- Every value is read as it is read itself. -/
theorem Part.readAlike_refl (refusal : Refusal) (v : Value) (p : Part) : p.ReadAlike refusal v v := by
  cases p with
  | node | branches => exact fun around => Agree.refl _
  | condition | scope | route => exact Agree.refl _

/-- Whatever a field contains is read as it is read itself. -/
theorem Content.readAlike_refl (refusal : Refusal) (v : Value) (content : Content) : content.ReadAlike refusal v v := by
  cases content with
  | plain => exact rfl
  | part p => exact p.readAlike_refl refusal v
  | parts => exact .inl rfl

/-- Entries hold all fields alike, so that each can be read alike. -/
def AlikeIn (refusal : Refusal) (entries entries' : List (Scalar × Value)) (fields : List (FieldNames × Content)) : Prop :=
  ∀ field ∈ fields, Alike (fun v w => field.2.ReadAlike refusal v w) field.1 entries entries'

/-- What is taken as it stands is read alike. -/
theorem agree_plain {α : Type} {read : Value → Checked α} (v w : Value) (h : Content.plain.ReadAlike refusal v w) :
    Agree (read v) (read w) := by
  obtain rfl : v = w := h
  exact Agree.refl _

/-- Headers whose fields are alike are read alike. -/
theorem header_agree (h : AlikeIn refusal entries entries' headerFields) :
    Agree (header refusal entries) (header refusal entries') := by
  simp only [AlikeIn, headerFields, List.forall_mem_cons] at h
  obtain ⟨hid, hlabel, hsource, htags, hscope, -⟩ := h
  refine Agree.and (Agree.and (Agree.and (Agree.and (Agree.map ?_ _) ?_) ?_) ?_) ?_
  · exact hid.required agree_plain _ _
  · exact hlabel.optional agree_plain _
  · exact hsource.optional agree_plain _
  · exact htags.optional agree_plain _
  · exact hscope.optional (fun _ _ hscope => hscope) _

theorem condition_agree (h : AlikeIn refusal entries entries' (Part.condition.fields entries)) :
    Part.condition.ReadAlike refusal (.mapping entries) (.mapping entries') := by
  simp only [AlikeIn, Part.fields, List.forall_mem_cons] at h
  obtain ⟨hfact, hop, hvalue, -⟩ := h
  refine Agree.and (Agree.and (Agree.map ?_ _) ?_) ?_
  · exact hfact.required agree_plain _ _
  · exact hop.required agree_plain _ _
  · exact hvalue.optional agree_plain _

theorem scope_agree (h : AlikeIn refusal entries entries' (Part.scope.fields entries)) :
    Part.scope.ReadAlike refusal (.mapping entries) (.mapping entries') := by
  simp only [AlikeIn, Part.fields, List.forall_mem_cons] at h
  obtain ⟨hjurisdictions, hroles, -⟩ := h
  refine Agree.map (Agree.and (Agree.map ?_ _) ?_) some
  · exact hjurisdictions.optional agree_plain _
  · exact hroles.optional agree_plain _

theorem route_agree (h : AlikeIn refusal entries entries' (Part.route.fields entries)) :
    Part.route.ReadAlike refusal (.mapping entries) (.mapping entries') := by
  simp only [AlikeIn, Part.fields, List.forall_mem_cons] at h
  obtain ⟨hjurisdiction, hrole, htarget, -⟩ := h
  refine Agree.and (Agree.and (Agree.map ?_ _) ?_) ?_
  · exact hjurisdiction.required agree_plain _ _
  · exact hrole.required agree_plain _ _
  · exact htarget.required agree_plain _ _

/-! ### Sequences -/

/-- Lists of items that are read alike are read alike. -/
theorem itemsFrom_agree {α : Type} {read : Value → Checked α} {vs ws : List Value}
    (h : List.Forall₂ (fun v w => Agree (read v) (read w)) vs ws) (n : Nat) : Agree (itemsFrom read n vs) (itemsFrom read n ws) := by
  induction h generalizing n with
  | nil => exact Agree.refl _
  | cons hvalue _ ih => exact Agree.and (Agree.map (hvalue.under _ _) _) (ih (n + 1))

/-- Sequences are read alike when their items are. -/
theorem list_agree {α : Type} {read : Value → Checked α} {p : Part}
    (hread : ∀ v w, p.ReadAlike refusal v w → Agree (read v) (read w))
    (v w : Value) (h : (Content.parts p).ReadAlike refusal v w) : Agree (list read v) (list read w) := by
  rcases h with rfl | ⟨kind, vs, ws, rfl, rfl, hitems⟩
  · exact Agree.refl _
  · exact itemsFrom_agree (hitems.imp hread) 0

/-- The members of a group are a sequence of nodes. -/
theorem members_eq_list (refusal : Refusal) (around : List NodeKind) (v : Value) :
    members refusal around v = list (node refusal around) v := by
  have hitems (n : Nat) (items : List Value) : membersFrom refusal around n items = itemsFrom (node refusal around) n items := by
    induction items generalizing n with
    | nil => rw [membersFrom, itemsFrom]
    | cons v rest ih => rw [membersFrom, itemsFrom, ih]
  unfold members
  split
  · exact hitems 0 _
  · rfl
  · next hsequence hrecurrence => rw [list] <;> assumption

/-! ### Nodes -/

/-- Both branches are read as required fields. -/
theorem branches_eq (refusal : Refusal) (around : List NodeKind) (entries : List (Scalar × Value)) :
    branches refusal around (.mapping entries) = Checked.and
      (Prod.mk <$> required ["true"] (node refusal around) (.mapping entries) entries)
      (required ["false"] (node refusal around) (.mapping entries) entries) := by
  rw [branches]
  refine congrArg₂ Checked.and (congrArg (Prod.mk <$> ·) ?_) ?_
  all_goals
    dsimp only
    rw [required]
    split
    · next h => rw [h]
    · next h =>
      rw [h]
      rfl

/-- A node with a condition is read from its header, its condition, its branches and its note. -/
theorem nodeOfKind_condition_eq (refusal : Refusal) (around : List NodeKind) (entries : List (Scalar × Value)) :
    nodeOfKind refusal around .condition entries = Checked.and (Checked.and (Checked.and
      ((fun header condition below note => Node.condition header condition note below.1 below.2) <$> header refusal entries)
      (required ["condition"] (condition refusal) (.mapping entries) entries))
      (required ["children"] (branches refusal (.condition :: around)) (.mapping entries) entries))
      (optional ["annotation"] (nullable text) none entries) := by
  rw [nodeOfKind]
  congr 2
  rw [required]
  split
  · next h => rw [h]
  · next h =>
    rw [h]
    rfl

/-- A group is read from its header, its members, its entry and its exit. -/
theorem nodeOfKind_group_eq (refusal : Refusal) (around : List NodeKind) (entries : List (Scalar × Value)) :
    nodeOfKind refusal around .group entries = Checked.and (Checked.and (Checked.and
      (Node.group <$> header refusal entries)
      (optional ["children"] (list (node refusal (.group :: around))) [] entries))
      (required ["entryNodeId", "entry_node_id"] text (.mapping entries) entries))
      (optional ["exitNodeId", "exit_node_id"] (nullable text) none entries) := by
  rw [nodeOfKind]
  congr 3
  rw [optional]
  split
  · next h =>
    rw [h]
    exact congrArg _ (members_eq_list _ _ _)
  · next h => rw [h]

theorem branches_agree (h : AlikeIn refusal entries entries' (Part.branches.fields entries)) :
    Part.branches.ReadAlike refusal (.mapping entries) (.mapping entries') := by
  intro around
  simp only [AlikeIn, Part.fields, List.forall_mem_cons] at h
  obtain ⟨htrue, hfalse, -⟩ := h
  rw [branches_eq, branches_eq]
  refine Agree.and (Agree.map ?_ _) ?_
  · exact htrue.required (fun _ _ hbranch => hbranch around) _ _
  · exact hfalse.required (fun _ _ hbranch => hbranch around) _ _

/-- A node of a kind is read alike from entries that hold the fields of the kind alike. -/
theorem nodeOfKind_agree {kind : NodeKind} (h : AlikeIn refusal entries entries' (kindFields kind)) :
    Agree (nodeOfKind refusal around kind entries) (nodeOfKind refusal around kind entries') := by
  cases kind with
  | condition =>
    obtain ⟨hheader, h⟩ := List.forall_mem_append.1 h
    simp only [List.forall_mem_cons] at h
    obtain ⟨hcondition, hchildren, hnote, -⟩ := h
    rw [nodeOfKind_condition_eq, nodeOfKind_condition_eq]
    refine Agree.and (Agree.and (Agree.and (Agree.map (header_agree hheader) _) ?_) ?_) ?_
    · exact hcondition.required (fun _ _ hcondition => hcondition) _ _
    · exact hchildren.required (fun _ _ hbranches => hbranches _) _ _
    · exact hnote.optional agree_plain _
  | leaf =>
    obtain ⟨hheader, h⟩ := List.forall_mem_append.1 h
    simp only [List.forall_mem_cons] at h
    obtain ⟨hdecision, hstatus, hobligations, hnote, -⟩ := h
    rw [nodeOfKind, nodeOfKind]
    refine Agree.map (Agree.and (Agree.and (Agree.and (Agree.and (Agree.map (header_agree hheader) _) ?_) ?_) ?_) ?_) _
    · exact hdecision.required agree_plain _ _
    · exact hstatus.required agree_plain _ _
    · exact hobligations.optional agree_plain _
    · exact hnote.optional agree_plain _
  | group =>
    obtain ⟨hheader, h⟩ := List.forall_mem_append.1 h
    simp only [List.forall_mem_cons] at h
    obtain ⟨hchildren, hentry, hexit, -⟩ := h
    rw [nodeOfKind_group_eq, nodeOfKind_group_eq]
    refine Agree.and (Agree.and (Agree.and (Agree.map (header_agree hheader) _) ?_) ?_) ?_
    · exact hchildren.optional (list_agree fun _ _ hnode => hnode _) _
    · exact hentry.required agree_plain _ _
    · exact hexit.optional agree_plain _
  | router =>
    obtain ⟨hheader, h⟩ := List.forall_mem_append.1 h
    simp only [List.forall_mem_cons] at h
    obtain ⟨hbranches, -⟩ := h
    rw [nodeOfKind, nodeOfKind]
    refine Agree.and (Agree.map (header_agree hheader) _) ?_
    exact hbranches.optional (list_agree fun _ _ hroute => hroute) _
  | anchor =>
    obtain ⟨hheader, h⟩ := List.forall_mem_append.1 h
    simp only [List.forall_mem_cons] at h
    obtain ⟨hconflict, hpaired, -⟩ := h
    rw [nodeOfKind, nodeOfKind]
    refine Agree.and (Agree.and (Agree.map (header_agree hheader) _) ?_) ?_
    · exact hconflict.required agree_plain _ _
    · exact hpaired.required agree_plain _ _

/-- The kind of a node is read alike where its field is held alike. -/
theorem nodeKind_agree (whole whole' : Value) (h : Value.lookup entries "type" = Value.lookup entries' "type") :
    Agree (nodeKind whole entries) (nodeKind whole' entries') := by
  unfold nodeKind
  rw [← h]
  split
  · exact Agree.errors _ _
  · split
    · split
      · exact Agree.refl _
      · exact Agree.errors _ _
    · exact Agree.errors _ _

/-- The field that tells the kind of a node is one of its fields. -/
theorem type_mem_fields (entries : List (Scalar × Value)) : (["type"], Content.plain) ∈ Part.node.fields entries := by
  have hheader : (["type"], Content.plain) ∈ headerFields := by simp [headerFields]
  rw [Part.fields]
  cases nodeKind (.mapping entries) entries with
  | error faults => exact List.mem_singleton_self _
  | ok kind => cases kind <;> exact List.mem_append_left _ hheader

/-- Nodes whose fields are alike are read alike. -/
theorem node_agree (h : AlikeIn refusal entries entries' (Part.node.fields entries)) :
    Part.node.ReadAlike refusal (.mapping entries) (.mapping entries') := by
  intro around
  have htype : Alike Eq ["type"] entries entries' := h _ (type_mem_fields entries)
  have hkinds := nodeKind_agree (.mapping entries) (.mapping entries') (lookup_eq_of_alike htype)
  rw [node, node]
  rcases hkinds.cases with ⟨kind, hkind, hkind'⟩ | ⟨faults, faults', hkind, hkind'⟩
  · rw [hkind, hkind']
    rw [Part.fields, hkind] at h
    exact (nodeOfKind_agree h).under _ _
  · rw [hkind, hkind']
    exact Agree.errors _ _

end Parts

/-! ## What is read of another spelling -/

/-- A mapping is read alike from entries that hold its fields alike. -/
theorem Part.readAlike_of_alikeIn {refusal : Refusal} {entries entries' : List (Scalar × Value)} :
    ∀ p : Part, AlikeIn refusal entries entries' (p.fields entries) → p.ReadAlike refusal (.mapping entries) (.mapping entries')
  | .node, h => node_agree h
  | .condition, h => condition_agree h
  | .branches, h => branches_agree h
  | .scope, h => scope_agree h
  | .route, h => route_agree h

mutual

/-- A value in a different spelling is read alike. -/
theorem Respelled.readAlike (refusal : Refusal) : ∀ {content : Content} {v w : Value},
    Respelled content v w → content.ReadAlike refusal v w
  | _, _, _, .same content v => content.readAlike_refl refusal v
  | _, _, _, .part (p := p) h => p.readAlike_of_alikeIn (h.alikeIn refusal)
  | _, _, _, .parts kind h => .inr ⟨kind, _, _, rfl, rfl, h.readAlike refusal⟩

/-- Fields in a different spelling are held alike. -/
theorem RespelledFields.alikeIn (refusal : Refusal) :
    ∀ {entries entries' : List (Scalar × Value)} {fields : List (FieldNames × Content)},
      RespelledFields entries entries' fields → AlikeIn refusal entries entries' fields
  | _, _, _, .nil => fun _ hfield => absurd hfield List.not_mem_nil
  | _, _, _, .absent h h' hfields =>
    List.forall_mem_cons.2 ⟨.inl ⟨find?_of_given_nil h, find?_of_given_nil h'⟩, hfields.alikeIn refusal⟩
  | _, _, _, .held h h' hvalue hfields => by
    obtain ⟨name, hname⟩ := find?_of_given h
    obtain ⟨name', hname'⟩ := find?_of_given h'
    refine List.forall_mem_cons.2 ⟨.inr ⟨name, name', _, _, hname, hname', ?_⟩, hfields.alikeIn refusal⟩
    exact hvalue.readAlike refusal

/-- Items in a different spelling are read alike one by one. -/
theorem RespelledItems.readAlike (refusal : Refusal) : ∀ {p : Part} {vs ws : List Value},
    RespelledItems p vs ws → List.Forall₂ (fun v w => p.ReadAlike refusal v w) vs ws
  | _, _, _, .nil => .nil
  | _, _, _, .cons hvalue hitems => .cons (hvalue.readAlike refusal) (hitems.readAlike refusal)

end

end Format

open Format

namespace Listing

/-- A tree that asks for the name of an issuer, and leads on to a register. -/
def tree : Node :=
  .condition ⟨"listed", none, none, [], some ⟨["EU"], ["target"]⟩⟩ ⟨"issuer", "eq", .text "Acme"⟩ none
    (.leaf (Licence.leaf "in" .compliant)) (.router (Licence.header "out") [⟨"US", .target, "register"⟩])

/-- The leaf with underscores in keys and with keys that name no field of a leaf, as in all that follows. -/
def leaf : Value := .record [
  ("node_id", .text "in"), ("type", .text "leaf"), ("tags", texts []), ("decision", .text "in"), ("branches", .null),
  ("status", .text "compliant"), ("obligations", texts [])]

/-- The router. -/
def router : Value := .record [
  ("node_id", .text "out"), ("type", .text "router"), ("tags", texts []), ("children", .null),
  ("branches", .list [.record [
    ("target_node_id", .text "register"), ("jurisdiction", .text "US"), ("role", .text "target"), ("weight", .int 2)]])]

/-- The tree. -/
def spelled : Value := .record [
  ("decision", .text "open"),
  ("node_id", .text "listed"),
  ("type", .text "condition"),
  ("tags", texts []),
  ("scope", .record [("regions", texts ["north"]), ("roles", texts ["target"]), ("jurisdictions", texts ["EU"])]),
  ("condition", .record [("fact", .text "issuer"), ("op", .text "eq"), ("value", .text "Acme"), ("unit", .null)]),
  ("children", .record [("false", router), ("unknown", .text "in"), ("true", leaf)])]

end Listing

end RegulatoryTrees
