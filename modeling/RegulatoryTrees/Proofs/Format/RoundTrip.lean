import RegulatoryTrees.Proofs.Format.Fields
import RegulatoryTrees.Proofs.Tree.Walk

/-!
# Trees and rules are read as they are written

A tree that is written in either spelling, with or without fields that are null, is read back as the tree it was, and a rule
with all its further metadata is read back as the rule it was (`ofValue_write`). Trees go by recursion: the fields of a node are
read one by one, and what lies below it is read back by the same statement.
-/

namespace RegulatoryTrees

namespace Format

variable {refusal : Refusal} {style : Style}

/-! ## Parts of nodes -/

/-- A reference to a source is read back from what it is written as. -/
theorem sourceRef_write (s : SourceRef) : sourceRef refusal (s.write style) = .ok s := by
  refine record_fields (Or.inr (by simp)) fun entries h => ?_
  have hid : Holds entries ["document_id"] (.text s.documentId) := h.one rfl
  have harticle : Holds entries ["article"] (optionalText s.article) := h.one (by simp [List.lookup_cons])
  have hsection : Holds entries ["section"] (optionalText s.section) := h.one (by simp [List.lookup_cons])
  have hparagraphs : Holds entries ["paragraphs"] (texts s.paragraphs) := h.one (by simp [List.lookup_cons])
  have hpages : Holds entries ["pages"] (.list (s.pages.map .int)) := h.one (by simp [List.lookup_cons])
  have hurl : Holds entries ["url"] (optionalText s.url) := h.one (by simp [List.lookup_cons])
  simp only [hid.text, harticle.optionalText, hsection.optionalText, hparagraphs.texts,
    hpages.list fun n : Int => (rfl : integer (.int n) = .ok n), hurl.optionalText, Except.map_ok, Checked.and_ok]

theorem scope_write (s : Scope) : scope refusal (s.write style) = .ok s := by
  refine record_fields (Or.inr (by simp)) fun entries h => ?_
  have hjurisdictions : Holds entries ["jurisdictions"] (texts s.jurisdictions) := h.one rfl
  have hroles : Holds entries ["roles"] (texts s.roles) := h.one (by simp [List.lookup_cons])
  simp only [hjurisdictions.texts, hroles.texts, Except.map_ok, Checked.and_ok]

theorem condition_write (c : Condition) : condition refusal (c.write style) = .ok c := by
  refine record_fields (Or.inr (by simp)) fun entries h => ?_
  have hfact : Holds entries ["fact"] (.text c.fact) := h.one rfl
  have hop : Holds entries ["op"] (.text c.op) := h.one (by simp [List.lookup_cons])
  have hvalue : Holds entries ["value"] c.value := h.one (by simp [List.lookup_cons])
  simp only [hfact.text, hop.text, hvalue.optional (rfl : anything c.value = .ok c.value) id, Except.map_ok, Checked.and_ok]

theorem oneOf_role (r : Role) : oneOf Role.all Role.name (.text r.name) = .ok r := by
  cases r <;> rfl

theorem oneOf_status (s : Status) : oneOf Status.all Status.name (.text s.name) = .ok s := by
  cases s <;> rfl

theorem route_write (r : Route) : route refusal (r.write style) = .ok r := by
  refine record_fields (Or.inr (by cases hs : style.camel <;> simp [Style.key, hs])) fun entries h => ?_
  have hjurisdiction : Holds entries ["jurisdiction"] (.text r.jurisdiction) := h.one rfl
  have hrole : Holds entries ["role"] (.text r.role.name) := h.one (by simp [List.lookup_cons])
  have htarget : Holds entries ["targetNodeId", "target_node_id"] (.text r.target) :=
    h.two style (by cases hs : style.camel <;> simp [List.lookup_cons, Style.key, hs])
  simp only [hjurisdiction.text, hrole.required (by simp) (oneOf_role r.role), htarget.text, Except.map_ok, Checked.and_ok]

/-! ## The part that nodes of all kinds have -/

/-- The names under which nodes of all kinds have fields, in both spellings. -/
def commonNames : List String := ["nodeId", "node_id", "label", "sourceRef", "source_ref", "tags", "scope", "type"]

section Header

variable {hd : Header} {kind : NodeKind} {rest : List (String × Value)} {entries : List (Scalar × Value)}

/-- The fields that all nodes have are under different names, and these names are reserved for them. -/
theorem keys_header (style : Style) (hd : Header) (kind : NodeKind) :
    (hd.write style kind).map Prod.fst ⊆ commonNames ∧ ((hd.write style kind).map Prod.fst).Nodup := by
  cases hs : style.camel <;> simp [Header.write, Style.key, hs, commonNames]

/-- A field of one kind of node is looked up behind the fields that nodes of all kinds have. -/
theorem lookup_header_append {name : String} (h : name ∉ commonNames) :
    (hd.write style kind ++ rest).lookup name = rest.lookup name := by
  rw [List.lookup_append, lookup_eq_none fun hname => h ((keys_header style hd kind).1 hname), Option.none_or]

/-- The fields of a node have different names if those of its kind do and none is a name that all kinds have. -/
theorem nodup_header_append (style : Style) (hd : Header) (kind : NodeKind) (hn : (rest.map Prod.fst).Nodup)
    (hrest : ∀ name ∈ rest.map Prod.fst, name ∉ commonNames) :
    ((hd.write style kind ++ rest).map Prod.fst).Nodup := by
  obtain ⟨hsub, hcommon⟩ := keys_header style hd kind
  rw [List.map_append]
  refine List.nodup_append.2 ⟨hcommon, hn, fun name hname other hother heq => ?_⟩
  exact hrest other hother (heq ▸ hsub hname)

/-- A header is read back among the fields of its node, of which none other has a name that is reserved for headers. -/
theorem header_write (h : HasFields entries (hd.write style kind ++ rest))
    (hrest : ∀ name ∈ rest.map Prod.fst, name ∉ commonNames) : header refusal entries = .ok hd := by
  have hnone : ∀ name ∈ commonNames, rest.lookup name = none :=
    fun name hname => lookup_eq_none fun hmem => hrest name hmem hname
  simp only [commonNames, List.forall_mem_cons] at hnone
  obtain ⟨hnodeId, hnode_id, -, hsourceRef, hsource_ref, -⟩ := hnone
  have hid : Holds entries ["nodeId", "node_id"] (.text hd.id) :=
    h.two style (by cases hs : style.camel <;> simp [Header.write, List.lookup_cons, Style.key, hs, hnodeId, hnode_id])
  have hlabel : Holds entries ["label"] (optionalText hd.label) :=
    h.one (by cases hs : style.camel <;> simp [Header.write, List.lookup_cons, Style.key, hs])
  have hsource : Holds entries ["sourceRef", "source_ref"] (hd.source.elim .null (SourceRef.write style)) :=
    h.two style (by cases hs : style.camel <;> simp [Header.write, List.lookup_cons, Style.key, hs, hsourceRef, hsource_ref])
  have htags : Holds entries ["tags"] (texts hd.tags) :=
    h.one (by cases hs : style.camel <;> simp [Header.write, List.lookup_cons, Style.key, hs])
  have hscope : Holds entries ["scope"] (hd.scope.elim .null (Scope.write style)) :=
    h.one (by cases hs : style.camel <;> simp [Header.write, List.lookup_cons, Style.key, hs])
  simp only [header, hid.text, hlabel.optionalText, hsource.nullable (fun _ => Value.record_ne_null _) sourceRef_write,
    htags.texts, hscope.nullable (fun _ => Value.record_ne_null _) scope_write, Except.map_ok, Checked.and_ok]

/-- The kind of a node is held under its name. -/
theorem kind_write (h : HasFields entries (hd.write style kind ++ rest)) : Holds entries ["type"] (.text kind.name) :=
  h.one (by cases hs : style.camel <;> simp [Header.write, List.lookup_cons, Style.key, hs])

end Header

/-! ## Reading nodes -/

section Node

variable {around : List NodeKind} {entries : List (Scalar × Value)} {whole : Value}

/-- What is held as a kind is read as the kind. -/
theorem nodeKind_of_holds {kind : NodeKind} (h : Holds entries ["type"] (.text kind.name)) :
    nodeKind whole entries = .ok kind := by
  obtain ⟨name, hf⟩ := h.resolve_right (by simp)
  have hl : Value.lookup entries "type" = some (.text kind.name) := by
    rw [find?_cons] at hf
    cases hv : Value.lookup entries "type" with
    | none => simp [hv, find?] at hf
    | some v =>
      rw [hv] at hf
      exact congrArg some (Prod.mk.inj (Option.some.inj hf)).2
  rw [nodeKind, hl]
  cases kind <;> rfl

/-- A mapping is read as a node of the kind that it says it is of. -/
theorem node_mapping (kind : NodeKind) {n : Node} (hkind : nodeKind (.mapping entries) entries = .ok kind)
    (h : nodeOfKind refusal around kind entries = .ok n) : node refusal around (.mapping entries) = .ok n := by
  rw [node, hkind]
  exact Checked.under_eq_ok.2 h

/-- A node is read from its fields, the part that nodes of all kinds have before the others. -/
theorem node_fields {hd : Header} {kind : NodeKind} {rest : List (String × Value)} {n : Node}
    (hn : (rest.map Prod.fst).Nodup) (hrest : ∀ name ∈ rest.map Prod.fst, name ∉ commonNames)
    (h : ∀ entries, HasFields entries (hd.write style kind ++ rest) → header refusal entries = .ok hd →
      nodeOfKind refusal around kind entries = .ok n) :
    node refusal around (style.fields (hd.write style kind ++ rest)) = .ok n := by
  have hfields := hasFields_kept style _ (Or.inr (nodup_header_append style hd kind hn hrest))
  exact node_mapping kind (nodeKind_of_holds (kind_write hfields)) (h _ hfields (header_write hfields hrest))

/-- A condition is read when its parts and the nodes below it are. -/
theorem nodeOfKind_condition {hd : Header} {c : Condition} {note : Option String} {whenTrue whenFalse : Node} {v : Value}
    (hheader : header refusal entries = .ok hd)
    (hcondition : required ["condition"] (condition refusal) (.mapping entries) entries = .ok c)
    (hchildren : Holds entries ["children"] v) (hv : v ≠ .null)
    (hbranches : branches refusal (.condition :: around) v = .ok (whenTrue, whenFalse))
    (hnote : optional ["annotation"] (nullable text) none entries = .ok note) :
    nodeOfKind refusal around .condition entries = .ok (.condition hd c note whenTrue whenFalse) := by
  obtain ⟨name, hf⟩ := hchildren.resolve_right fun hnull => hv hnull.2
  rw [nodeOfKind]
  simp only [hheader, hcondition, hnote]
  split
  · next hfound =>
    rw [hf] at hfound
    obtain ⟨rfl, rfl⟩ := Prod.mk.inj (Option.some.inj hfound)
    rw [hbranches]
    rfl
  · next hfound => cases hf.symm.trans hfound

/-- A group is read when its parts and its members are. -/
theorem nodeOfKind_group {hd : Header} {members : List Node} {entry : String} {exit : Option String} {v : Value}
    (hheader : header refusal entries = .ok hd) (hchildren : Holds entries ["children"] v) (hv : v ≠ .null)
    (hmembers : Format.members refusal (.group :: around) v = .ok members)
    (hentry : required ["entryNodeId", "entry_node_id"] text (.mapping entries) entries = .ok entry)
    (hexit : optional ["exitNodeId", "exit_node_id"] (nullable text) none entries = .ok exit) :
    nodeOfKind refusal around .group entries = .ok (.group hd members entry exit) := by
  obtain ⟨name, hf⟩ := hchildren.resolve_right fun hnull => hv hnull.2
  rw [nodeOfKind]
  simp only [hheader, hentry, hexit]
  split
  · next hfound =>
    rw [hf] at hfound
    obtain ⟨rfl, rfl⟩ := Prod.mk.inj (Option.some.inj hfound)
    rw [hmembers]
    rfl
  · next hfound => cases hf.symm.trans hfound

/-- The branches of a condition are read when each of them is. -/
theorem branches_fields {whenTrue whenFalse : Node} {v w : Value} (hv : v ≠ .null) (hw : w ≠ .null)
    (htrue : node refusal around v = .ok whenTrue) (hfalse : node refusal around w = .ok whenFalse) :
    branches refusal around (style.fields [("true", v), ("false", w)]) = .ok (whenTrue, whenFalse) := by
  have hfields := hasFields_kept style [("true", v), ("false", w)] (Or.inr (by simp))
  obtain ⟨name, hft⟩ := (hfields.one rfl : Holds _ ["true"] v).resolve_right fun hnull => hv hnull.2
  obtain ⟨name', hff⟩ := (hfields.one (by simp [List.lookup_cons]) : Holds _ ["false"] w).resolve_right fun hnull => hw hnull.2
  have hread : branches refusal around (.mapping ((style.kept [("true", v), ("false", w)]).map Value.entryOf)) =
      .ok (whenTrue, whenFalse) := by
    rw [branches]
    simp only
    split
    · next hfound =>
      rw [hft] at hfound
      obtain ⟨rfl, rfl⟩ := Prod.mk.inj (Option.some.inj hfound)
      rw [htrue]
      split
      · next hfound' =>
        rw [hff] at hfound'
        obtain ⟨rfl, rfl⟩ := Prod.mk.inj (Option.some.inj hfound')
        rw [hfalse]
        rfl
      · next hfound' => cases hff.symm.trans hfound'
    · next hfound => cases hft.symm.trans hfound
  exact hread

/-- The members of a list are read one after the other, counted from zero. -/
theorem members_list (vs : List Value) : members refusal around (.list vs) = membersFrom refusal around 0 vs := by
  rw [members]

/-! ## Trees -/

/-- What a node is written as is not null. -/
theorem write_ne_null (n : Node) : n.write style ≠ .null := by
  cases n <;> exact Value.record_ne_null _

mutual

/-- A node is read as it is written, wherever it lies. -/
theorem node_write (around : List NodeKind) (n : Node) : node refusal around (n.write style) = .ok n := by
  match n with
  | .condition hd c note whenTrue whenFalse =>
    refine node_fields (by simp) (by simp [commonNames]) fun entries h hheader => ?_
    have hcondition : Holds entries ["condition"] (c.write style) :=
      h.one (by simp [lookup_header_append, commonNames])
    have hchildren : Holds entries ["children"]
        (style.fields [("true", whenTrue.write style), ("false", whenFalse.write style)]) :=
      h.one (by simp [lookup_header_append, commonNames, List.lookup_cons])
    have hnote : Holds entries ["annotation"] (optionalText note) :=
      h.one (by simp [lookup_header_append, commonNames, List.lookup_cons])
    refine nodeOfKind_condition hheader (hcondition.required (Value.record_ne_null _) (condition_write c)) hchildren
      (Value.record_ne_null _) ?_ hnote.optionalText
    exact branches_fields (write_ne_null whenTrue) (write_ne_null whenFalse) (node_write (.condition :: around) whenTrue)
      (node_write (.condition :: around) whenFalse)
  | .leaf l =>
    refine node_fields (by simp) (by simp [commonNames]) fun entries h hheader => ?_
    have hdecision : Holds entries ["decision"] (.text l.decision) :=
      h.one (by simp [lookup_header_append, commonNames])
    have hstatus : Holds entries ["status"] (.text l.status.name) :=
      h.one (by simp [lookup_header_append, commonNames, List.lookup_cons])
    have hobligations : Holds entries ["obligations"] (texts l.obligations) :=
      h.one (by simp [lookup_header_append, commonNames, List.lookup_cons])
    have hnote : Holds entries ["annotation"] (optionalText l.note) :=
      h.one (by simp [lookup_header_append, commonNames, List.lookup_cons])
    rw [nodeOfKind, leafFields]
    simp only [hheader, hdecision.text, hstatus.required (by simp) (oneOf_status l.status), hobligations.texts,
      hnote.optionalText, Except.map_ok, Checked.and_ok]
  | .group hd members entry exit =>
    refine node_fields (by cases hs : style.camel <;> simp [Style.key, hs])
      (by cases hs : style.camel <;> simp [Style.key, hs, commonNames]) fun entries h hheader => ?_
    have hchildren : Holds entries ["children"] (.list (Node.writeAll style members)) :=
      h.one (by simp [lookup_header_append, commonNames])
    have hentry : Holds entries ["entryNodeId", "entry_node_id"] (.text entry) :=
      h.two style (by cases hs : style.camel <;> simp [lookup_header_append, commonNames, List.lookup_cons, Style.key, hs])
    have hexit : Holds entries ["exitNodeId", "exit_node_id"] (optionalText exit) :=
      h.two style (by cases hs : style.camel <;> simp [lookup_header_append, commonNames, List.lookup_cons, Style.key, hs])
    refine nodeOfKind_group hheader hchildren (by simp) ?_ hentry.text hexit.optionalText
    rw [members_list, membersFrom_writeAll (.group :: around) 0 members]
  | .router hd routes =>
    refine node_fields (by simp) (by simp [commonNames]) fun entries h hheader => ?_
    have hbranches : Holds entries ["branches"] (.list (routes.map (Route.write style))) :=
      h.one (by simp [lookup_header_append, commonNames])
    rw [nodeOfKind, routerFields]
    simp only [hheader, hbranches.list route_write, Except.map_ok, Checked.and_ok]
  | .anchor hd conflictId pairedId =>
    refine node_fields (by cases hs : style.camel <;> simp [Style.key, hs])
      (by cases hs : style.camel <;> simp [Style.key, hs, commonNames]) fun entries h hheader => ?_
    have hconflict : Holds entries ["conflictId", "conflict_id"] (.text conflictId) :=
      h.two style (by cases hs : style.camel <;> simp [lookup_header_append, commonNames, List.lookup_cons, Style.key, hs])
    have hpaired : Holds entries ["pairedAnchorId", "paired_anchor_id"] (.text pairedId) :=
      h.two style (by cases hs : style.camel <;> simp [lookup_header_append, commonNames, List.lookup_cons, Style.key, hs])
    rw [nodeOfKind, anchorFields]
    simp only [hheader, hconflict.text, hpaired.text, Except.map_ok, Checked.and_ok]

/-- Nodes are read as they are written, from any position on. -/
theorem membersFrom_writeAll (around : List NodeKind) (k : Nat) (ns : List Node) :
    membersFrom refusal around k (Node.writeAll style ns) = .ok ns := by
  match ns with
  | [] => rw [Node.writeAll, membersFrom]
  | n :: rest =>
    rw [Node.writeAll, membersFrom, node_write around n, membersFrom_writeAll around (k + 1) rest]
    rfl

end

end Node

/-! ## Rules -/

/-- The metadata of a rule are read from some value. -/
theorem exists_of_rule {v : Value} {r : Rule} (h : rule refusal v = .ok r) : ∃ w, metadata refusal w = .ok r.metadata := by
  obtain ⟨entries, hread⟩ := exists_of_record h
  obtain ⟨_, _, hmetadata, -, rfl⟩ := Checked.and_eq_ok.1 hread
  obtain ⟨_, m, hdescription, hm, rfl⟩ := Checked.and_eq_ok.1 hmetadata
  obtain ⟨_, _, hname, -, rfl⟩ := Checked.and_eq_ok.1 hdescription
  obtain ⟨_, _, hversion, -, rfl⟩ := Checked.and_eq_ok.1 hname
  obtain ⟨_, _, hid, -, rfl⟩ := Checked.and_eq_ok.1 hversion
  obtain ⟨_, -, rfl⟩ := Except.map_eq_ok.1 hid
  exact exists_of_required hm

/-- The names under which the fields of metadata are written, which are those that are looked for first. -/
def ownNames : List String := ["jurisdiction", "framework", "effectiveDate", "expiresDate", "tags"]

/-- Entries that are not read as fields are those under the other names. -/
theorem extraEntries_entries (used : List String) (fields : List (String × Value)) :
    extraEntries used (fields.map Value.entryOf) = .ok (fields.filter fun f => !used.contains f.1) := by
  induction fields with
  | nil => rfl
  | cons f rest ih =>
    rw [List.map_cons, Value.entryOf, extraEntries, ih, List.filter_cons]
    cases used.contains f.1 <;> rfl

/-- What is kept as a further entry is an entry under a name that is not read. -/
theorem of_mem_extraEntries {used : List String} {entries : List (Scalar × Value)} {extra : List (String × Value)}
    (h : extraEntries used entries = .ok extra) : ∀ f ∈ extra, f.1 ∉ used ∧ Value.entryOf f ∈ entries := by
  induction entries generalizing extra with
  | nil =>
    cases h
    exact fun f hf => absurd hf List.not_mem_nil
  | cons e rest ih =>
    have hrest : ∀ {others}, extraEntries used rest = .ok others →
        ∀ f ∈ others, f.1 ∉ used ∧ Value.entryOf f ∈ e :: rest :=
      fun hothers f hf => ⟨(ih hothers f hf).1, List.mem_cons_of_mem e (ih hothers f hf).2⟩
    unfold extraEntries at h
    split at h
    · next heq => cases heq
    · next heq =>
      cases heq
      split at h
      · exact hrest h
      · next hused =>
        obtain ⟨others, hothers, rfl⟩ := Except.map_eq_ok.1 h
        exact List.forall_mem_cons.2 ⟨⟨by simpa using hused, List.mem_cons_self⟩, hrest hothers⟩
    · next heq =>
      cases heq
      obtain ⟨_, _, hkey, -, -⟩ := Checked.and_eq_ok.1 h
      cases hkey

/-- The names that are looked for first are read where they are there. -/
theorem mem_used {f : String × Value} {entries : List (Scalar × Value)} (hown : f.1 ∈ ownNames)
    (hf : Value.entryOf f ∈ entries) : f.1 ∈ metadataFields.filterMap fun names => (find? names entries).map Prod.fst := by
  have hfirst : ∃ names, f.1 :: names ∈ metadataFields := by
    simp only [ownNames, List.mem_cons, List.not_mem_nil, or_false] at hown
    rcases hown with h | h | h | h | h <;> simp [h, metadataFields]
  obtain ⟨names, hnames⟩ := hfirst
  have hfound : (Value.lookup entries f.1).isSome := by
    rw [Value.lookup, Option.isSome_map, List.find?_isSome]
    exact ⟨_, hf, by simp [Value.entryOf]⟩
  obtain ⟨v, hv⟩ := Option.isSome_iff_exists.1 hfound
  refine List.mem_filterMap.2 ⟨f.1 :: names, hnames, ?_⟩
  rw [find?_cons, hv]
  rfl

/-- Metadata are read back if their extra fields have none of the names that metadata use themselves. -/
theorem metadata_write {m : Metadata} (h : ∀ f ∈ m.extra, f.1 ∉ ownNames) : metadata refusal (m.write {}) = .ok m := by
  let fields : List (String × Value) := [("jurisdiction", .text m.jurisdiction), ("framework", .text m.framework),
    ("effectiveDate", optionalText m.effectiveDate), ("expiresDate", optionalText m.expiresDate), ("tags", texts m.tags)]
  let entries := (fields ++ m.extra).map Value.entryOf
  have hfind : ∀ {name : String} {names : FieldNames} {v : Value}, (fields ++ m.extra).lookup name = some v →
      find? (name :: names) entries = some (name, v) := by
    intro name names v hv
    rw [find?_cons, Value.lookup_entries, hv]
    rfl
  have hjurisdiction : find? ["jurisdiction"] entries = some ("jurisdiction", .text m.jurisdiction) := hfind rfl
  have hframework : find? ["framework"] entries = some ("framework", .text m.framework) :=
    hfind (by simp [fields, List.lookup_cons])
  have heffective :
      find? ["effectiveDate", "effective_date"] entries = some ("effectiveDate", optionalText m.effectiveDate) :=
    hfind (by simp [fields, List.lookup_cons])
  have hexpires : find? ["expiresDate", "expires_date"] entries = some ("expiresDate", optionalText m.expiresDate) :=
    hfind (by simp [fields, List.lookup_cons])
  have htags : find? ["tags"] entries = some ("tags", texts m.tags) := hfind (by simp [fields, List.lookup_cons])
  have hused : (metadataFields.filterMap fun names => (find? names entries).map Prod.fst) = ownNames := by
    simp only [metadataFields, List.filterMap_cons, List.filterMap_nil, hjurisdiction, hframework, heffective, hexpires, htags,
      Option.map_some, ownNames]
  have hextra : extraEntries ownNames entries = .ok m.extra := by
    have hfields : (fields.filter fun f => !ownNames.contains f.1) = [] := by simp [fields, ownNames]
    have hothers : (m.extra.filter fun f => !ownNames.contains f.1) = m.extra :=
      List.filter_eq_self.2 fun f hf => by simpa using h f hf
    rw [extraEntries_entries, List.filter_append, hfields, hothers, List.nil_append]
  have hread : metadata refusal (.mapping entries) = .ok m := by
    simp only [metadata, record, hused, hextra, Holds.text (Or.inl ⟨_, hjurisdiction⟩),
      Holds.text (Or.inl ⟨_, hframework⟩), Holds.optionalText (Or.inl ⟨_, heffective⟩),
      Holds.optionalText (Or.inl ⟨_, hexpires⟩), Holds.texts (Or.inl ⟨_, htags⟩), Except.map_ok, Checked.and_ok]
  exact hread

/-- No extra field of metadata that were read has a name that metadata use themselves. -/
theorem not_mem_ownNames_of_metadata {v : Value} {m : Metadata} (h : metadata refusal v = .ok m) :
    ∀ f ∈ m.extra, f.1 ∉ ownNames := by
  obtain ⟨entries, hread⟩ := exists_of_record h
  obtain ⟨_, extra, htags, hextra, rfl⟩ := Checked.and_eq_ok.1 hread
  obtain ⟨_, _, hexpires, -, rfl⟩ := Checked.and_eq_ok.1 htags
  obtain ⟨_, _, heffective, -, rfl⟩ := Checked.and_eq_ok.1 hexpires
  obtain ⟨_, _, hframework, -, rfl⟩ := Checked.and_eq_ok.1 heffective
  obtain ⟨_, _, hjurisdiction, -, rfl⟩ := Checked.and_eq_ok.1 hframework
  obtain ⟨_, -, rfl⟩ := Except.map_eq_ok.1 hjurisdiction
  intro f hf hown
  obtain ⟨hused, hmem⟩ := of_mem_extraEntries hextra f hf
  exact hused (mem_used hown hmem)

/-- A rule whose further metadata do not go by the names of fields is read as it is written. -/
theorem rule_write {r : Rule} (h : ∀ f ∈ r.metadata.extra, f.1 ∉ ownNames) : rule refusal (r.write {}) = .ok r := by
  refine record_fields (Or.inr (by simp)) fun entries hf => ?_
  have hid : Holds entries ["id"] (.text r.id) := hf.one rfl
  have hversion : Holds entries ["version"] (.text r.version) := hf.one (by simp [List.lookup_cons])
  have hname : Holds entries ["name"] (.text r.name) := hf.one (by simp [List.lookup_cons])
  have hdescription : Holds entries ["description"] (optionalText r.description) := hf.one (by simp [List.lookup_cons])
  have hmetadata : Holds entries ["metadata"] (r.metadata.write {}) := hf.one (by simp [List.lookup_cons])
  have htree : Holds entries ["tree"] (r.tree.write {}) := hf.one (by simp [List.lookup_cons])
  simp only [hid.text, hversion.optional (rfl : text (.text r.version) = .ok r.version) (by simp), hname.text,
    hdescription.optionalText, hmetadata.required (Value.record_ne_null _) (metadata_write h),
    htree.required (write_ne_null r.tree) (node_write [] r.tree), Except.map_ok, Checked.and_ok]

end Format

open Format

/-- A value that is a tree is that tree when it is written in any style, and a value that is a rule is that rule when it is
written in camel case. -/
theorem ofValue_write :
    (∀ v n, Node.ofValue v = .ok n → ∀ style, Node.ofValue (n.write style) = .ok n) ∧
      ∀ v r, Rule.ofValue v = .ok r → Rule.ofValue (r.write {}) = .ok r := by
  refine ⟨fun _ n _ style => node_write [] n, fun v r h => rule_write ?_⟩
  obtain ⟨w, hw⟩ := exists_of_rule h
  exact not_mem_ownNames_of_metadata hw

namespace Draft

/-- A leaf with underscores in its keys. -/
def leafFields (id : String) (status : Status) : List (String × Value) :=
  [("type", .text "leaf"), ("node_id", .text id), ("decision", .text id), ("status", .text status.name)]

/-- A condition with an unknown field, on a value that is no number. -/
def treeFields : List (String × Value) :=
  [("type", .text "condition"), ("node_id", .text "licensed"), ("colour", .text "blue"),
    ("condition", .record [("fact", .text "licence"), ("op", .text "in"), ("value", .list [.double .nan, .null])]),
    ("children", .record [("true", .record (leafFields "trade" .compliant)), ("false", .record (leafFields "stop" .blocked))])]

/-- A rule with a further entry in its metadata. -/
def ruleFields : List (String × Value) :=
  [("id", .text "licence"), ("name", .text "Licence"),
    ("metadata", .record [("jurisdiction", .text "EU"), ("framework", .text "MiCA"), ("effective_date", .text "2024-06-30"),
      ("authority", .text "national")]),
    ("tree", .record treeFields)]

/-- The tree of the draft. -/
def tree : Node :=
  .condition (Licence.header "licensed") ⟨"licence", "in", .list [.double .nan, .null]⟩ none
    (.leaf (Licence.leaf "trade" .compliant)) (.leaf (Licence.leaf "stop" .blocked))

/-- The rule of the draft. -/
def rule : Rule :=
  ⟨"licence", "1.0", "Licence", none,
    ⟨"EU", "MiCA", some "2024-06-30", none, [], [("authority", .text "national")]⟩, tree⟩

/-- A leaf is read from its fields. -/
theorem node_leafFields (around : List NodeKind) (id : String) (status : Status) :
    node .named around (.record (leafFields id status)) = .ok (.leaf (Licence.leaf id status)) := by
  refine node_mapping .leaf rfl ?_
  rw [nodeOfKind]
  cases status <;> rfl

theorem ofValue_treeFields : Node.ofValue (.record treeFields) = .ok tree := by
  have hbranches : branches .named [.condition]
      (({} : Style).fields [("true", .record (leafFields "trade" .compliant)), ("false", .record (leafFields "stop" .blocked))]) =
        .ok (.leaf (Licence.leaf "trade" .compliant), .leaf (Licence.leaf "stop" .blocked)) :=
    branches_fields (Value.record_ne_null _) (Value.record_ne_null _) (node_leafFields _ "trade" .compliant)
      (node_leafFields _ "stop" .blocked)
  exact node_mapping .condition rfl (nodeOfKind_condition rfl rfl (Or.inl ⟨_, rfl⟩) (Value.record_ne_null _) hbranches rfl)

theorem ofValue_ruleFields : Rule.ofValue (.record ruleFields) = .ok rule := by
  have htree : ∀ whole, required ["tree"] (node .named []) whole (ruleFields.map Value.entryOf) = .ok tree :=
    fun whole => Holds.required (Or.inl ⟨_, rfl⟩) (Value.record_ne_null _) ofValue_treeFields
  have hread : Format.rule .named (.mapping (ruleFields.map Value.entryOf)) = .ok rule := by
    simp only [Format.rule, record, htree]
    rfl
  exact hread

end Draft

/-- The draft is a tree and a rule, and it stays so however it is written. -/
theorem ofValue_write_draft :
    Node.ofValue (.record Draft.treeFields) = .ok Draft.tree ∧ Rule.ofValue (.record Draft.ruleFields) = .ok Draft.rule ∧
      (∀ style, Node.ofValue (Draft.tree.write style) = .ok Draft.tree) ∧
        Rule.ofValue (Draft.rule.write {}) = .ok Draft.rule :=
  ⟨Draft.ofValue_treeFields, Draft.ofValue_ruleFields, ofValue_write.1 _ _ Draft.ofValue_treeFields,
    ofValue_write.2 _ _ Draft.ofValue_ruleFields⟩

end RegulatoryTrees
