import RegulatoryTrees.Proofs.Format.RoundTrip
import RegulatoryTrees.Proofs.Outcome
import RegulatoryTrees.Proofs.Placement
import RegulatoryTrees.Proofs.Value.Equality
import RegulatoryTrees.Registry

/-!
# What loading does to the registry

A registry is a list of rules with distinct identifiers. Adding rules keeps the identifiers where they are, puts the new ones
after them, and answers under each identifier the last rule that has it (`IsUpdate`). Loading a file adds the rules that its
items hold up to the first that holds none, whether or not the file is refused for it (`loadFile_isUpdate`).
-/

namespace RegulatoryTrees

namespace RuleFile

/-! ## The items of a file -/

/-- Rules stand before a fault: the file holds no value, and there are none, or its items are rules up to one that is none. -/
def RulesBefore (f : RuleFile) (cause : Failure) (rs : List Rule) : Prop :=
  (f.content = .error cause ∧ rs = []) ∨
    ∃ v before bad after, f.content = .ok v ∧ items v = before ++ bad :: after ∧ before.mapM ruleOf = .ok rs ∧
      ruleOf bad = .error cause

/-- What a file holds whose name says that it is JSON. -/
theorem content_json {f : RuleFile} {v : Value} (hsuffix : suffix f.name = ".json")
    (hlines : Text.newlinesOnly f.text.toList = f.text.toList)
    (hparse : (Json.parse (some Decimal.digitLimit) f.text).toOption.any (Value.isSame · v) = true) : f.content = .ok v := by
  cases hv : Json.parse (some Decimal.digitLimit) f.text with
  | ok w =>
    rw [hv] at hparse
    have hsame : w = v := (Value.isSame_iff w v).1 hparse
    simp only [content, hsuffix, if_true, hlines, String.ofList_toList, hv, hsame]
  | error e =>
    rw [hv] at hparse
    exact absurd hparse Bool.false_ne_true

/-- Items that are all rules are read to the end. -/
theorem readItems_of_mapM {vs : List Value} {rs : List Rule} (h : vs.mapM ruleOf = .ok rs) : readItems vs = ⟨rs, none⟩ := by
  induction vs generalizing rs with
  | nil =>
    cases h
    rfl
  | cons v vs ih =>
    rw [List.mapM_cons] at h
    obtain ⟨r, hr, h⟩ := Except.bind_eq_ok.1 h
    obtain ⟨rest, hrest, h⟩ := Except.bind_eq_ok.1 h
    cases h
    simp only [readItems, hr, ih hrest]

/-- Items are read up to the first that is no rule, whatever comes after it. -/
theorem readItems_of_fault {before : List Value} {bad : Value} {rs : List Rule} {cause : Failure}
    (h : before.mapM ruleOf = .ok rs) (hbad : ruleOf bad = .error cause) (after : List Value) :
    readItems (before ++ bad :: after) = ⟨rs, some cause⟩ := by
  induction before generalizing rs with
  | nil =>
    cases h
    rw [List.nil_append, readItems, hbad]
    rfl
  | cons v vs ih =>
    rw [List.mapM_cons] at h
    obtain ⟨r, hr, h⟩ := Except.bind_eq_ok.1 h
    obtain ⟨rest, hrest, h⟩ := Except.bind_eq_ok.1 h
    cases h
    simp only [List.cons_append, readItems, hr, ih hrest]

/-- Items are all rules, or there is a first that is none. -/
theorem mapM_ruleOf_cases (vs : List Value) :
    (∃ rs, vs.mapM ruleOf = .ok rs) ∨
      ∃ before bad after rs cause, vs = before ++ bad :: after ∧ before.mapM ruleOf = .ok rs ∧
        ruleOf bad = .error cause := by
  induction vs with
  | nil => exact Or.inl ⟨[], rfl⟩
  | cons v vs ih =>
    cases hv : ruleOf v with
    | error cause => exact Or.inr ⟨[], v, vs, [], cause, rfl, rfl, hv⟩
    | ok r =>
      rcases ih with ⟨rs, hrs⟩ | ⟨before, bad, after, rs, cause, rfl, hrs, hbad⟩
      · exact Or.inl ⟨r :: rs, by rw [List.mapM_cons, hv, hrs]; rfl⟩
      · exact Or.inr ⟨v :: before, bad, after, r :: rs, cause, rfl, by rw [List.mapM_cons, hv, hrs]; rfl, hbad⟩

/-- A file with a fault is read up to the fault. -/
theorem RulesBefore.read_eq {f : RuleFile} {cause : Failure} {rs : List Rule} (h : f.RulesBefore cause rs) :
    f.read = ⟨rs, some cause⟩ := by
  rcases h with ⟨hcontent, rfl⟩ | ⟨v, before, bad, after, hcontent, hitems, hrs, hbad⟩
  · simp only [read, hcontent]
  · simp only [read, hcontent, hitems, readItems_of_fault hrs hbad]

/-- A file is read to its end, as the rules that its items are, or up to a fault. -/
theorem read_cases (f : RuleFile) :
    (∃ v rs, f.content = .ok v ∧ (items v).mapM ruleOf = .ok rs ∧ f.read = ⟨rs, none⟩) ∨
      ∃ cause rs, f.RulesBefore cause rs ∧ f.read = ⟨rs, some cause⟩ := by
  cases hc : f.content with
  | error cause =>
    have hbefore : f.RulesBefore cause [] := Or.inl ⟨hc, rfl⟩
    exact Or.inr ⟨cause, [], hbefore, hbefore.read_eq⟩
  | ok v =>
    rcases mapM_ruleOf_cases (items v) with ⟨rs, hrs⟩ | ⟨before, bad, after, rs, cause, hi, hrs, hbad⟩
    · exact Or.inl ⟨v, rs, rfl, hrs, by simp only [read, hc, readItems_of_mapM hrs]⟩
    · have hbefore : f.RulesBefore cause rs := Or.inr ⟨v, before, bad, after, hc, hi, hrs, hbad⟩
      exact Or.inr ⟨cause, rs, hbefore, hbefore.read_eq⟩

end RuleFile

namespace Registry

open PartialEvaluation (union union_cons union_eq_append union_of_subset nodup_union)

/-! ## Definitions -/

/-- The last of some rules with an identifier. -/
def lastOf (rs : List Rule) (id : String) : Option Rule := rs.reverse.find? (·.id == id)

/-- A registry is another with some rules added in their order: an identifier leads to the last of them with it, or to what it
led to before; the identifiers keep their places, and new ones follow, each at its first rule; and the rules are those that the
identifiers lead to. -/
structure IsUpdate (g : Registry) (rs : List Rule) (g' : Registry) : Prop where
  get? : ∀ id, g'.get? id = (lastOf rs id).or (g.get? id)
  ids : g'.ids = g.ids ++ ((rs.map Rule.id).filter fun id => !g.ids.contains id).eraseDups
  rules : g'.rules = g'.ids.filterMap g'.get?

/-! ## Placing a rule -/

/-- A rule that is added is what its identifier leads to from then on. -/
theorem get?_add (g : Registry) (r : Rule) (id : String) : (g.add r).get? id = if r.id = id then some r else g.get? id := by
  rw [get?, add]
  split
  · next h =>
    subst h
    exact find?_placeBy_self Rule.id r g.rules
  · next h => exact find?_placeBy_other h g.rules

/-- Adding a rule adds its identifier, at the end if it is new. -/
theorem ids_add (g : Registry) (r : Rule) : (g.add r).ids = union g.ids [r.id] := by
  rw [ids, add]
  exact map_placeBy Rule.id r g.rules

/-- Adding a rule keeps the identifiers distinct. -/
theorem nodup_ids_add {g : Registry} (hg : g.ids.Nodup) (r : Rule) : (g.add r).ids.Nodup := by
  rw [ids_add]
  exact nodup_union hg [r.id]

/-! ## Adding rules -/

section AddAll

variable {g : Registry}

theorem addAll_cons (g : Registry) (r : Rule) (rs : List Rule) : g.addAll (r :: rs) = (g.add r).addAll rs := rfl

/-- Under an identifier stands the last of the rules added with it, or the rule that was there. -/
theorem get?_addAll (g : Registry) (rs : List Rule) (id : String) :
    (g.addAll rs).get? id = (lastOf rs id).or (g.get? id) := by
  induction rs generalizing g with
  | nil => rfl
  | cons r rs ih =>
    rw [addAll_cons, ih, get?_add, lastOf, lastOf, List.reverse_cons, List.find?_append, Option.or_assoc]
    congr 1
    by_cases h : r.id = id <;> simp [h]

/-- The identifiers keep their places, and new ones come after them in the order of the rules. -/
theorem ids_addAll (g : Registry) (rs : List Rule) : (g.addAll rs).ids = union g.ids (rs.map Rule.id) := by
  induction rs generalizing g with
  | nil => rfl
  | cons r rs ih => rw [addAll_cons, ih, ids_add, List.map_cons, ← union_cons]

/-- Adding rules keeps the identifiers distinct. -/
theorem nodup_ids_addAll (hg : g.ids.Nodup) (rs : List Rule) : (g.addAll rs).ids.Nodup := by
  rw [ids_addAll]
  exact nodup_union hg (rs.map Rule.id)

/-- The rules of a registry are those that its identifiers lead to. -/
theorem rules_eq_filterMap (hg : g.ids.Nodup) : g.rules = g.ids.filterMap g.get? := by
  have hfind : ∀ r ∈ g.rules, g.get? r.id = some r := by
    intro r hr
    obtain ⟨before, after, hrules⟩ := List.append_of_mem hr
    have hbefore : ∀ other ∈ before, ¬(other.id == r.id) = true := by
      intro other hother
      rw [ids, hrules, List.map_append, List.map_cons] at hg
      have hne := (List.nodup_append.1 hg).2.2 other.id (List.mem_map_of_mem hother) r.id List.mem_cons_self
      simpa using hne
    rw [get?, hrules, List.find?_append, List.find?_eq_none.2 hbefore, Option.none_or, List.find?_cons_of_pos (by simp)]
  rw [ids, List.filterMap_map]
  exact ((List.filterMap_congr (g := some) hfind).trans List.filterMap_some).symm

/-- Registries with distinct identifiers that answer alike are equal. -/
theorem eq_of_get?_of_ids {g' : Registry} (hg : g.ids.Nodup) (hids : g'.ids = g.ids) (hget : ∀ id, g'.get? id = g.get? id) :
    g' = g := by
  have hrules : g'.rules = g.rules := by
    rw [rules_eq_filterMap hg, rules_eq_filterMap (hids ▸ hg), hids, funext hget]
  cases g
  cases g'
  exact congrArg Registry.mk hrules

/-- Adding rules to a registry with distinct identifiers updates it by them. -/
theorem isUpdate_addAll (hg : g.ids.Nodup) (rs : List Rule) : IsUpdate g rs (g.addAll rs) where
  get? := get?_addAll g rs
  ids := by rw [ids_addAll, union_eq_append]
  rules := rules_eq_filterMap (nodup_ids_addAll hg rs)

/-- An identifier leads to a rule only if it is there. -/
theorem mem_ids_of_get? {id : String} {r : Rule} (h : g.get? id = some r) : id ∈ g.ids := by
  have hid : r.id = id := by simpa using List.find?_some h
  exact hid ▸ List.mem_map_of_mem (List.mem_of_find?_eq_some h)

/-- Of rules with an identifier there is a last one. -/
theorem exists_lastOf {rs : List Rule} {r : Rule} (h : r ∈ rs) : ∃ last, lastOf rs r.id = some last :=
  Option.isSome_iff_exists.1 (List.find?_isSome.2 ⟨r, List.mem_reverse.2 h, by simp⟩)

/-- Adding rules changes nothing if and only if the last of them with each identifier is there already. -/
theorem addAll_eq_self_iff (hg : g.ids.Nodup) (rs : List Rule) :
    g.addAll rs = g ↔ ∀ id r, lastOf rs id = some r → g.get? id = some r := by
  constructor
  · intro h id r hr
    rw [← h, get?_addAll, hr, Option.some_or]
  · intro h
    refine eq_of_get?_of_ids hg ?_ fun id => ?_
    · rw [ids_addAll]
      refine union_of_subset fun id hid => ?_
      obtain ⟨r, hr, rfl⟩ := List.mem_map.1 hid
      obtain ⟨last, hlast⟩ := exists_lastOf hr
      exact mem_ids_of_get? (h r.id last hlast)
    · rw [get?_addAll]
      cases hlast : lastOf rs id with
      | none => rfl
      | some r => exact (h id r hlast).symm

end AddAll

/-! ## Loading -/

section Load

variable {g : Registry}

/-- Rules stand before the failure of a load: before the fault of the file, or none if there is no file. -/
def Failure.After (failure : Failure) (folder : Folder) (name : String) (rs : List Rule) : Prop :=
  ((∀ f, folder.place name ≠ .file f) ∧ rs = []) ∨
    ∃ f cause, folder.place name = .file f ∧ failure = .file f.name (folder.pathOf name) cause ∧ f.RulesBefore cause rs

/-- A load finds no file, or reads one to its end, or up to a fault. -/
theorem loadFile_cases (g : Registry) (folder : Folder) (name : String) :
    (∃ failure, failure.After folder name [] ∧ (g.loadFile folder name).outcome = .error failure ∧
        (g.loadFile folder name).registry = g) ∨
      (∃ f v rs, folder.place name = .file f ∧ f.content = .ok v ∧ (RuleFile.items v).mapM RuleFile.ruleOf = .ok rs ∧
        (g.loadFile folder name).outcome = .ok rs ∧ (g.loadFile folder name).registry = g.addAll rs) ∨
      ∃ failure rs, failure.After folder name rs ∧ (g.loadFile folder name).outcome = .error failure ∧
        (g.loadFile folder name).registry = g.addAll rs := by
  unfold loadFile
  cases hp : folder.place name with
  | file f =>
    rcases f.read_cases with ⟨v, rs, hv, hrs, hread⟩ | ⟨cause, rs, hrs, hread⟩
    · exact Or.inr (Or.inl ⟨f, v, rs, rfl, hv, hrs, by simp only [hread], by simp only [hread]⟩)
    · exact Or.inr (Or.inr ⟨_, rs, Or.inr ⟨f, cause, hp, rfl, hrs⟩, by simp only [hread], by simp only [hread]⟩)
  | within _ | around _ | nothing | nameTooLong =>
    exact Or.inl ⟨_, Or.inl ⟨by simp [hp], rfl⟩, rfl, rfl⟩

/-! ### Registries that come about -/

/-- Loading a file keeps the identifiers distinct. -/
theorem nodup_ids_loadFile (hg : g.ids.Nodup) (folder : Folder) (name : String) :
    (g.loadFile folder name).registry.ids.Nodup := by
  rcases loadFile_cases g folder name with ⟨_, -, -, hr⟩ | ⟨_, _, rs, -, -, -, -, hr⟩ | ⟨_, rs, -, -, hr⟩ <;> rw [hr]
  · exact hg
  · exact nodup_ids_addAll hg rs
  · exact nodup_ids_addAll hg rs

/-- Loading entries one after the other keeps the identifiers distinct, also where the scan ends early. -/
theorem nodup_ids_scan (folder : Folder) (entries : List Folder.Entry) (hg : g.ids.Nodup) (loaded : List Rule) :
    (scan folder g loaded entries).registry.ids.Nodup := by
  induction entries generalizing g loaded with
  | nil => exact hg
  | cons e rest ih =>
    cases e with
    | folder name => exact hg
    | file f =>
      have hadded := nodup_ids_addAll hg f.read.rules
      simp only [scan]
      split
      · exact ih hadded _
      · split
        · exact ih hadded _
        · exact hadded

/-- A registry that has come about by adding rules and by loading them, whether or not all loads went well. -/
inductive Reached : Registry → Prop where
  | empty : Reached {}
  | add {g : Registry} (h : Reached g) (r : Rule) : Reached (g.add r)
  | loadFile {g : Registry} (h : Reached g) (folder : Folder) (name : String) : Reached (g.loadFile folder name).registry
  | loadAll {g : Registry} (h : Reached g) (source : Option RuleSource) : Reached (g.loadAll source).registry

/-- No identifier comes twice in a registry that has come about by loading. -/
theorem Reached.nodup_ids (h : Reached g) : g.ids.Nodup := by
  induction h with
  | empty => exact List.nodup_nil
  | add _ r ih => exact nodup_ids_add ih r
  | loadFile _ folder name ih => exact nodup_ids_loadFile ih folder name
  | @loadAll g _ source ih =>
    rcases source with _ | source
    · exact ih
    · cases source with
      | absent _ => exact ih
      | bundled => exact nodup_ids_addAll ih Bundled.rules
      | folder folder =>
        have hscan := nodup_ids_scan folder folder.ruleEntries ih []
        simp only [Registry.loadAll]
        split
        · exact hscan
        · exact hscan

/-- A file that is loaded is read to its end, and the registry is the one before with its rules added. A load that fails has
added the rules before the failure, and leaves the registry as it is if and only if these are there already. -/
theorem loadFile_isUpdate (g : Registry) (folder : Folder) (name : String) (hg : g.ids.Nodup) :
    (∀ rs, (g.loadFile folder name).outcome = .ok rs →
      (∃ f v, folder.place name = .file f ∧ f.content = .ok v ∧ (RuleFile.items v).mapM RuleFile.ruleOf = .ok rs) ∧
        IsUpdate g rs (g.loadFile folder name).registry) ∧
      ∀ failure, (g.loadFile folder name).outcome = .error failure →
        ∃ rs, failure.After folder name rs ∧ IsUpdate g rs (g.loadFile folder name).registry ∧
          ((g.loadFile folder name).registry = g ↔ ∀ id r, lastOf rs id = some r → g.get? id = some r) := by
  rcases loadFile_cases g folder name with ⟨failure, hfailure, ho, hr⟩ | ⟨f, v, rs, hp, hv, hrs, ho, hr⟩ |
    ⟨failure, rs, hfailure, ho, hr⟩ <;> rw [ho, hr]
  · constructor
    · intro rs h
      cases h
    · intro _ h
      cases h
      exact ⟨[], hfailure, isUpdate_addAll hg [], addAll_eq_self_iff hg []⟩
  · constructor
    · intro _ h
      cases h
      exact ⟨⟨f, v, hp, hv, hrs⟩, isUpdate_addAll hg rs⟩
    · intro failure h
      cases h
  · constructor
    · intro rs h
      cases h
    · intro _ h
      cases h
      exact ⟨rs, hfailure, isUpdate_addAll hg rs, addAll_eq_self_iff hg rs⟩

end Load

end Registry

/-! ## A file with a rule and a number -/

namespace Shelf

open Format (Checked node node_mapping nodeOfKind)

/-- A file of two items, of which the second is no rule. -/
def file : RuleFile where
  name := "rules.json"
  text := "[\x7b\"id\":\"a\",\"name\":\"A\",\"metadata\":\x7b\"jurisdiction\":\"EU\",\"framework\":\"F\"\x7d," ++
    "\"tree\":\x7b\"type\":\"router\",\"nodeId\":\"n\"\x7d\x7d,5]"

/-- The folder with the file. -/
def folder : Folder := ⟨"rules", [file]⟩

/-- The tree of the rule, as the file has it. -/
def treeFields : List (String × Value) := [("type", .text "router"), ("nodeId", .text "n")]

/-- The rule, as the file has it. -/
def ruleFields : List (String × Value) :=
  [("id", .text "a"), ("name", .text "A"), ("metadata", .record [("jurisdiction", .text "EU"), ("framework", .text "F")]),
    ("tree", .record treeFields)]

/-- The rule of the file. -/
def rule : Rule := ⟨"a", "1.0", "A", none, ⟨"EU", "F", none, none, [], []⟩, .router ⟨"n", none, none, [], none⟩ []⟩

/-- The fields of the rule with an identifier of its own. -/
def fieldsWith (id : String) : List (String × Value) := ("id", .text id) :: ruleFields.tail

/-- The rule with an identifier of its own. -/
def ruleWith (id : String) : Rule := { rule with id }

/-- The file holds a list of a rule and a number. -/
theorem content_file : file.content = .ok (.list [.record ruleFields, .int 5]) :=
  RuleFile.content_json (by decide +kernel) (by decide +kernel) (by decide +kernel)

/-- With another identifier the rule is read as well. -/
theorem ruleOf_fieldsWith (id : String) : RuleFile.ruleOf (.record (fieldsWith id)) = .ok (ruleWith id) := by
  have htree : node .named [] (.record treeFields) = .ok rule.tree := by
    refine node_mapping .router rfl ?_
    rw [nodeOfKind]
    rfl
  have hrequired : ∀ whole, Format.required ["tree"] (node .named []) whole ((fieldsWith id).map Value.entryOf) = .ok rule.tree :=
    fun whole => Format.Holds.required (Or.inl ⟨_, rfl⟩) (Value.record_ne_null _) htree
  have hread : RuleFile.ruleOf (.mapping ((fieldsWith id).map Value.entryOf)) = .ok (ruleWith id) := by
    simp only [RuleFile.ruleOf, Rule.ofValue, Format.rule, Format.record, hrequired]
    rfl
  exact hread

theorem ruleOf_ruleFields : RuleFile.ruleOf (.record ruleFields) = .ok rule := ruleOf_fieldsWith "a"

theorem rulesBefore_file : file.RulesBefore (.notMapping "int") [rule] := by
  refine Or.inr ⟨_, [.record ruleFields], .int 5, [], content_file, rfl, ?_, rfl⟩
  rw [List.mapM_cons, ruleOf_ruleFields]
  rfl

/-- The file is refused and its rule is added, to whatever registry. -/
theorem loadFile_file (g : Registry) :
    (g.loadFile folder "rules.json").outcome = .error (.file "rules.json" "rules/rules.json" (.notMapping "int")) ∧
      (g.loadFile folder "rules.json").registry = g.addAll [rule] := by
  have hplace : folder.place "rules.json" = .file file := rfl
  have hread : file.read = ⟨[rule], some (.notMapping "int")⟩ := rulesBefore_file.read_eq
  unfold Registry.loadFile
  simp only [hplace, hread, and_true]
  rfl

/-- The registry that loading the file leaves. -/
def loaded : Registry := (({} : Registry).loadFile folder "rules.json").registry

/-- Loading the file leaves a registry with its rule. -/
theorem loaded_eq : loaded = ({} : Registry).addAll [rule] := (loadFile_file {}).2

/-- No other rules stand before a failure to load the file. -/
theorem eq_of_after {failure : Registry.Failure} {rs : List Rule} (h : failure.After folder "rules.json" rs) : rs = [rule] := by
  have hplace : folder.place "rules.json" = .file file := rfl
  rcases h with ⟨hno, -⟩ | ⟨f, cause, hf, -, hrs⟩
  · exact absurd hplace (hno file)
  · obtain rfl : file = f := by simpa [hplace] using hf
    exact congrArg RuleFile.Reading.rules (hrs.read_eq.symm.trans rulesBefore_file.read_eq)

end Shelf

namespace Registry

/-- The file is refused, and yet its rule is found in a registry that had none before. -/
theorem loadFile_keeps_rule :
    (∃ failure, (({} : Registry).loadFile Shelf.folder "rules.json").outcome = .error failure) ∧
      ({} : Registry).ids = [] ∧ (({} : Registry).loadFile Shelf.folder "rules.json").registry.ids = ["a"] ∧
        (({} : Registry).loadFile Shelf.folder "rules.json").registry.get? "a" = some Shelf.rule := by
  obtain ⟨houtcome, hregistry⟩ := Shelf.loadFile_file {}
  rw [houtcome, hregistry]
  exact ⟨⟨_, rfl⟩, rfl, rfl, rfl⟩

/-- What is added by loading the file is what stands before its fault, and loading it once more changes nothing. -/
theorem loadFile_isUpdate_shelf :
    ({} : Registry).ids.Nodup ∧
      (∃ failure, (({} : Registry).loadFile Shelf.folder "rules.json").outcome = .error failure ∧
        ∃ rs, failure.After Shelf.folder "rules.json" rs ∧
          IsUpdate {} rs (({} : Registry).loadFile Shelf.folder "rules.json").registry) ∧
      Shelf.loaded.ids.Nodup ∧ (Shelf.loaded.loadFile Shelf.folder "rules.json").registry = Shelf.loaded := by
  have hids : ({} : Registry).ids.Nodup := Reached.empty.nodup_ids
  have hloaded : Shelf.loaded.ids.Nodup := (Reached.empty.loadFile Shelf.folder "rules.json").nodup_ids
  obtain ⟨rs, hafter, hupdate, -⟩ := (loadFile_isUpdate {} Shelf.folder "rules.json" hids).2 _ (Shelf.loadFile_file {}).1
  obtain ⟨again, hagain, -, hsame⟩ :=
    (loadFile_isUpdate Shelf.loaded Shelf.folder "rules.json" hloaded).2 _ (Shelf.loadFile_file Shelf.loaded).1
  refine ⟨hids, ⟨_, (Shelf.loadFile_file {}).1, rs, hafter, hupdate⟩, hloaded, hsame.2 fun id r hr => ?_⟩
  rw [Shelf.eq_of_after hagain] at hr
  rw [Shelf.loaded_eq, get?_addAll, hr, Option.some_or]

end Registry

end RegulatoryTrees
