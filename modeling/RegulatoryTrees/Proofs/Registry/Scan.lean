import Mathlib.Data.String.Basic
import RegulatoryTrees.Proofs.Registry
import RegulatoryTrees.Proofs.StableSort

/-!
# A scan and the files in it

A scan takes the entries of a folder in the order of their names, and what it comes to is told entry by entry: the first one
that ends the scan is its failure, and otherwise its rules are those that the entries hold, in their order (`scan_outcome`).
So a file that is added to a folder puts its rules between those of the entries with lesser and with greater names, or, if it
is refused, changes nothing (`loadAll_write`). This is so unless a number or date is written in it that there is not: such a
file is not skipped, and nothing is loaded.
-/

namespace RegulatoryTrees

namespace RuleFile

/-! ## Faults that end a scan -/

/-- A number or date is written in a file that there is not. -/
def Misstates (f : RuleFile) (cause : Failure) : Prop :=
  f.content = .error cause ∧ ((∃ c, cause = .badJsonNumber c) ∨ ∃ c, cause = .badYamlScalar c)

/-- An item that is no rule is a fault that a scan skips. -/
theorem isSkipped_of_ruleOf {v : Value} {cause : Failure} (h : ruleOf v = .error cause) : cause.isSkipped = true := by
  unfold ruleOf at h
  split at h
  · obtain ⟨e, -, rfl⟩ := Except.mapError_eq_error.1 h
    rfl
  · cases h
    rfl

/-- The faults that a scan does not skip are numbers and dates that there are not. -/
theorem misstates_iff {f : RuleFile} {cause : Failure} :
    f.Misstates cause ↔ f.read.failure = some cause ∧ cause.isSkipped = false := by
  constructor
  · rintro ⟨hcontent, hcause⟩
    have hread : f.read = ⟨[], some cause⟩ := RulesBefore.read_eq (.inl ⟨hcontent, rfl⟩)
    rcases hcause with ⟨c, rfl⟩ | ⟨c, rfl⟩ <;> exact ⟨by rw [hread], rfl⟩
  · rintro ⟨hfailure, hskipped⟩
    rcases f.read_cases with ⟨v, rs, -, -, hread⟩ | ⟨cause', rs, hbefore, hread⟩
    · rw [hread] at hfailure
      cases hfailure
    · rw [hread] at hfailure
      obtain rfl : cause' = cause := Option.some.inj hfailure
      rcases hbefore with ⟨hcontent, -⟩ | ⟨v, before, bad, after, -, -, -, hbad⟩
      · cases cause' with
        | badJsonNumber c => exact ⟨hcontent, .inl ⟨c, rfl⟩⟩
        | badYamlScalar c => exact ⟨hcontent, .inr ⟨c, rfl⟩⟩
        | _ => cases hskipped
      · rw [isSkipped_of_ruleOf hbad] at hskipped
        cases hskipped

end RuleFile

namespace Folder

variable {folder : Folder} {f : RuleFile} {name : String}

namespace Entry

/-- Why an entry of a folder ends a scan, if it does. -/
def fault? (folder : Folder) : Entry → Option Registry.Failure
  | .folder name => some (.isFolder (folder.pathOf name))
  | .file f => (f.read.failure.filter (!·.isSkipped)).map (.file f.name (folder.pathOf f.name))

/-- The rules that a scan takes from an entry: those of a file that is not refused. -/
def accepted : Entry → List Rule
  | .folder _ => []
  | .file f => if f.read.failure.isNone then f.read.rules else []

end Entry

/-! ## A file that is added -/

/-- A name without slashes, if it is not empty or a point, has one part. -/
theorem partsOf_eq_singleton (hname : RuleFile.isRuleName name = true) (hflat : '/' ∉ name.toList) :
    partsOf name = [name] := by
  have whole {cs : List Char} (h : '/' ∉ cs) : Text.splitAt '/' cs = [cs] := by
    induction cs with
    | nil => rfl
    | cons c rest ih =>
      rw [List.mem_cons, not_or] at h
      rw [Text.splitAt, ih h.2]
      simp [Ne.symm h.1]
  have not_named {other : List Char} (hother : RuleFile.isRuleName (String.ofList other) = false) : name.toList ≠ other := by
    rintro rfl
    rw [String.ofList_toList, hname] at hother
    cases hother
  have nonempty : name.toList ≠ [] := not_named (by decide +kernel)
  have no_point : name.toList ≠ ['.'] := not_named (by decide +kernel)
  rw [partsOf, whole hflat, List.filter_cons_of_pos (by simp [nonempty, no_point])]
  simp

/-- The folder above is no rule file. -/
theorem ne_of_isRuleName (hname : RuleFile.isRuleName name = true) : name ≠ ".." := by
  rintro rfl
  exact absurd hname (by decide +kernel)

/-- Where the name of a rule file leads to. -/
theorem place_of_isRuleName (hname : RuleFile.isRuleName name = true) (hflat : '/' ∉ name.toList) :
    folder.place name =
      if pathLimit ≤ (folder.pathOf name).utf8ByteSize then .nameTooLong
      else if partLimit < name.utf8ByteSize then .nameTooLong
      else folder.inside [name] := by
  rw [place, partsOf_eq_singleton hname hflat]
  simp only [List.foldl_cons, List.foldl_nil, step, ne_of_isRuleName hname, if_false, List.nil_append]

/-- A scan of a folder with one rule file comes to that file. -/
theorem ruleEntries_singleton (path : String) (hname : RuleFile.isRuleName f.name = true) (hflat : '/' ∉ f.name.toList) :
    (Folder.mk path [f]).ruleEntries = [.file f] := by
  have inner : outermost? f = none := by rw [outermost?, partsOf_eq_singleton hname hflat]
  have hentries : (Folder.mk path [f]).entries = [.file f] := by simp [entries, hflat, inner]
  rw [ruleEntries, hentries, List.filter_cons_of_pos (by exact hname), List.filter_nil, List.mergeSort_singleton]

/-- The entries of a folder that a scan comes to before a name, and those that it comes to after it. -/
def entriesBelow (folder : Folder) (name : String) : List Entry := folder.ruleEntries.filter (·.name < name)

@[inherit_doc entriesBelow]
def entriesAbove (folder : Folder) (name : String) : List Entry := folder.ruleEntries.filter (name < ·.name)

section Added

variable (hname : RuleFile.isRuleName f.name = true) (hflat : '/' ∉ f.name.toList) (hfree : folder.place f.name = .nothing)

include hname hflat hfree

/-- Nothing lies under a name that leads to nothing. -/
theorem not_prefix_of_free : ∀ g ∈ folder.files, [f.name].isPrefixOf (partsOf g.name) = false := by
  rw [place_of_isRuleName hname hflat, inside] at hfree
  intro g hg
  by_contra hprefix
  rw [Bool.not_eq_false] at hprefix
  have hany : (folder.files.any fun g => [f.name].isPrefixOf (partsOf g.name)) = true := List.any_eq_true.2 ⟨g, hg, hprefix⟩
  rw [hany] at hfree
  split at hfree
  · cases hfree
  · split at hfree
    · cases hfree
    · split at hfree <;> cases hfree

/-- No file of the folder has the name of the new one. -/
theorem ne_of_mem_files : ∀ g ∈ folder.files, g.name ≠ f.name := by
  intro g hg heq
  have free := not_prefix_of_free hname hflat hfree g hg
  rw [heq, partsOf_eq_singleton hname hflat] at free
  simp at free

theorem ne_of_mem_entries : ∀ e ∈ folder.entries, e.name ≠ f.name := by
  intro e he
  rcases List.mem_append.1 he with he | he
  · obtain ⟨g, hg, rfl⟩ := List.mem_map.1 he
    exact ne_of_mem_files hname hflat hfree g (List.mem_filter.1 hg).1
  · obtain ⟨outer, houter, rfl⟩ := List.mem_map.1 he
    obtain ⟨g, hg, houtermost⟩ := List.mem_filterMap.1 (List.mem_eraseDups.1 houter)
    have free := not_prefix_of_free hname hflat hfree g hg
    unfold outermost? at houtermost
    split at houtermost
    · next hparts =>
      rintro rfl
      obtain rfl := Option.some.inj houtermost
      rw [hparts] at free
      simp at free
    · cases houtermost

/-- A file whose name leads to nothing is added at the end. -/
theorem files_write : (folder.write [f]).files = folder.files ++ [f] :=
  placeBy_of_forall_ne (ne_of_mem_files hname hflat hfree)

/-- A file that is added is found under its name. -/
theorem place_write : (folder.write [f]).place f.name = .file f := by
  have hfound : (folder.write [f]).inside [f.name] = .file f := by
    have hnone : folder.files.find? (fun g => partsOf g.name == [f.name]) = none := by
      rw [List.find?_eq_none]
      intro g hg heq
      have free := not_prefix_of_free hname hflat hfree g hg
      rw [beq_iff_eq.1 heq] at free
      simp at free
    rw [inside, files_write hname hflat hfree, List.find?_append, hnone, Option.none_or,
      List.find?_cons_of_pos (by simp [partsOf_eq_singleton hname hflat])]
  have hpath : (folder.write [f]).pathOf f.name = folder.pathOf f.name := rfl
  rw [place_of_isRuleName hname hflat] at hfree
  rw [place_of_isRuleName hname hflat, hpath, hfound]
  split at hfree
  · cases hfree
  · next hshort =>
    split at hfree
    · cases hfree
    · next hshort' => rw [if_neg hshort, if_neg hshort']

/-- A scan comes to a file that is added between the entries with lesser and those with greater names. -/
theorem ruleEntries_write :
    folder.ruleEntries = folder.entriesBelow f.name ++ folder.entriesAbove f.name ∧
      (folder.write [f]).ruleEntries = folder.entriesBelow f.name ++ .file f :: folder.entriesAbove f.name := by
  obtain ⟨front, back, hentries, hwritten⟩ : ∃ front back, folder.entries = front ++ back ∧
      (folder.write [f]).entries = front ++ .file f :: back := by
    have inner : outermost? f = none := by rw [outermost?, partsOf_eq_singleton hname hflat]
    refine ⟨_, _, rfl, ?_⟩
    rw [entries, files_write hname hflat hfree]
    simp [hflat, inner]
  have hown : ∀ e ∈ front.filter (fun e => RuleFile.isRuleName e.name) ++ back.filter (fun e => RuleFile.isRuleName e.name),
      e.name ≠ (Entry.file f).name := by
    intro e he
    rw [← List.filter_append, ← hentries] at he
    exact ne_of_mem_entries hname hflat hfree e (List.mem_filter.1 he).1
  have hsorted := StableSort.mergeSort_insert hown
  rw [entriesBelow, entriesAbove, ruleEntries, ruleEntries, hentries, hwritten, List.filter_append, List.filter_append,
    List.filter_cons_of_pos (by exact hname)]
  exact hsorted

end Added

end Folder

namespace Registry

/-! ## What a scan comes to -/

/-- The first entry that ends a scan is its failure; otherwise its rules are those of the entries. -/
theorem scan_outcome (folder : Folder) (g : Registry) (loaded : List Rule) (entries : List Folder.Entry) :
    (scan folder g loaded entries).outcome =
      match entries.findSome? (·.fault? folder) with
      | some failure => .error failure
      | none => .ok (loaded ++ entries.flatMap (·.accepted)) := by
  induction entries generalizing g loaded with
  | nil => simp [scan]
  | cons e rest ih =>
    cases e with
    | folder name => rfl
    | file f =>
      simp only [scan]
      cases hf : f.read.failure with
      | none => simp [ih, Folder.Entry.fault?, Folder.Entry.accepted, hf]
      | some cause => 
        cases hs : cause.isSkipped <;> simp [ih, Folder.Entry.fault?, Folder.Entry.accepted, Option.filter, hf, hs]

/-- Loading a folder fails by the first entry that ends the scan, or else yields the rules of all entries that are accepted. -/
theorem loadAll_folder_outcome (g : Registry) (folder : Folder) :
    (g.loadAll (some (.folder folder))).outcome =
      match folder.ruleEntries.findSome? (·.fault? folder) with
      | some failure => .error failure
      | none => .ok (folder.ruleEntries.flatMap (·.accepted)) := by
  have houtcome : (g.loadAll (some (.folder folder))).outcome = (scan folder g [] folder.ruleEntries).outcome := by
    simp only [loadAll]
    split <;> rfl
  rw [houtcome, scan_outcome, List.nil_append]

/-- A file ends a scan exactly if a number or date is written in it that there is not. -/
theorem fault?_file {folder : Folder} {f : RuleFile} {failure : Failure} :
    (Folder.Entry.file f).fault? folder = some failure ↔
      ∃ cause, f.Misstates cause ∧ failure = .file f.name (folder.pathOf f.name) cause := by
  simp only [Folder.Entry.fault?, Option.map_eq_some_iff, Option.filter_eq_some_iff, RuleFile.misstates_iff,
    Bool.not_eq_true', eq_comm (a := failure)]

/-- The outcome of loading a file that is there. -/
theorem loadFile_outcome {g : Registry} {folder : Folder} {f : RuleFile} {name : String} (h : folder.place name = .file f) :
    (g.loadFile folder name).outcome =
      match f.read.failure with
      | none => .ok f.read.rules
      | some cause => .error (.file f.name (folder.pathOf name) cause) := by
  cases hfailure : f.read.failure <;> simp [loadFile, h, hfailure]

section Added

variable (g : Registry) {folder : Folder} {f : RuleFile} {rules : List Rule} (hname : RuleFile.isRuleName f.name = true)
  (hflat : '/' ∉ f.name.toList) (hfree : folder.place f.name = .nothing)
  (hloads : (g.loadAll (some (.folder folder))).outcome = .ok rules)

include hname hflat hfree hloads

/-- A file that is added to a folder whose rules load ends the scan or puts its rules between those from before. -/
theorem loadAll_write_eq :
    rules = (folder.entriesBelow f.name).flatMap (·.accepted) ++ (folder.entriesAbove f.name).flatMap (·.accepted) ∧
      (g.loadAll (some (.folder (folder.write [f])))).outcome =
        match (Folder.Entry.file f).fault? folder with
        | some failure => .error failure
        | none => .ok ((folder.entriesBelow f.name).flatMap (·.accepted) ++ (Folder.Entry.file f).accepted ++
            (folder.entriesAbove f.name).flatMap (·.accepted)) := by
  obtain ⟨hentries, hwritten⟩ := Folder.ruleEntries_write hname hflat hfree
  rw [loadAll_folder_outcome] at hloads
  split at hloads
  · cases hloads
  · next hclear =>
    refine ⟨by rw [← Except.ok.inj hloads, hentries, List.flatMap_append], ?_⟩
    rw [hentries, List.findSome?_append, Option.or_eq_none_iff] at hclear
    have same_fault : Folder.Entry.fault? (folder.write [f]) = Folder.Entry.fault? folder := by
      funext e
      cases e <;> rfl
    have hfirst : (folder.write [f]).ruleEntries.findSome? (·.fault? folder) = (Folder.Entry.file f).fault? folder := by
      rw [hwritten, List.findSome?_append, hclear.1, Option.none_or, List.findSome?_cons, hclear.2]
      cases (Folder.Entry.file f).fault? folder <;> rfl
    simp only [loadAll_folder_outcome, same_fault, hfirst]
    rw [hwritten, List.flatMap_append, List.flatMap_cons, ← List.append_assoc]

/-- A file is added to a folder whose rules load. Then the rules load again, unless a number or date is written in the file
that there is not; that is then the failure. The rules are those from before, which come from the entries with lesser and those
with greater names, and between them the rules of the file, if loading it gives any, or nothing, if it is refused. -/
theorem loadAll_write (g' : Registry) :
    let loaded := (g.loadAll (some (.folder (folder.write [f])))).outcome
    let before := (folder.entriesBelow f.name).flatMap (·.accepted)
    let after := (folder.entriesAbove f.name).flatMap (·.accepted)
    rules = before ++ after ∧
      ((∃ all, loaded = .ok all) ↔ ∀ cause, ¬f.Misstates cause) ∧
      (∀ cause, f.Misstates cause → loaded = .error (.file f.name (folder.pathOf f.name) cause)) ∧
      ∀ all, loaded = .ok all →
        (∀ rs, (g'.loadFile (folder.write [f]) f.name).outcome = .ok rs → all = before ++ rs ++ after) ∧
          ∀ failure, (g'.loadFile (folder.write [f]) f.name).outcome = .error failure → all = rules := by
  intro loaded before after
  obtain ⟨hrules, hloaded⟩ := loadAll_write_eq g hname hflat hfree hloads
  rw [show (g.loadAll (some (.folder (folder.write [f])))).outcome = loaded from rfl] at hloaded
  refine ⟨hrules, ?_, fun cause hcause => ?_, fun all hall => ?_⟩
  · rw [hloaded]
    cases hfault : (Folder.Entry.file f).fault? folder with
    | none =>
      refine ⟨fun _ cause hcause => ?_, fun _ => ⟨_, rfl⟩⟩
      rw [fault?_file.2 ⟨cause, hcause, rfl⟩] at hfault
      cases hfault
    | some failure =>
      obtain ⟨cause, hcause, -⟩ := fault?_file.1 hfault
      refine ⟨?_, fun h => absurd hcause (h cause)⟩
      rintro ⟨_, h⟩
      cases h
  · rw [hloaded, fault?_file.2 ⟨cause, hcause, rfl⟩]
  · rw [hloaded] at hall
    split at hall
    · cases hall
    · obtain rfl := Except.ok.inj hall
      rw [loadFile_outcome (Folder.place_write hname hflat hfree), hrules]
      cases hfailure : f.read.failure with
      | none =>
        refine ⟨fun rs hrs => ?_, fun failure h => by cases h⟩
        rw [← Except.ok.inj hrs, Folder.Entry.accepted, hfailure]
        rfl
      | some cause =>
        refine ⟨fun rs h => (by cases h), fun failure _ => ?_⟩
        rw [Folder.Entry.accepted, hfailure]
        simp

end Added

end Registry

/-! ## A folder of two rules -/

namespace Shelf

/-- A file with one rule, of an identifier. -/
def single (name id : String) : RuleFile where
  name
  text := "\x7b\"id\":\"" ++ id ++ "\",\"name\":\"A\",\"metadata\":\x7b\"jurisdiction\":\"EU\",\"framework\":\"F\"\x7d," ++
    "\"tree\":\x7b\"type\":\"router\",\"nodeId\":\"n\"\x7d\x7d"

/-- A file that holds the fields of a rule is read to its end. -/
theorem read_of_content {f : RuleFile} {id : String} (h : f.content = .ok (.record (fieldsWith id))) :
    f.read = ⟨[ruleWith id], none⟩ := by
  have hitems : (RuleFile.items (.record (fieldsWith id))).mapM RuleFile.ruleOf = .ok [ruleWith id] := by
    show [Value.record (fieldsWith id)].mapM RuleFile.ruleOf = _
    rw [List.mapM_cons, ruleOf_fieldsWith]
    rfl
  simp only [RuleFile.read, h, RuleFile.readItems_of_mapM hitems]

/-- A file with a rule. -/
def first : RuleFile := single "a.json" "a"

/-- A file with another rule and a greater name. -/
def second : RuleFile := single "b.json" "b"

/-- The first file is read to its end and has the rule a. -/
theorem read_first : first.read = ⟨[ruleWith "a"], none⟩ :=
  read_of_content (RuleFile.content_json (by decide +kernel) (by decide +kernel) (by decide +kernel))

theorem read_second : second.read = ⟨[ruleWith "b"], none⟩ :=
  read_of_content (RuleFile.content_json (by decide +kernel) (by decide +kernel) (by decide +kernel))

/-- A file with a day that there is not. -/
def misdated : RuleFile where
  name := "b.yaml"
  text := "since: 2024-02-30"

/-- A day that no calendar has makes the file unreadable in a way that ends the scan. -/
theorem content_misdated : misdated.content = .error (.badYamlScalar (.calendar .day)) := by
  have hread : (match misdated.content with | .error (.badYamlScalar (.calendar .day)) => true | _ => false) = true := by
    decide +kernel
  generalize misdated.content = content at hread ⊢
  split at hread
  · rfl
  · cases hread

/-- A folder with one file. -/
def folderOf (f : RuleFile) : Folder := ⟨"rules", [f]⟩

/-- A file with a rule loads from a folder of its own. -/
theorem loadAll_folderOf {f : RuleFile} {r : Rule} (hname : RuleFile.isRuleName f.name = true) (hflat : '/' ∉ f.name.toList)
    (hread : f.read = ⟨[r], none⟩) : (({} : Registry).loadAll (some (.folder (folderOf f)))).outcome = .ok [r] := by
  rw [Registry.loadAll_folder_outcome, folderOf, Folder.ruleEntries_singleton "rules" hname hflat]
  simp [Folder.Entry.fault?, Folder.Entry.accepted, hread]

end Shelf

namespace Registry

open RegulatoryTrees.Shelf (first second misdated folderOf ruleWith)

/-- A file with a lesser name puts its rule before the one that was there. -/
theorem loadAll_write_first :
    RuleFile.isRuleName first.name = true ∧ '/' ∉ first.name.toList ∧ (folderOf second).place first.name = .nothing ∧
      (({} : Registry).loadAll (some (.folder (folderOf second)))).outcome = .ok [ruleWith "b"] ∧
      (({} : Registry).loadAll (some (.folder ((folderOf second).write [first])))).outcome =
        .ok [ruleWith "a", ruleWith "b"] := by
  have hname : RuleFile.isRuleName first.name = true := by decide +kernel
  have hflat : '/' ∉ first.name.toList := by decide
  have hfree : (folderOf second).place first.name = .nothing := rfl
  have hloads := Shelf.loadAll_folderOf (f := second) (by decide +kernel) (by decide) Shelf.read_second
  have hentries : (folderOf second).ruleEntries = [.file second] :=
    Folder.ruleEntries_singleton "rules" (by decide +kernel) (by decide)
  have below : (folderOf second).entriesBelow first.name = [] := by
    rw [Folder.entriesBelow, hentries]
    exact List.filter_cons_of_neg (by decide +kernel)
  have above : (folderOf second).entriesAbove first.name = [.file second] := by
    rw [Folder.entriesAbove, hentries]
    exact List.filter_cons_of_pos (by decide +kernel)
  obtain ⟨-, hreturns, -, hall⟩ := loadAll_write {} hname hflat hfree hloads {}
  obtain ⟨all, hloaded⟩ := hreturns.2 fun cause hcause => by
    have hread := (RuleFile.misstates_iff.1 hcause).1
    rw [Shelf.read_first] at hread
    cases hread
  have hfile : (({} : Registry).loadFile ((folderOf second).write [first]) first.name).outcome = .ok [ruleWith "a"] := by
    rw [loadFile_outcome (Folder.place_write hname hflat hfree), Shelf.read_first]
  refine ⟨hname, hflat, hfree, hloads, ?_⟩
  rw [hloaded, (hall all hloaded).1 _ hfile, below, above]
  simp [Folder.Entry.accepted, Shelf.read_second]

/-- Without the file of the day that there is not the rule is loaded, with it none is. -/
theorem loadAll_write_misdated :
    (({} : Registry).loadAll (some (.folder (folderOf first)))).outcome = .ok [ruleWith "a"] ∧
      RuleFile.isRuleName misdated.name = true ∧ (folderOf first).place misdated.name = .nothing ∧
      (({} : Registry).loadAll (some (.folder ((folderOf first).write [misdated])))).outcome =
        .error (.file "b.yaml" "rules/b.yaml" (.badYamlScalar (.calendar .day))) := by
  have hname : RuleFile.isRuleName misdated.name = true := by decide +kernel
  have hfree : (folderOf first).place misdated.name = .nothing := rfl
  have hloads := Shelf.loadAll_folderOf (f := first) (by decide +kernel) (by decide) Shelf.read_first
  have hfault : (Folder.Entry.file misdated).fault? (folderOf first) =
      some (.file "b.yaml" "rules/b.yaml" (.badYamlScalar (.calendar .day))) :=
    fault?_file.2 ⟨_, ⟨Shelf.content_misdated, .inr ⟨_, rfl⟩⟩, rfl⟩
  refine ⟨hloads, hname, hfree, ?_⟩
  rw [(loadAll_write_eq {} hname (by decide) hfree hloads).2, hfault]

end Registry

end RegulatoryTrees
