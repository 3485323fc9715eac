import RegulatoryTrees.Proofs.Registry.Scan

/-!
# How far a scan comes

A scan reads the entries of a folder up to the first one that ends it (`Folder.reached`), or all of them if none does. The rules in
the files that it has read are added to the registry, whether or not it comes to its end (`loadAll_folder_registry`), and its
notices are those about these files, one file after the other (`loadAll_folder_notices`).
-/

namespace RegulatoryTrees

namespace Folder

/-! ## What there is in an entry -/

namespace Entry

/-- The rules in an entry: those of a file up to its first item that is none. -/
def rules : Entry → List Rule
  | .folder _ => []
  | .file f => f.read.rules

/-- What a scan has to say about an entry: the warnings about the rules of a file, and that the file is skipped if it is. -/
def notices : Entry → List Notice
  | .folder _ => []
  | .file f => f.read.rules.flatMap Rule.notices ++
      ((f.read.failure.filter (·.isSkipped)).map fun cause =>
        Registry.notice .warning ("Skipping " ++ f.name ++ ": " ++ cause.message)).toList

/-- An entry that ends a scan holds no rules. -/
theorem rules_of_fault {folder : Folder} {e : Entry} {failure : Registry.Failure} (h : e.fault? folder = some failure) :
    e.rules = [] := by
  cases e with
  | folder name => rfl
  | file f =>
    obtain ⟨cause, hmisstates, -⟩ := Registry.fault?_file.1 h
    have hbefore : f.RulesBefore cause [] := Or.inl ⟨hmisstates.1, rfl⟩
    rw [rules, hbefore.read_eq]

end Entry

/-- The entries of a folder that a scan reads: those before the first one that ends it. -/
def reached (folder : Folder) : List Entry := folder.ruleEntries.takeWhile fun e => (e.fault? folder).isNone

/-- The rules that a scan reads. -/
def rulesReached (folder : Folder) : List Rule := folder.reached.flatMap Entry.rules

end Folder

namespace Registry

/-! ## What a scan leaves behind -/

theorem addAll_append (g : Registry) (rs rs' : List Rule) : g.addAll (rs ++ rs') = (g.addAll rs).addAll rs' := by
  rw [addAll, addAll, addAll, List.foldl_append]

section Scan

variable {folder : Folder} {e : Folder.Entry}

/-- An entry that ends a scan changes nothing and says nothing. -/
theorem scan_of_fault {failure : Failure} (h : e.fault? folder = some failure) (g : Registry) (loaded : List Rule)
    (rest : List Folder.Entry) :
    (scan folder g loaded (e :: rest)).registry = g ∧ (scan folder g loaded (e :: rest)).notices = [] := by
  have hrules := Folder.Entry.rules_of_fault h
  cases e with
  | folder name => exact ⟨rfl, rfl⟩
  | file f =>
    obtain ⟨cause, hmisstates, -⟩ := fault?_file.1 h
    obtain ⟨hfailure, hskipped⟩ := RuleFile.misstates_iff.1 hmisstates
    rw [Folder.Entry.rules] at hrules
    simp [scan, hfailure, hskipped, hrules, addAll]

/-- Past any other entry a scan goes on with the rules of the entry added, and with what there is to say about it. -/
theorem scan_of_clear (h : e.fault? folder = none) (g : Registry) (loaded : List Rule) (rest : List Folder.Entry) :
    ∃ loaded', (scan folder g loaded (e :: rest)).registry = (scan folder (g.addAll e.rules) loaded' rest).registry ∧
      (scan folder g loaded (e :: rest)).notices = e.notices ++ (scan folder (g.addAll e.rules) loaded' rest).notices := by
  cases e with
  | folder name => exact nomatch h
  | file f =>
    cases hfailure : f.read.failure with
    | none =>
      refine ⟨loaded ++ f.read.rules, ?_⟩
      simp [scan, hfailure, Folder.Entry.rules, Folder.Entry.notices]
    | some cause =>
      have hskipped : cause.isSkipped = true := by simpa [Folder.Entry.fault?, Option.filter, hfailure] using h
      refine ⟨loaded, ?_⟩
      simp [scan, hfailure, hskipped, Option.filter, Folder.Entry.rules, Folder.Entry.notices]

/-- A scan adds the rules of the entries before the first one that ends it, and speaks about these. -/
theorem scan_reached (folder : Folder) (g : Registry) (loaded : List Rule) (entries : List Folder.Entry) :
    let reached := entries.takeWhile fun e => (e.fault? folder).isNone
    (scan folder g loaded entries).registry = g.addAll (reached.flatMap Folder.Entry.rules) ∧
      (scan folder g loaded entries).notices = reached.flatMap Folder.Entry.notices := by
  intro reached
  induction entries generalizing g loaded with
  | nil => exact ⟨rfl, rfl⟩
  | cons e rest ih =>
    cases hfault : e.fault? folder with
    | some failure =>
      have hreached : reached = [] := List.takeWhile_cons_of_neg (by simp [hfault])
      rw [hreached]
      exact scan_of_fault hfault g loaded rest
    | none =>
      obtain ⟨loaded', hregistry, hnotices⟩ := scan_of_clear hfault g loaded rest
      obtain ⟨hrules, hrest⟩ := ih (g.addAll e.rules) loaded'
      have hreached : reached = e :: rest.takeWhile fun e => (e.fault? folder).isNone :=
        List.takeWhile_cons_of_pos (by simp [hfault])
      rw [hregistry, hnotices, hrules, hrest, hreached, List.flatMap_cons, List.flatMap_cons, addAll_append]
      exact ⟨rfl, rfl⟩

end Scan

/-- Loading a folder leaves the rules that the scan has read, also where it ends early. -/
theorem loadAll_folder_registry (g : Registry) (folder : Folder) :
    (g.loadAll (some (.folder folder))).registry = g.addAll folder.rulesReached := by
  have hscan : (g.loadAll (some (.folder folder))).registry = (scan folder g [] folder.ruleEntries).registry := by
    simp only [loadAll]
    split <;> rfl
  rw [hscan, (scan_reached folder g [] folder.ruleEntries).1, Folder.rulesReached, Folder.reached]

/-- The notices of loading a folder are those about the files that the scan has read and, if it comes to its end, how many rules
there are. -/
theorem loadAll_folder_notices (g : Registry) (folder : Folder) :
    (g.loadAll (some (.folder folder))).notices = folder.reached.flatMap Folder.Entry.notices ++
      match (g.loadAll (some (.folder folder))).outcome with
      | .ok rules => [loadedNotice rules.length folder.path]
      | .error _ => [] := by
  have hnotices := (scan_reached folder g [] folder.ruleEntries).2
  have houtcome : (g.loadAll (some (.folder folder))).outcome = (scan folder g [] folder.ruleEntries).outcome := by
    simp only [loadAll]
    split <;> rfl
  rw [houtcome, Folder.reached, ← hnotices]
  cases hscan : (scan folder g [] folder.ruleEntries).outcome with
  | ok rules => simp only [loadAll, hscan]
  | error failure => simp only [loadAll, hscan, List.append_nil]

/-- A scan of a folder comes to its end unless one of the entries ends it. -/
theorem exists_loadAll_folder_iff (g : Registry) (folder : Folder) :
    (∃ rules, (g.loadAll (some (.folder folder))).outcome = .ok rules) ↔
      ∀ e ∈ folder.ruleEntries, e.fault? folder = none := by
  rw [loadAll_folder_outcome]
  cases hfault : folder.ruleEntries.findSome? (·.fault? folder) with
  | none => simpa using hfault
  | some failure =>
    refine iff_of_false nofun ?_
    intro hnone
    rw [List.findSome?_eq_none_iff.2 hnone] at hfault
    cases hfault

end Registry

end RegulatoryTrees
