import RegulatoryTrees.RuleSource

/-!
# The registry of rules

The rules in use, each under its identifier. A rule with the identifier of an earlier one takes its place.
-/

namespace RegulatoryTrees

/-- The rules in use. -/
structure Registry where
  rules : List Rule := []

namespace Registry

/-- Add a rule, in the place of the one with its identifier or at the end. -/
def add (g : Registry) (r : Rule) : Registry := ⟨placeBy Rule.id r g.rules⟩

/-- Add rules one after the other. -/
def addAll (g : Registry) (rs : List Rule) : Registry := rs.foldl add g

/-- The rule with an identifier. -/
def get? (g : Registry) (id : String) : Option Rule := g.rules.find? (·.id == id)

/-- The identifiers of all rules. -/
def ids (g : Registry) : List String := g.rules.map Rule.id

/-- The rules of a jurisdiction. -/
def ofJurisdiction (g : Registry) (jurisdiction : String) : List Rule :=
  g.rules.filter (·.metadata.jurisdiction == jurisdiction)

/-! ## Loading -/

/-- Why rules cannot be loaded. -/
inductive Failure where
  | fileNotFound (path : String)
  | isFolder (path : String)
  | nameTooLong (path : String)
  | noSource
  | sourceNotFound (path : String)
  | file (name path : String) (cause : RuleFile.Failure)

/-- A failure in words. -/
def Failure.message : Failure → String
  | .fileNotFound path => "Rule file not found: " ++ path
  | .isFolder path => "[Errno 21] Is a directory: " ++ Text.quoted path
  | .nameTooLong path => "[Errno 36] File name too long: " ++ Text.quoted path
  | .noSource => "No rules directory specified"
  | .sourceNotFound path => "Rules directory not found: " ++ path
  | .file _ path cause =>
    if cause.isSkipped then "Failed to load rules from " ++ path ++ ": " ++ cause.message else cause.message

/-- What loading comes to: the rules loaded, or why there are none, the registry after it, and the notices given. Rules read
before a failure are in the registry. -/
structure Loading where
  outcome : Except Failure (List Rule)
  registry : Registry
  notices : List Notice

/-- A notice of the loader. -/
def notice (level : Level) (message : String) : Notice := ⟨level, "compliance_engine.rules.loader", message⟩

/-- Load the file of a name. -/
def loadFile (g : Registry) (folder : Folder) (name : String) : Loading :=
  let path := folder.pathOf name
  match folder.place name with
  | .file f =>
    let reading := f.read
    let outcome := match reading.failure with
      | none => .ok reading.rules
      | some cause => .error (.file f.name path cause)
    ⟨outcome, g.addAll reading.rules, reading.rules.flatMap Rule.notices⟩
  | .within _ | .around _ => ⟨.error (.isFolder path), g, []⟩
  | .nothing => ⟨.error (.fileNotFound path), g, []⟩
  | .nameTooLong => ⟨.error (.nameTooLong path), g, []⟩

/-- Load the entries of a folder one after the other, after some rules. A file that is refused is skipped, unless the failure
ends the scan; a folder ends it too. -/
def scan (folder : Folder) (g : Registry) (loaded : List Rule) : List Folder.Entry → Loading
  | [] => ⟨.ok loaded, g, []⟩
  | .folder name :: _ => ⟨.error (.isFolder (folder.pathOf name)), g, []⟩
  | .file f :: rest =>
    let reading := f.read
    let registry := g.addAll reading.rules
    let seen := reading.rules.flatMap Rule.notices
    match reading.failure with
    | none =>
      let further := scan folder registry (loaded ++ reading.rules) rest
      { further with notices := seen ++ further.notices }
    | some cause =>
      if cause.isSkipped then
        let further := scan folder registry loaded rest
        { further with notices := seen ++ notice .warning ("Skipping " ++ f.name ++ ": " ++ cause.message) :: further.notices }
      else ⟨.error (.file f.name (folder.pathOf f.name) cause), registry, seen⟩

/-- The notice that some rules have been loaded. -/
def loadedNotice (count : Nat) (path : String) : Notice :=
  notice .info ("Loaded " ++ Decimal.ofNat count ++ " rule(s) from " ++ path)

/-- Load all rules of a source. -/
def loadAll (g : Registry) (source : Option RuleSource) : Loading :=
  match source with
  | none => ⟨.error .noSource, g, []⟩
  | some (.absent path) => ⟨.error (.sourceNotFound path), g, []⟩
  | some .bundled =>
    ⟨.ok Bundled.rules, g.addAll Bundled.rules, [loadedNotice Bundled.rules.length RuleSource.bundledPath]⟩
  | some (.folder folder) =>
    let loading := scan folder g [] folder.ruleEntries
    match loading.outcome with
    | .ok rules => { loading with notices := loading.notices ++ [loadedNotice rules.length folder.path] }
    | .error _ => loading

end Registry

end RegulatoryTrees
