import RegulatoryTrees.EnvironmentFile
import RegulatoryTrees.Format
import RegulatoryTrees.Layout
import RegulatoryTrees.RuleSource
import RegulatoryTrees.Text.Case

/-!
# Settings

Settings are read from the environment and from an environment file, which yields to it. The case of names does not count. The
environment may hold other names, the file may not.
-/

namespace RegulatoryTrees

/-- What can be set. -/
structure Settings where
  appName : String
  debug : Bool
  logLevel : String
  cacheEnabled : Bool
  rulesPath : String
  layout : LayoutConfig Double

namespace Settings

/-- The names of the settings in the environment, in the order in which they are read. -/
def names : List String :=
  ["app_name", "debug", "log_level", "evaluation_cache_enabled", "rules_dir", "layout_node_width", "layout_node_height",
    "layout_horizontal_spacing", "layout_vertical_spacing", "layout_padding"]

/-- The double that a text stands for. Blanks around it do not count; single underscores may stand between its characters. -/
def doubleOfText? (s : String) : Option Double :=
  match Decimal.doubleOf? (Format.trim s.toList) with
  | some d => some d
  | none => (Format.withoutUnderscores? s.toList).bind Decimal.doubleOf?

/-- A size, given as a text. -/
def size (v : Value) : Format.Checked Double :=
  match v with
  | .text s =>
    match doubleOfText? s with
    | some d => .ok d
    | none => .fault .notNumberText v
  | _ => .fault .notNumberText v

/-- A whole number as a size. -/
def wholeSize (n : Nat) : Double := .ofUnits false (n * unitsInOne) 1

/-- The sizes of a layout, read from the entries for settings. -/
def readLayout (entries : List (Scalar × Value)) : Format.Checked (LayoutConfig Double) :=
  Format.Checked.and (Format.Checked.and (Format.Checked.and (Format.Checked.and
    (LayoutConfig.mk <$> Format.optional ["layout_node_width"] size (wholeSize 200) entries)
    (Format.optional ["layout_node_height"] size (wholeSize 80) entries))
    (Format.optional ["layout_horizontal_spacing"] size (wholeSize 40) entries))
    (Format.optional ["layout_vertical_spacing"] size (wholeSize 60) entries))
    (Format.optional ["layout_padding"] size (wholeSize 20) entries)

/-- Settings, read from the entries for them. -/
def ofEntries (entries : List (Scalar × Value)) : Format.Checked Settings :=
  Format.Checked.and (Format.Checked.and (Format.Checked.and (Format.Checked.and (Format.Checked.and
    (Settings.mk <$> Format.optional ["app_name"] Format.text "Compliance Rule Engine" entries)
    (Format.optional ["debug"] Format.truthValue false entries))
    (Format.optional ["log_level"] Format.text "INFO" entries))
    (Format.optional ["evaluation_cache_enabled"] Format.truthValue true entries))
    (Format.optional ["rules_dir"] Format.text RuleSource.bundledPath entries))
    (readLayout entries)

/-- Bindings under their names in lowercase; of names that become the same the last one counts. -/
def withLowercaseNames {α : Type} (bindings : Bindings α) : Bindings α :=
  bindings.foldl (fun done (name, value) => Bindings.assign (Text.lowercase name) value done) []

/-- The faults of the names in a file that are no settings; a name without a text is none. -/
def strangers (file : Bindings (Option String)) : List Format.Fault :=
  file.filterMap fun (name, value) =>
    match value with
    | none => none
    | some text =>
      if text.isEmpty || names.contains name then none else some ⟨[.key name], .unexpected, .text text⟩

/-- Settings from an environment and the text of an environment file, if there is one. -/
def read (environment : Bindings String) (file : Option String) : Format.Checked Settings :=
  let outer := withLowercaseNames environment
  let inner := withLowercaseNames ((file.map (EnvironmentFile.read environment)).getD [])
  let entries := (outer ++ inner.filterMap fun (name, value) => value.map (name, ·)).map fun (name, text) =>
    (Scalar.text name, Value.text text)
  Format.Checked.and ((fun settings _ => settings) <$> ofEntries entries)
    (match strangers inner with
    | [] => .ok ()
    | faults => .error faults)

/-- The sizes of a layout as quantities. -/
def drawing (s : Settings) : LayoutConfig Quantity :=
  ⟨.real s.layout.nodeWidth, .real s.layout.nodeHeight, .real s.layout.horizontalSpacing, .real s.layout.verticalSpacing,
    .real s.layout.padding⟩

/-- Settings as a record. -/
def write (s : Settings) : Value := .record [
  ("app_name", .text s.appName),
  ("debug", .bool s.debug),
  ("log_level", .text s.logLevel),
  ("evaluation_cache_enabled", .bool s.cacheEnabled),
  ("rules_dir", .text s.rulesPath),
  ("layout_node_width", .double s.layout.nodeWidth),
  ("layout_node_height", .double s.layout.nodeHeight),
  ("layout_horizontal_spacing", .double s.layout.horizontalSpacing),
  ("layout_vertical_spacing", .double s.layout.verticalSpacing),
  ("layout_padding", .double s.layout.padding)]

end Settings

end RegulatoryTrees
