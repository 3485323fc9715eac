import RegulatoryTrees.Format.Reading
import RegulatoryTrees.Text.Lines
import RegulatoryTrees.Tree.Walk
import RegulatoryTrees.Yaml

/-!
# Rule files

A rule file holds one rule or a list of rules, as JSON if its name says so and as YAML otherwise. The rules before the first
item that is none are read even if the file as a whole is refused.
-/

namespace RegulatoryTrees

/-- A rule file. -/
structure RuleFile where
  name : String
  text : String

namespace RuleFile

/-- Why a file, or an item of it, holds no rule. -/
inductive Failure where
  | notJson (message : String)
  | notYaml
  | notMapping (kind : String)
  | invalid (faults : List Format.Fault)
  /-- A number or date is written that there is not; this is not taken for a fault of the file. -/
  | badJsonNumber (cause : Decimal.NumeralTooLong)
  | badYamlScalar (cause : Yaml.Failure)

/-- A scan of a folder skips a file with such a failure; other failures end the scan. -/
def Failure.isSkipped : Failure → Bool
  | .badJsonNumber _ | .badYamlScalar _ => false
  | _ => true

/-- A failure in words. -/
def Failure.message : Failure → String
  | .notJson message => message
  | .notYaml => "not a document of plain data"
  | .notMapping kind => "expected a mapping, got " ++ kind
  | .invalid faults => Decimal.ofNat faults.length ++ " validation error(s)"
  | .badJsonNumber cause => cause.message
  | .badYamlScalar cause => cause.message

/-- The part of a name from its last point on, unless the point is its first or last character. -/
def suffix (name : String) : String :=
  let cs := name.toList
  let ending := (cs.reverse.takeWhile (· != '.')).reverse
  if ending.isEmpty || cs.length ≤ ending.length + 1 then "" else String.ofList ('.' :: ending)

/-- The ends of names that tell rule files. -/
def suffixes : List String := [".yaml", ".yml", ".json"]

/-- A name says that a file is a rule file. -/
def isRuleName (name : String) : Bool := suffixes.contains (suffix name)

/-- The value that a file holds. -/
def content (f : RuleFile) : Except Failure Value :=
  let text := Text.newlinesOnly f.text.toList
  if suffix f.name = ".json" then
    match Json.parse (some Decimal.digitLimit) (String.ofList text) with
    | .ok v => .ok v
    | .error fault =>
      match fault.complaint with
      | .integerTooLong digits => .error (.badJsonNumber ⟨digits⟩)
      | _ => .error (.notJson (fault.message text))
  else
    match Yaml.read (String.ofList text) with
    | .ok v => .ok v
    | .error .malformed => .error .notYaml
    | .error cause => .error (.badYamlScalar cause)

/-- The items of a file: those of a list, or the one value. -/
def items : Value → List Value
  | .sequence .list vs => vs
  | v => [v]

/-- The rule that an item is. -/
def ruleOf (v : Value) : Except Failure Rule :=
  match v with
  | .mapping _ => (Rule.ofValue v).mapError .invalid
  | _ => .error (.notMapping v.kindName)

/-- The rules of a file, up to the first item that is none, and why that is none. -/
structure Reading where
  rules : List Rule
  failure : Option Failure

/-- The rules of items, up to the first that is none. -/
def readItems : List Value → Reading
  | [] => ⟨[], none⟩
  | v :: rest =>
    match ruleOf v with
    | .ok r =>
      let further := readItems rest
      ⟨r :: further.rules, further.failure⟩
    | .error failure => ⟨[], some failure⟩

/-- Read a file. -/
def read (f : RuleFile) : Reading :=
  match f.content with
  | .ok v => readItems (items v)
  | .error failure => ⟨[], some failure⟩

end RuleFile

/-- The warnings about the operators of a rule that are unknown. -/
def Rule.notices (r : Rule) : List Notice :=
  r.tree.walk.filterMap fun n =>
    match n with
    | .condition header c _ _ _ =>
      if c.operator?.isSome then none
      else some ⟨.warning, "compliance_engine.rules.loader",
        "Rule " ++ r.id ++ " node " ++ header.id ++ " uses unknown operator " ++ Text.quoted c.op⟩
    | _ => none

end RegulatoryTrees
