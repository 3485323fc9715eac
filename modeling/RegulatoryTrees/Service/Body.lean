import RegulatoryTrees.Conflict
import RegulatoryTrees.Format.Reading
import RegulatoryTrees.Service.Message
import RegulatoryTrees.Text.Encoding

/-!
# What requests ask

The bodies of requests as questions about rules and trees.
-/

namespace RegulatoryTrees

/-- The tree that a question is about: that of a rule, or one that comes with the question. The rule counts if both are there. -/
structure Subject where
  ruleId : Option String
  tree : Option Node

/-- A question about what facts lead to. -/
structure EvaluationQuestion where
  subject : Subject
  facts : Value
  /-- Remembered evaluations may answer it. -/
  useCache : Bool

/-- A question about the drawing of a tree, with the path for facts if there are some. -/
structure LayoutQuestion where
  subject : Subject
  facts : Option Value

/-- A rule with the facts that it is to be evaluated for. -/
structure Case where
  ruleId : String
  facts : Value

/-- A question about conflicts between rules. -/
structure ConflictQuestion where
  cases : List Case
  resolution : Resolution
  includeDecisions : Bool

namespace Format

/-- A mapping of any content. -/
def dictionary (v : Value) : Checked Value :=
  match v with
  | .mapping _ => .ok v
  | _ => .fault .notDictionary v

/-- A list with items. -/
def nonempty {α : Type} (read : Value → Checked α) (v : Value) : Checked (List α) :=
  match list read v with
  | .ok [] => .fault (.tooShort 1 0) v
  | checked => checked

/-- The fields of an object. -/
def object {α : Type} (read : List (Scalar × Value) → Checked α) (v : Value) : Checked α :=
  match v with
  | .mapping entries => read entries
  | _ => .fault .notObject v

/-- What a question is about. -/
def subject (entries : List (Scalar × Value)) : Checked Subject :=
  Checked.and
    (Subject.mk <$> optional ["rule_id"] (nullable text) none entries)
    (optional ["tree"] (nullable (node .anyObject [])) none entries)

/-- A question about what facts lead to. -/
def evaluationQuestion : Value → Checked EvaluationQuestion :=
  object fun entries =>
    Checked.and (Checked.and
      (EvaluationQuestion.mk <$> subject entries)
      (optional ["facts"] dictionary (.mapping []) entries))
      (optional ["use_cache"] truthValue true entries)

/-- A question about the drawing of a tree. -/
def layoutQuestion : Value → Checked LayoutQuestion :=
  object fun entries =>
    Checked.and
      (LayoutQuestion.mk <$> subject entries)
      (optional ["facts"] (nullable dictionary) none entries)

/-- A rule with facts. -/
def case : Value → Checked Case :=
  object fun entries =>
    Checked.and
      (Case.mk <$> required ["rule_id"] text (.mapping entries) entries)
      (optional ["facts"] dictionary (.mapping []) entries)

/-- A question about conflicts. -/
def conflictQuestion : Value → Checked ConflictQuestion :=
  object fun entries =>
    Checked.and (Checked.and
      (ConflictQuestion.mk <$> required ["evaluations"] (nonempty case) (.mapping entries) entries)
      (optional ["strategy"] (oneOf Resolution.all Resolution.name) .cumulative entries))
      (optional ["include_decisions"] truthValue false entries)

end Format

namespace Request

/-- The response to a body that cannot be read at all. -/
def unreadable : Response := .refusal 400 "There was an error parsing the body"

/-- The characters of a body of JSON. A byte order mark before them does not count. -/
def jsonChars? (r : Request) : Option (List Char) :=
  match r.body.toList with
  | '\ufeff' :: rest => some rest
  | _ =>
    let bytes := r.body.toUTF8.toList
    (Encoding.ofStart bytes).decode? bytes

/-- The value that a body holds, if there is a body. A body that is not JSON is a text. -/
def bodyValue (r : Request) : Except Response (Option Value) :=
  if r.body.isEmpty then .ok none
  else if r.isJson then
    match r.jsonChars? with
    | none => .error unreadable
    | some cs =>
      match Json.parseChars (some Decimal.digitLimit) cs with
      | .ok v => .ok (some v)
      | .error fault =>
        match fault.complaint with
        | .integerTooLong _ => .error unreadable
        | complaint =>
          .error (.invalid [⟨[.key "body", .index (fault.place cs).offset], .notJson complaint.wording, .record []⟩])
  else .ok (some (.text r.body))

/-- The question that a body asks. -/
def question {α : Type} (read : Value → Format.Checked α) (r : Request) : Except Response α := do
  let checked : Format.Checked α := match ← r.bodyValue with
    | none => .fault .missing .null
    | some v => read v
  (Format.Checked.under (.key "body") checked).mapError .invalid

end Request

end RegulatoryTrees
