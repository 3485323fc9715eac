import RegulatoryTrees.Proofs.Service.Handling
import RegulatoryTrees.Service

/-!
# Which requests consult the rules

The rules are loaded when they are first consulted. A part of a handling either consults them, and then they are those in use from
there on and the handling breaks down if they cannot be loaded, or it leaves them alone (`Handling.Consults`). At each endpoint the
request tells which (`consults_answer`); a reload is apart, since it gives up the rules in use (`reload_eq`).
-/

namespace RegulatoryTrees

namespace Service

/-- The rules in use once they have been consulted: those that are there, or else those that loading leaves. -/
def inUse (s : Service) : Registry := s.registry.getD (Registry.loadAll {} s.source).registry

/-- A registry that has been loaded is in use. -/
theorem inUse_of_registry {s : Service} {g : Registry} (h : s.registry = some g) : s.inUse = g := by
  rw [inUse, h, Option.getD_some]

/-- Loading makes the registry in use the one that is loaded. -/
theorem registry_load_eq (s : Service) : s.load.service.registry = some s.inUse := by
  unfold load inUse
  split
  · next g h => rw [h, Option.getD_some]
  · next h => rw [h, Option.getD_none]

/-- Loading does not change where rules come from. -/
theorem source_load (s : Service) : s.load.service.source = s.source := by
  unfold load
  split <;> rfl

/-- Rules that are there need not be loaded. -/
theorem outcome_load_of_registry {s : Service} {g : Registry} (h : s.registry = some g) : s.load.outcome = .ok g := by
  rw [load]
  simp only [h]

end Service

namespace Handling

variable {α β : Type}

/-- A part consults the rules, if the flag is set, or leaves them alone. Where it consults them and they cannot be loaded it ends
with a breakdown. -/
structure Consults (flag : Bool) (h : Handling α) : Prop where
  source : ∀ s, (h s).service.source = s.source
  registry : ∀ s, (h s).service.registry = if flag then some s.inUse else s.registry
  breakdown : flag = true → ∀ s failure, s.load.outcome = .error failure → (h s).result = .error .breakdown

namespace Consults

variable {flag flag' : Bool}

/-- One part after the other, of which the second consults the rules only if the first does. -/
theorem bind_of_imp {first : Handling α} {next : α → Handling β} (hfirst : Consults flag first) (hle : flag' = true → flag = true)
    (hnext : ∀ x, Consults flag' (next x)) : Consults flag (first >>= next) := by
  refine ⟨?_, ?_, ?_⟩
  · intro s
    cases h : (first s).result with
    | error response => rw [bind_of_error h, hfirst.source]
    | ok x => rw [bind_of_ok h, (hnext x).source, hfirst.source]
  · intro s
    cases h : (first s).result with
    | error response => rw [bind_of_error h, hfirst.registry]
    | ok x =>
      rw [bind_of_ok h]
      dsimp only
      rw [(hnext x).registry, ← hfirst.registry]
      cases hflag : flag' with
      | false => rfl
      | true =>
        have hloaded : (first s).service.registry = some s.inUse := by rw [hfirst.registry, hle hflag, if_pos rfl]
        rw [if_pos rfl, Service.inUse_of_registry hloaded, hloaded]
  · intro hflag s failure hfailure
    rw [bind_of_error (hfirst.breakdown hflag s failure hfailure)]

/-- What follows leaves the rules alone. -/
theorem bind {first : Handling α} {next : α → Handling β} (hfirst : Consults flag first) (hnext : ∀ x, Consults false (next x)) :
    Consults flag (first >>= next) :=
  hfirst.bind_of_imp (fun h => absurd h Bool.false_ne_true) hnext

/-- What follows may consult the rules again. -/
theorem again {first : Handling α} {next : α → Handling β} (hfirst : Consults true first) (hnext : ∀ x, Consults flag (next x)) :
    Consults true (first >>= next) :=
  hfirst.bind_of_imp (fun _ => rfl) hnext

/-- What is given is gone on with. -/
theorem orStop_ok {x : α} {next : α → Handling β} (hnext : Consults flag (next x)) :
    Consults flag (Handling.orStop (.ok x) >>= next) := hnext

/-- A part that only asks the cache and always goes on. -/
theorem askCache_bind {question : EvaluationCache → EvaluationCache.Reply α} {next : α → Handling β}
    (hnext : ∀ x, Consults flag (next x)) : Consults flag (Handling.askCache question >>= next) := by
  have hload : ∀ (s : Service) c, ({ s with cache := c } : Service).load.outcome = s.load.outcome := by
    intro s c
    unfold Service.load
    cases s.registry <;> rfl
  refine ⟨fun s => (hnext _).source _, fun s => (hnext _).registry _, ?_⟩
  intro hflag s failure hfailure
  exact (hnext _).breakdown hflag { s with cache := (question s.cache).cache } failure ((hload s _).trans hfailure)

/-- A value consults nothing. -/
theorem pure (x : α) : Consults false (Pure.pure x : Handling α) := ⟨fun _ => rfl, fun _ => rfl, nofun⟩

theorem stop (response : Response) : Consults false (Handling.stop response : Handling α) := ⟨fun _ => rfl, fun _ => rfl, nofun⟩

theorem orStop (r : Except Response α) : Consults false (Handling.orStop r) := ⟨fun _ => rfl, fun _ => rfl, nofun⟩

theorem note (notices : List Notice) : Consults false (Handling.note notices) := ⟨fun _ => rfl, fun _ => rfl, nofun⟩

theorem current : Consults false Handling.current := ⟨fun _ => rfl, fun _ => rfl, nofun⟩

theorem askCache (question : EvaluationCache → EvaluationCache.Reply α) : Consults false (Handling.askCache question) :=
  ⟨fun _ => rfl, fun _ => rfl, nofun⟩

end Consults

/-! ## Rules and trees -/

/-- Obtaining the registry is to consult it. -/
theorem consults_registry : Consults true registry := by
  refine ⟨Service.source_load, Service.registry_load_eq, ?_⟩
  intro _ s failure hfailure
  show s.load.outcome.mapError _ = _
  rw [hfailure]
  rfl

/-- To look for a rule is to consult the registry. -/
theorem consults_ruleOf (id : String) : Consults true (ruleOf id) := by
  refine consults_registry.bind fun g => ?_
  cases g.get? id with
  | none => exact .stop _
  | some r => exact .pure r

/-- The tree of a question is looked up among the rules if it is that of a rule. -/
theorem consults_treeOf (subject : Subject) : Consults subject.ruleId.isSome (treeOf subject) := by
  obtain ⟨ruleId, tree⟩ := subject
  cases ruleId with
  | some id => exact (consults_ruleOf id).bind fun r => .pure (r.tree, some r.id)
  | none =>
    cases tree with
    | some tree => exact .pure (tree, none)
    | none => exact .stop _

/-! ## Evaluations -/

/-- An evaluation asks the cache and does without the rules. -/
theorem consults_evaluation (key : Option String) (tree : Node) (facts : Value) : Consults false (evaluation key tree facts) := by
  cases key with
  | some key => exact (Consults.askCache _).bind fun _ => .orStop _
  | none => exact (Consults.note _).bind fun _ => (Consults.pure _).bind fun _ => .orStop _

theorem consults_evaluate (q : EvaluationQuestion) : Consults q.subject.ruleId.isSome (evaluate q) := by
  refine (consults_treeOf q.subject).bind fun ⟨tree, ruleId⟩ => Consults.current.bind fun s => ?_
  exact (consults_evaluation _ tree q.facts).bind fun e => .pure _

theorem consults_evaluatePartial (q : EvaluationQuestion) : Consults q.subject.ruleId.isSome (evaluatePartial q) := by
  refine (consults_treeOf q.subject).bind fun ⟨tree, ruleId⟩ => (Consults.note _).bind fun _ => ?_
  exact (Consults.orStop _).bind fun e => .pure _

theorem consults_draw (tree : Node) (highlighted : List String) : Consults false (draw tree highlighted) := by
  refine Consults.current.bind fun s => ?_
  dsimp only
  split
  · exact .pure _
  · exact .pure _

theorem consults_layout (q : LayoutQuestion) : Consults q.subject.ruleId.isSome (layout q) := by
  refine (consults_treeOf q.subject).bind fun found => ?_
  obtain ⟨tree, ruleId⟩ := found
  dsimp only
  split
  · next facts _ =>
    exact ((consults_evaluation none tree facts).bind fun e => .pure _).bind (consults_draw tree)
  · exact (Consults.pure _).bind (consults_draw tree)

/-! ## Rules -/

theorem consults_listRules (target : Target) : Consults true (listRules target) := consults_registry.bind fun _ => .pure _

theorem consults_rule (id : String) : Consults true (rule id) := (consults_ruleOf id).bind fun _ => .pure _

/-- The graph of a rule is not looked for if it is asked for in a form that there is not. -/
theorem consults_ruleGraph (id : String) (target : Target) :
    Consults (["dot", "mermaid"].contains ((target.parameter? "format").getD "dot")) (ruleGraph id target) := by
  unfold ruleGraph
  dsimp only
  generalize (target.parameter? "format").getD "dot" = format
  have hknown : (format ≠ "dot" && format ≠ "mermaid") = !(["dot", "mermaid"].contains format) := by simp
  rw [hknown]
  cases ["dot", "mermaid"].contains format with
  | false => exact .pure _
  | true =>
    refine (consults_ruleOf id).bind fun r => ?_
    cases Graph.ofTree r.tree with
    | error _ => exact .pure _
    | ok g => exact .pure _

/-! ## Conflicts -/

/-- A verdict is about a rule, which is looked for. -/
theorem consults_verdict (c : Case) : Consults true (verdict c) := by
  refine (consults_ruleOf c.ruleId).bind fun r => Consults.current.bind fun s => ?_
  exact (consults_evaluation _ r.tree c.facts).bind fun e => .pure _

/-- Verdicts consult the registry unless there are none. -/
theorem consults_verdicts (cases : List Case) : Consults (!cases.isEmpty) (verdicts cases) := by
  induction cases with
  | nil => exact .pure _
  | cons c rest ih => exact (consults_verdict c).again fun first => ih.bind fun others => .pure _

/-- Conflicts consult the registry before anything else. -/
theorem consults_conflicts (q : ConflictQuestion) : Consults true (conflicts q) := by
  refine consults_registry.again fun _ => (consults_verdicts q.cases).bind fun vs => ?_
  exact (Consults.orStop _).bind fun merged => (Consults.orStop _).bind fun found => (Consults.note _).bind fun _ => .pure _

end Handling

/-! ## All endpoints -/

/-- A request consults the rules at an endpoint: it is about one of them, or about all. -/
def Request.consults (r : Request) : Endpoint → Bool
  | .listRules | .rule _ | .reload => true
  | .ruleGraph _ => ["dot", "mermaid"].contains ((r.target.parameter? "format").getD "dot")
  | .evaluate | .evaluatePartial => (r.question Format.evaluationQuestion).toOption.any (·.subject.ruleId.isSome)
  | .layout => (r.question Format.layoutQuestion).toOption.any (·.subject.ruleId.isSome)
  | .conflicts => (r.question Format.conflictQuestion).toOption.isSome
  | .welcome | .health | .cacheStats | .clearCache | .forget _ => false

namespace Handling

/-- A question that is understood is handled, and one that is not is refused. -/
theorem consults_question {γ : Type} {question : Except Response γ} {handle : γ → Handling Response} {asks : γ → Bool}
    (h : ∀ q, Consults (asks q) (handle q)) : Consults (question.toOption.any asks) (orStop question >>= handle) := by
  cases question with
  | error response => exact ⟨fun _ => rfl, fun _ => rfl, nofun⟩
  | ok q => exact .orStop_ok (h q)

/-- Whether an answer consults the rules, the request tells. -/
theorem consults_answer {e : Endpoint} (he : e ≠ .reload) (r : Request) : Consults (r.consults e) (answer r e) := by
  cases e with
  | welcome => exact Consults.current.bind fun _ => .pure _
  | health => exact .pure _
  | evaluate => exact consults_question consults_evaluate
  | evaluatePartial => exact consults_question consults_evaluatePartial
  | listRules => exact consults_listRules r.target
  | rule id => exact consults_rule id
  | ruleGraph id => exact consults_ruleGraph id r.target
  | reload => exact absurd rfl he
  | layout => exact consults_question consults_layout
  | conflicts => exact consults_question consults_conflicts
  | cacheStats => exact Consults.current.bind fun _ => .pure _
  | clearCache => exact (Consults.askCache _).bind fun _ => .pure _
  | forget key =>
    refine (Consults.askCache _).bind fun found => ?_
    split
    · exact .pure _
    · exact .pure _

/-- A reload gives up the rules in use and all that was remembered, and consults the rules then. -/
theorem reload_eq (s : Service) :
    (reload s).service.source = s.source ∧ (reload s).service.registry = some (Registry.loadAll {} s.source).registry ∧
      ∀ failure, ({ s with registry := none } : Service).load.outcome = .error failure →
        (reload s).result = .error .breakdown := by
  have hrest : Consults true (do
      let forgotten ← askCache EvaluationCache.clear
      let g ← Handling.registry
      return Response.ok (.record [("status", .text "reloaded"), ("rules_loaded", .int g.rules.length),
        ("cache_entries_cleared", .int forgotten)])) :=
    .askCache_bind fun _ => consults_registry.bind fun _ => .pure _
  exact ⟨hrest.source { s with registry := none }, hrest.registry { s with registry := none },
    fun failure => hrest.breakdown rfl { s with registry := none } failure⟩

end Handling

end RegulatoryTrees
