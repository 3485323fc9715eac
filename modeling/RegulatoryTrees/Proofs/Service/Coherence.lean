import RegulatoryTrees.Proofs.Evaluation.Cache
import RegulatoryTrees.Proofs.Service.Handling
import RegulatoryTrees.Proofs.Service.Question
import RegulatoryTrees.Service

/-!
# The cache of the service is coherent

A slot of the cache stays only as long as the rule that it belongs to: the registry is given up only together with the cache.
So whatever is asked of a service and however the rule files are changed meanwhile, each slot holds the evaluation of the rule
that is loaded under its key (`Coherent.after`).
-/

namespace RegulatoryTrees

namespace Service

/-- The rule that is loaded under an identifier. -/
def rule? (s : Service) (id : String) : Option Rule := s.registry.bind (·.get? id)

/-- The tree of the rule that is loaded under an identifier. -/
def tree? (s : Service) (id : String) : Option Node := (s.rule? id).map Rule.tree

/-- Each slot of the cache holds the evaluation, by the rule that is loaded under its key, of facts that were asked about. -/
def Coherent (asked : List Value) (s : Service) : Prop := s.cache.Remembers s.tree? asked

namespace Coherent

variable {asked : List Value} {s : Service}

/-- A coherent cache stays so when more facts have been asked. -/
theorem mono (h : Coherent asked s) {asked' : List Value} (hsub : ∀ f ∈ asked, f ∈ asked') : Coherent asked' s :=
  EvaluationCache.Remembers.mono h hsub

theorem of_empty (h : s.cache.slots = []) : Coherent asked s := EvaluationCache.Remembers.empty h

/-- As long as no rules are loaded, nothing is remembered. -/
theorem slots_eq_nil (h : Coherent asked s) (hr : s.registry = none) : s.cache.slots = [] := by
  refine List.eq_nil_iff_forall_not_mem.2 fun slot hs => ?_
  obtain ⟨tree, ht, -⟩ := h slot hs
  rw [tree?, rule?, hr] at ht
  exact nomatch ht

/-- Loading the rules keeps the cache coherent: it has slots only where the rules have been loaded before. -/
theorem load (h : Coherent asked s) : Coherent asked s.load.service := by
  cases hr : s.registry with
  | some g =>
    rw [Service.load]
    simp only [hr]
    exact h
  | none =>
    rw [Service.load]
    simp only [hr]
    exact of_empty (h.slots_eq_nil hr)

end Coherent

/-- What is loaded is the registry of the service from then on. -/
theorem registry_load {s : Service} {g : Registry} (h : s.load.outcome = .ok g) : s.load.service.registry = some g := by
  unfold load at h ⊢
  split
  · next g' hr =>
    simp only [hr] at h
    rw [hr, Except.ok.inj h]
  · next hr =>
    simp only [hr] at h ⊢
    split at h
    · rw [Except.ok.inj h]
    · rw [Except.ok.inj h]
    · exact nomatch h

end Service

namespace Handling

open Service

variable {asked : List Value}

/-- A part keeps the cache coherent, whatever it comes to. -/
abbrev Keeps {α : Type} (asked : List Value) (h : Handling α) : Prop :=
  Ensures (Coherent asked) h (fun _ => Coherent asked) (Coherent asked)

/-! ## Rules and trees -/

/-- Obtaining the registry keeps the cache coherent, as rules are only loaded where none have been, and yields what is in use
then. -/
theorem ensures_registry :
    Ensures (Coherent asked) registry (fun g s => Coherent asked s ∧ s.registry = some g) (Coherent asked) := by
  intro s hs
  refine ⟨fun g hg => ⟨hs.load, ?_⟩, fun _ _ => hs.load⟩
  exact registry_load (Except.mapError_eq_ok.1 hg)

theorem keeps_registry : Keeps asked registry := ensures_registry.weaken (fun _ h => h) fun _ _ h => h.1

/-- A rule that is found has the identifier asked for and is loaded under it. -/
theorem ensures_ruleOf (id : String) :
    Ensures (Coherent asked) (ruleOf id) (fun r s => Coherent asked s ∧ r.id = id ∧ s.rule? id = some r) (Coherent asked) := by
  refine ensures_registry.bind fun g => ?_
  cases hg : g.get? id with
  | none => exact .stop _ fun _ h => h.1
  | some r =>
    refine .pure r fun s h => ⟨h.1, ?_, ?_⟩
    · rw [Registry.get?] at hg
      simpa using List.find?_some hg
    · rw [rule?, h.2, Option.bind_some, hg]

/-- The tree of a question is that of the rule loaded under the identifier asked for, or came with the question. -/
theorem ensures_treeOf (subject : Subject) :
    Ensures (Coherent asked) (treeOf subject)
      (fun found s => Coherent asked s ∧ found.2 = subject.ruleId ∧ ∀ id, found.2 = some id → s.tree? id = some found.1)
      (Coherent asked) := by
  obtain ⟨ruleId, tree⟩ := subject
  cases ruleId with
  | some id =>
    refine (ensures_ruleOf id).bind fun r => .pure (r.tree, some r.id) fun s h => ?_
    obtain ⟨hs, rfl, hr⟩ := h
    refine ⟨hs, rfl, fun id hid => ?_⟩
    rw [← Option.some.inj hid, tree?, hr, Option.map_some]
  | none =>
    cases tree with
    | some tree => exact .pure (tree, none) fun s h => ⟨h, rfl, nofun⟩
    | none => exact .stop _ fun _ h => h

/-! ## Evaluations -/

theorem keeps_outcome (outcome : Except Evaluation.Failure Evaluation) :
    Keeps asked (orStop (outcome.mapError evaluationRefusal)) :=
  (Ensures.orStop _ fun _ h => h).weaken (fun _ h => h) fun _ _ h => h.2

/-- An evaluation without a key leaves the cache alone. -/
theorem keeps_evaluation_none (tree : Node) (facts : Value) : Keeps asked (evaluation none tree facts) :=
  (Ensures.note _).bind fun _ => Ensures.bind (.pure _ fun _ h => h) keeps_outcome

/-- An evaluation keeps the cache coherent if the tree is that of the rule loaded under the key. -/
theorem ensures_evaluation (key : Option String) (tree : Node) {facts : Value} (hfacts : facts ∈ asked) :
    Ensures (fun s => Coherent asked s ∧ ∀ id, key = some id → s.tree? id = some tree) (evaluation key tree facts)
      (fun _ => Coherent asked) (Coherent asked) := by
  cases key with
  | none => exact (keeps_evaluation_none tree facts).weaken (fun _ h => h.1) fun _ _ h => h
  | some id =>
    refine Ensures.bind (.askCache fun s h => ?_) keeps_outcome
    have hs := EvaluationCache.Remembers.evaluate h.1 (h.2 id rfl) facts
    refine hs.mono fun f hf => ?_
    rcases List.mem_cons.1 hf with rfl | hf
    · exact hfacts
    · exact hf

/-- Evaluating keeps the cache coherent: what is put into it is the evaluation by the rule that is loaded. -/
theorem keeps_evaluate {q : EvaluationQuestion} (hfacts : q.facts ∈ asked) : Keeps asked (evaluate q) := by
  refine (ensures_treeOf q.subject).bind fun ⟨tree, ruleId⟩ => Ensures.current.bind fun settings => ?_
  refine Ensures.bind ((ensures_evaluation _ tree hfacts).weaken (fun s h => ⟨h.1, fun id hid => h.2.2 id ?_⟩) fun _ _ h => h)
    fun e => .pure _ fun _ h => h
  split at hid
  · exact hid
  · exact nomatch hid

theorem keeps_evaluatePartial (q : EvaluationQuestion) : Keeps asked (evaluatePartial q) := by
  refine (ensures_treeOf q.subject).bind fun ⟨tree, ruleId⟩ => (Ensures.note _).bind fun _ => ?_
  exact Ensures.bind (.orStop _ fun _ h => h.1) fun e => .pure _ fun _ h => h.2.1

theorem keeps_draw (tree : Node) (highlighted : List String) : Keeps asked (draw tree highlighted) := by
  refine Ensures.current.bind fun s => ?_
  dsimp only
  split
  · exact .pure _ fun _ h => h
  · exact .pure _ fun _ h => h

theorem keeps_layout (q : LayoutQuestion) : Keeps asked (layout q) := by
  refine (ensures_treeOf q.subject).bind fun found => ?_
  obtain ⟨tree, ruleId⟩ := found
  dsimp only
  split
  · exact Ensures.bind (Ensures.bind ((keeps_evaluation_none tree _).weaken (fun _ h => h.1) fun _ _ h => h)
      fun e => .pure _ fun _ h => h) (keeps_draw tree)
  · exact Ensures.bind (.pure _ fun _ h => h.1) (keeps_draw tree)

/-! ## Rules -/

theorem keeps_listRules (target : Target) : Keeps asked (listRules target) :=
  keeps_registry.bind fun _ => .pure _ fun _ h => h

theorem keeps_rule (id : String) : Keeps asked (rule id) :=
  (ensures_ruleOf id).bind fun _ => .pure _ fun _ h => h.1

theorem keeps_ruleGraph (id : String) (target : Target) : Keeps asked (ruleGraph id target) := by
  unfold ruleGraph
  dsimp only
  split
  · exact .pure _ fun _ h => h
  · refine (ensures_ruleOf id).bind fun r => ?_
    split
    · exact .pure _ fun _ h => h.1
    · exact .pure _ fun _ h => h.1

/-- The registry is given up, and with it all that was remembered; only then the rules are loaded anew. -/
theorem keeps_reload : Keeps asked reload := by
  refine Ensures.bind (Q := fun _ _ => True) (.change _ fun _ _ => trivial) fun _ => ?_
  exact Ensures.bind (.askCache fun _ _ => Coherent.of_empty rfl) fun _ => keeps_registry.bind fun _ => .pure _ fun _ h => h

/-! ## Conflicts -/

/-- A verdict puts the evaluation by a rule that is loaded into the cache. -/
theorem keeps_verdict {c : Case} (hfacts : c.facts ∈ asked) : Keeps asked (verdict c) := by
  refine (ensures_ruleOf c.ruleId).bind fun r => Ensures.current.bind fun settings => ?_
  refine Ensures.bind ((ensures_evaluation _ r.tree hfacts).weaken (fun s h => ⟨h.1, fun id hid => ?_⟩) fun _ _ h => h)
    fun e => .pure _ fun _ h => h
  obtain ⟨-, hr, hrule⟩ := h
  split at hid
  · rw [← Option.some.inj hid, hr, tree?, hrule, Option.map_some]
  · exact nomatch hid

/-- Verdicts keep the cache coherent one by one. -/
theorem keeps_verdicts {cases : List Case} (hfacts : ∀ c ∈ cases, c.facts ∈ asked) : Keeps asked (verdicts cases) := by
  induction cases with
  | nil => exact .pure _ fun _ h => h
  | cons c rest ih =>
    refine (keeps_verdict (hfacts c List.mem_cons_self)).bind fun first => ?_
    exact (ih fun c' hc => hfacts c' (List.mem_cons_of_mem c hc)).bind fun others => .pure _ fun _ h => h

theorem keeps_conflicts {q : ConflictQuestion} (hfacts : ∀ c ∈ q.cases, c.facts ∈ asked) : Keeps asked (conflicts q) := by
  refine keeps_registry.bind fun _ => (keeps_verdicts hfacts).bind fun vs => ?_
  refine Ensures.bind (.orStop _ fun _ h => h) fun merged => Ensures.bind (.orStop _ fun _ h => h.2) fun found => ?_
  exact (Ensures.note _).bind fun _ => .pure _ fun _ h => h.2.2

/-! ## The cache -/

/-- An empty cache is coherent, whatever was in it. -/
theorem keeps_clearCache : Keeps asked clearCache :=
  Ensures.bind (.askCache fun _ _ => Coherent.of_empty rfl) fun _ => .pure _ fun _ h => h

/-- Forgetting a rule leaves the slots of the others as they are. -/
theorem keeps_forget (key : String) : Keeps asked (forget key) := by
  have hforgotten : Ensures (Coherent asked) (askCache (·.invalidate key)) (fun _ => Coherent asked) (Coherent asked) :=
    .askCache fun _ h => EvaluationCache.Remembers.invalidate h key
  refine hforgotten.bind fun found => ?_
  split
  · exact .pure _ fun _ h => h
  · exact .pure _ fun _ h => h

/-! ## All endpoints -/

/-- Whatever is asked for at an endpoint, the cache stays coherent. -/
theorem keeps_answer {r : Request} {e : Endpoint} (hfacts : ∀ f ∈ r.factsAt e, f ∈ asked) : Keeps asked (answer r e) := by
  cases e with
  | welcome => exact Ensures.current.bind fun _ => .pure _ fun _ h => h
  | health => exact .pure _ fun _ h => h
  | evaluate =>
    refine Ensures.bind (.orStop _ fun _ h => h) fun q s h => keeps_evaluate ?_ s h.2
    rw [Request.factsAt_evaluate h.1] at hfacts
    exact hfacts _ List.mem_cons_self
  | evaluatePartial => exact Ensures.bind (.orStop _ fun _ h => h) fun q s h => keeps_evaluatePartial q s h.2
  | listRules => exact keeps_listRules r.target
  | rule id => exact keeps_rule id
  | ruleGraph id => exact keeps_ruleGraph id r.target
  | reload => exact keeps_reload
  | layout => exact Ensures.bind (.orStop _ fun _ h => h) fun q s h => keeps_layout q s h.2
  | conflicts =>
    refine Ensures.bind (.orStop _ fun _ h => h) fun q s h => keeps_conflicts (fun c hc => ?_) s h.2
    rw [Request.factsAt_conflicts h.1] at hfacts
    exact hfacts _ (List.mem_map_of_mem hc)
  | cacheStats => exact Ensures.current.bind fun _ => .pure _ fun _ h => h
  | clearCache => exact keeps_clearCache
  | forget key => exact keeps_forget key

end Handling

/-! ## Histories -/

namespace Service

variable {asked : List Value} {s : Service}

/-- Answering a request keeps the cache coherent. -/
theorem Coherent.respond (h : Coherent asked s) (r : Request) : Coherent (r.posted ++ asked) (s.respond r).service := by
  have hs := h.mono fun f hf => List.mem_append_right r.posted hf
  unfold Service.respond
  split
  · exact hs
  · dsimp only
    unfold Service.direct
    split
    · exact hs
    · exact hs
    · exact hs
    · next e he =>
      have hfacts : ∀ f ∈ r.factsAt e, f ∈ r.posted ++ asked := by
        intro f hf
        rw [Request.posted_of_direction he]
        exact List.mem_append_left asked hf
      obtain ⟨hok, herror⟩ := Handling.keeps_answer hfacts s hs
      dsimp only
      cases hresult : (Handling.answer r e s).result with
      | ok response => exact hok response hresult
      | error response => exact herror response hresult

/-- What happens to a service: it answers a request, or the rule files are changed in some way. -/
inductive Event where
  | request (r : Request)
  | files (folder : Folder)

namespace Event

/-- The service after something happened. -/
def apply (s : Service) : Event → Service
  | .request r => (s.respond r).service
  | .files folder => { s with folder := folder }

/-- The facts that are posted. -/
def posted : Event → List Value
  | .request r => r.posted
  | .files _ => []

/-- The facts of an event are plain, as they have been read from a JSON text. -/
theorem isPlain_of_mem_posted {event : Event} {facts : Value} (h : facts ∈ event.posted) : facts.IsPlain := by
  cases event with
  | request r => exact Request.isPlain_of_mem_posted h
  | files _ => exact nomatch h

end Event

/-- The service after some events, the first one first. -/
def after (s : Service) (events : List Event) : Service := events.foldl Event.apply s

/-- The facts that are posted in some events. -/
def posted (events : List Event) : List Value := events.flatMap Event.posted

/-- Whatever happens to a service, its cache stays coherent. -/
theorem Coherent.apply (h : Coherent asked s) (event : Event) : Coherent (event.posted ++ asked) (event.apply s) := by
  cases event with
  | request r => exact h.respond r
  | files _ => exact h

/-- After any events the cache is coherent. -/
theorem Coherent.after (h : Coherent asked s) (events : List Event) : Coherent (posted events ++ asked) (s.after events) := by
  induction events generalizing s asked with
  | nil => exact h
  | cons event rest ih =>
    refine (ih (h.apply event)).mono fun f hf => ?_
    rw [posted, List.flatMap_cons, List.append_assoc]
    rcases List.mem_append.1 hf with hf | hf
    · exact List.mem_append_right _ (List.mem_append_left asked hf)
    · rcases List.mem_append.1 hf with hf | hf
      · exact List.mem_append_left _ hf
      · exact List.mem_append_right _ (List.mem_append_right _ hf)

/-- A service that starts with an empty cache has a coherent one from then on. -/
theorem coherent_after (h : s.cache.slots = []) (events : List Event) : Coherent (posted events) (s.after events) := by
  have hempty : Coherent [] s := .of_empty h
  have hafter := hempty.after events
  rwa [List.append_nil] at hafter

theorem isPlain_of_mem_posted {events : List Event} {facts : Value} (h : facts ∈ posted events) : facts.IsPlain := by
  obtain ⟨event, _, hevent⟩ := List.mem_flatMap.1 h
  exact Event.isPlain_of_mem_posted hevent

end Service

end RegulatoryTrees
