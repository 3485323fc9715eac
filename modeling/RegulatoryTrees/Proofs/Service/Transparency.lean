import RegulatoryTrees.Proofs.Service.Coherence

/-!
# The cache of the service only saves work

Trees that come with a question have nothing to do with the cache. For the rules that are loaded, a coherent cache answers what
their trees answer, so a question is answered alike whether the cache may answer it or not (`Service.cache_coherent`).
-/

namespace RegulatoryTrees

namespace Handling

open Service

/-! ## Trees that come with a question -/

theorem ignoresCache_registry : IgnoresCache registry := by
  intro s c
  obtain ⟨settings, origins, folder, loaded, cache, channel⟩ := s
  cases loaded <;> rfl

theorem ignoresCache_ruleOf (id : String) : IgnoresCache (ruleOf id) := by
  refine .bind ignoresCache_registry fun _ g _ => ?_
  split
  · exact .pure _
  · exact .stop _

theorem ignoresCache_treeOf (subject : Subject) : IgnoresCache (treeOf subject) := by
  unfold treeOf
  split
  · exact .bind (ignoresCache_ruleOf _) fun _ _ _ => .pure _
  · exact .pure _
  · exact .stop _

/-- The tree of a question has the identifier that the question tells, if it tells one. -/
theorem ruleId_of_treeOf {subject : Subject} {s : Service} {found : Node × Option String}
    (h : (treeOf subject s).result = .ok found) (hid : subject.ruleId = none) : found.2 = none := by
  obtain ⟨ruleId, tree⟩ := subject
  obtain rfl : ruleId = none := hid
  cases tree with
  | some tree => rw [← Except.ok.inj h]
  | none => exact nomatch h

/-- Without a key an evaluation has nothing to do with the cache. -/
theorem ignoresCache_evaluation (tree : Node) (facts : Value) : IgnoresCache (evaluation none tree facts) :=
  .bind (.note _) fun _ _ _ => .bind (.pure _) fun _ _ _ => .orStop _

/-- A question about a tree of its own is answered without the cache. -/
theorem ignoresCache_evaluate {q : EvaluationQuestion} (h : q.subject.ruleId = none) : IgnoresCache (evaluate q) := by
  refine .bind (ignoresCache_treeOf q.subject) fun s ⟨tree, ruleId⟩ hfound => ?_
  obtain rfl : ruleId = none := ruleId_of_treeOf hfound h
  refine .current (fun s => ?_) fun _ _ => rfl
  dsimp only
  rw [ite_self]
  exact .bind (ignoresCache_evaluation tree q.facts) fun _ _ _ => .pure _

theorem ignoresCache_evaluatePartial (q : EvaluationQuestion) : IgnoresCache (evaluatePartial q) := by
  refine .bind (ignoresCache_treeOf q.subject) fun _ ⟨tree, ruleId⟩ _ => .bind (.note _) fun _ _ _ => ?_
  exact .bind (.orStop _) fun _ _ _ => .pure _

theorem ignoresCache_draw (tree : Node) (highlighted : List String) : IgnoresCache (draw tree highlighted) := by
  refine .current (fun s => ?_) fun _ _ => rfl
  dsimp only
  split
  · exact .pure _
  · exact .pure _

theorem ignoresCache_layout (q : LayoutQuestion) : IgnoresCache (layout q) := by
  refine .bind (ignoresCache_treeOf q.subject) fun _ found _ => ?_
  obtain ⟨tree, ruleId⟩ := found
  dsimp only
  split
  · exact .bind (.bind (ignoresCache_evaluation tree _) fun _ _ _ => .pure _) fun _ _ _ => ignoresCache_draw tree _
  · exact .bind (.pure _) fun _ _ _ => ignoresCache_draw tree _

/-- A question about a tree that comes with it has nothing to do with the cache. -/
theorem ignoresCache_answer_evaluate {r : Request} {q : EvaluationQuestion} (hq : r.question Format.evaluationQuestion = .ok q)
    (hid : q.subject.ruleId = none) : IgnoresCache (answer r .evaluate) := by
  refine .bind (.orStop _) fun _ q' hq' => ignoresCache_evaluate ?_
  obtain rfl : q = q' := Except.ok.inj (hq.symm.trans hq')
  exact hid

theorem ignoresCache_answer_evaluatePartial (r : Request) : IgnoresCache (answer r .evaluatePartial) :=
  .bind (.orStop _) fun _ q _ => ignoresCache_evaluatePartial q

theorem ignoresCache_answer_layout (r : Request) : IgnoresCache (answer r .layout) :=
  .bind (.orStop _) fun _ q _ => ignoresCache_layout q

/-! ## Trees of rules -/

/-- The response that tells what the evaluation of a rule came to. -/
def told (id : String) : Except Response Evaluation → Response
  | .ok e => .ok (.record [("rule_id", .text id), ("result", e.write)])
  | .error refusal => refusal

/-- The response that a handling ends with. -/
def response (h : Handling Response) (s : Service) : Response :=
  match (h s).result with
  | .ok response | .error response => response

variable {asked : List Value} {s : Service}

/-- For the tree of a rule that is loaded, a coherent cache answers what the tree answers, up to the order of keys. -/
theorem sorted_evaluation (h : Coherent asked s) {id : String} {tree : Node} (ht : s.tree? id = some tree) {facts : Value}
    (hplain : ∀ f ∈ facts :: asked, f.IsPlain) (hcollision : NoCollision (facts :: asked)) (cached : Bool) :
    Evaluation.sorted <$> (evaluation (if cached then some id else none) tree facts s).result =
      Evaluation.sorted <$> (tree.evaluate facts).mapError evaluationRefusal := by
  have hmap : ∀ outcome : Except Evaluation.Failure Evaluation,
      Evaluation.sorted <$> outcome.mapError evaluationRefusal = (Evaluation.sorted <$> outcome).mapError evaluationRefusal := by
    intro outcome
    cases outcome <;> rfl
  cases cached with
  | false => rfl
  | true =>
    have hanswer := EvaluationCache.Remembers.sorted_answer h ht hplain hcollision
    have hresult : (evaluation (some id) tree facts s).result =
        (s.cache.evaluate id tree facts).answer.mapError evaluationRefusal := rfl
    rw [if_pos rfl, hresult, hmap, hanswer, hmap]

/-- Where no tree is found, the response says why. -/
theorem response_evaluate_of_error {q : EvaluationQuestion} {refusal : Response}
    (h : (treeOf q.subject s).result = .error refusal) : response (evaluate q) s = refusal := by
  rw [response, evaluate, result_bind]
  simp only [h, Except.error_bind]

/-- Where the tree of a rule is found, the response tells what its evaluation came to, by the cache or without it. -/
theorem response_evaluate_of_ok {q : EvaluationQuestion} {tree : Node} {id : String}
    (h : (treeOf q.subject s).result = .ok (tree, some id)) :
    response (evaluate q) s = told id (evaluation
      (if q.useCache && (treeOf q.subject s).service.settings.cacheEnabled then some id else none) tree q.facts
      (treeOf q.subject s).service).result := by
  have hcurrent : ∀ (next : Service → Handling Response) (s' : Service), ((current >>= next) s').result = (next s' s').result :=
    fun next s' => result_bind current next s'
  rw [response, evaluate, result_bind]
  simp only [h, Except.ok_bind, hcurrent, result_bind]
  cases (evaluation (if q.useCache && (treeOf q.subject s).service.settings.cacheEnabled then some id else none) tree q.facts
    (treeOf q.subject s).service).result <;> rfl

/-- A question about a rule is answered by telling what the evaluation of the rule came to, and with the cache it is the same as
without it, up to the order of keys. -/
theorem exists_told (h : Coherent asked s) {q : EvaluationQuestion} {id : String} (hid : q.subject.ruleId = some id)
    (hplain : ∀ f ∈ q.facts :: asked, f.IsPlain) (hcollision : NoCollision (q.facts :: asked)) :
    ∃ outcome : Except Response Evaluation, ∀ useCache, ∃ a : Except Response Evaluation,
      Evaluation.sorted <$> a = Evaluation.sorted <$> outcome ∧
        response (evaluate { q with useCache := useCache }) s = told id a := by
  obtain ⟨hok, -⟩ := ensures_treeOf q.subject s h
  cases hfound : (treeOf q.subject s).result with
  | error refusal => exact ⟨.error refusal, fun useCache => ⟨.error refusal, rfl, response_evaluate_of_error hfound⟩⟩
  | ok found =>
    obtain ⟨tree, ruleId⟩ := found
    obtain ⟨hs, hruleId, ht⟩ := hok _ hfound
    obtain rfl : ruleId = some id := hruleId.trans hid
    refine ⟨(tree.evaluate q.facts).mapError evaluationRefusal, fun useCache => ?_⟩
    have hsorted := sorted_evaluation hs (ht id rfl) hplain hcollision
      (useCache && (treeOf q.subject s).service.settings.cacheEnabled)
    exact ⟨_, hsorted, response_evaluate_of_ok hfound⟩

end Handling

/-! ## A service with a small tree -/

namespace Licence

/-- A service that has loaded the rule of the small tree and has not been asked anything. -/
def service : Service where
  settings := ⟨"Licences", false, "INFO", true, "rules", ⟨Settings.wholeSize 200, Settings.wholeSize 80, Settings.wholeSize 40,
    Settings.wholeSize 60, Settings.wholeSize 20⟩⟩
  origins := .ofText none
  folder := ⟨"rules", []⟩
  registry := some ⟨[⟨"licence", "1.0", "Licence", none, ⟨"EU", "MiCA", none, none, [], []⟩, tree⟩]⟩

/-- A request about a licence. -/
def ask (number : String) (useCache : Bool) : Request where
  method := "POST"
  target := ⟨"/evaluate", []⟩
  headers := [("content-type", "application/json")]
  body := "\ufeff\x7b\"rule_id\": \"licence\", \"facts\": \x7b\"licence\": \"" ++ number ++ "\"\x7d, \"use_cache\": " ++
    (if useCache then "true" else "false") ++ "\x7d"

/-- What the body of a request about a licence holds. -/
def asked (number : String) (useCache : Bool) : Value :=
  .record [("rule_id", .text "licence"), ("facts", issued number), ("use_cache", .bool useCache)]

/-- The question of a request about a licence. -/
def question (number : String) (useCache : Bool) : EvaluationQuestion := ⟨⟨some "licence", none⟩, issued number, useCache⟩

/-- A request about a licence asks its question if its body is read as it is meant. -/
theorem asks_of_bodyValue {number : String} {useCache : Bool}
    (h : (ask number useCache).bodyValue = .ok (some (asked number useCache))) :
    (ask number useCache).Asks (question number useCache) := by
  have hdirection : Endpoint.direction "POST" "/evaluate" = .endpoint .evaluate := by decide +kernel
  refine ⟨hdirection, ?_⟩
  rw [Request.question, h]
  rfl

theorem asks_A1 (useCache : Bool) : (ask "A1" useCache).Asks (question "A1" useCache) := by
  refine asks_of_bodyValue ?_
  cases useCache <;> decide +kernel

theorem asks_B2 : (ask "B2" true).Asks (question "B2" true) := asks_of_bodyValue (by decide +kernel)

/-- Two licences are asked about, and between the requests the rule files are taken away. -/
def events : List Service.Event := [.request (ask "A1" true), .files ⟨"rules", []⟩, .request (ask "B2" true)]

theorem posted_events : Service.posted events = [issued "A1", issued "B2"] := by
  have hA1 := (asks_A1 true).posted_eq
  have hB2 := asks_B2.posted_eq
  rw [Service.posted, events, List.flatMap_cons, List.flatMap_cons, List.flatMap_cons, Service.Event.posted,
    Service.Event.posted, Service.Event.posted, hA1, hB2]
  rfl

end Licence

/-! ## Whatever is asked -/

namespace Service

open Handling

/-- A question that is posted is answered as the question. -/
theorem response_direct {r : Request} {q : EvaluationQuestion} (h : r.Asks q) (s : Service) :
    (s.direct r).response = response (evaluate q) s := by
  obtain ⟨hdirection, hquestion⟩ := h
  have hanswer : (answer r .evaluate s).result = (evaluate q s).result := by
    rw [answer, hquestion, result_bind]
    rfl
  have hdirect : (s.direct r).response = response (answer r .evaluate) s := by
    unfold direct
    simp only [hdirection]
    rfl
  rw [hdirect, response, response, hanswer]

/-- With a coherent cache, a question about a rule that is posted twice, to be answered with the cache and without it, is answered
alike. -/
theorem told_alike {asked : List Value} {s : Service} (h : Coherent asked s) (hplain : ∀ f ∈ asked, f.IsPlain)
    {cached uncached : Request} {q : EvaluationQuestion} {id : String} (hid : q.subject.ruleId = some id)
    (hcached : cached.Asks { q with useCache := true }) (huncached : uncached.Asks { q with useCache := false })
    (hcollision : NoCollision (q.facts :: asked)) :
    ∃ a b : Except Response Evaluation, Evaluation.sorted <$> a = Evaluation.sorted <$> b ∧
      (s.direct cached).response = told id a ∧ (s.direct uncached).response = told id b := by
  obtain ⟨outcome, htold⟩ := exists_told h hid (List.forall_mem_cons.2 ⟨hcached.isPlain, hplain⟩) hcollision
  obtain ⟨a, ha, hwith⟩ := htold true
  obtain ⟨b, hb, hwithout⟩ := htold false
  refine ⟨a, b, ha.trans hb.symm, ?_, ?_⟩
  · rw [response_direct hcached, hwith]
  · rw [response_direct huncached, hwithout]

/-- The cache of a service is coherent. Whatever is asked of a service that starts with an empty cache, and however the rule
files are changed meanwhile: each slot holds the evaluation of the rule that is loaded under its key, of facts that were posted;
a question about a rule is answered alike with the cache and without it, up to the order of keys in what is traced; and trees
that come with a question have nothing to do with the cache. -/
theorem cache_coherent (s : Service) (hs : s.cache.slots = []) (events : List Event) :
    (∀ slot ∈ (s.after events).cache.slots, ∃ rule, (s.after events).rule? slot.key = some rule ∧
      ∃ facts ∈ posted events, facts.hash = .ok slot.factHash ∧ rule.tree.evaluate facts = .ok slot.evaluation) ∧
    (∀ (cached uncached : Request) (q : EvaluationQuestion) (id : String), q.subject.ruleId = some id →
      cached.Asks { q with useCache := true } → uncached.Asks { q with useCache := false } →
      NoCollision (q.facts :: posted events) →
      ∃ a b : Except Response Evaluation, Evaluation.sorted <$> a = Evaluation.sorted <$> b ∧
        ((s.after events).direct cached).response = told id a ∧ ((s.after events).direct uncached).response = told id b) ∧
    (∀ (r : Request) (q : EvaluationQuestion), r.question Format.evaluationQuestion = .ok q → q.subject.ruleId = none →
      IgnoresCache (answer r .evaluate) ∧ IgnoresCache (answer r .evaluatePartial)) ∧
    ∀ (r : Request) (q : LayoutQuestion), r.question Format.layoutQuestion = .ok q → q.subject.ruleId = none →
      IgnoresCache (answer r .layout) := by
  have hcoherent := coherent_after hs events
  refine ⟨fun slot hslot => ?_, fun cached uncached q id hid hcached huncached hcollision => ?_, fun r q hq hid => ⟨?_, ?_⟩,
    fun r q _ _ => ?_⟩
  · obtain ⟨tree, ht, hfacts⟩ := hcoherent slot hslot
    obtain ⟨rule, hrule, rfl⟩ := Option.map_eq_some_iff.1 ht
    exact ⟨rule, hrule, hfacts⟩
  · exact told_alike hcoherent (fun _ => isPlain_of_mem_posted) hid hcached huncached hcollision
  · exact ignoresCache_answer_evaluate hq hid
  · exact ignoresCache_answer_evaluatePartial r
  · exact ignoresCache_answer_layout r

/-- After the requests about two licences, the first one is asked about again with the cache and without it. -/
theorem cache_coherent_licence :
    (∀ slot ∈ (Licence.service.after Licence.events).cache.slots,
      ∃ rule, (Licence.service.after Licence.events).rule? slot.key = some rule ∧
        ∃ facts ∈ posted Licence.events, facts.hash = .ok slot.factHash ∧ rule.tree.evaluate facts = .ok slot.evaluation) ∧
    ∃ a b : Except Response Evaluation, Evaluation.sorted <$> a = Evaluation.sorted <$> b ∧
      ((Licence.service.after Licence.events).direct (Licence.ask "A1" true)).response = Handling.told "licence" a ∧
      ((Licence.service.after Licence.events).direct (Licence.ask "A1" false)).response = Handling.told "licence" b := by
  obtain ⟨hslots, hquestions, -⟩ := cache_coherent Licence.service rfl Licence.events
  have hcollision : NoCollision (Licence.issued "A1" :: posted Licence.events) := by
    rw [Licence.posted_events]
    exact Licence.noCollision_issued
  exact ⟨hslots, hquestions (Licence.ask "A1" true) (Licence.ask "A1" false) (Licence.question "A1" true) "licence" rfl
    (Licence.asks_A1 true) (Licence.asks_A1 false) hcollision⟩

end Service

end RegulatoryTrees
