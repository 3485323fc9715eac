import RegulatoryTrees.Proofs.Format.Fields
import RegulatoryTrees.Proofs.Json.Plain
import RegulatoryTrees.Proofs.Value.Equality
import RegulatoryTrees.Service.Body
import RegulatoryTrees.Service.Endpoint

/-!
# The facts that requests ask about

A request posts facts to be evaluated. They are read from JSON, so they are plain (`isPlain_of_mem_posted`).
-/

namespace RegulatoryTrees

deriving instance DecidableEq for Content, Response

namespace Format

/-- An object is read from the entries of a mapping. -/
theorem object_eq_ok {α : Type} {read : List (Scalar × Value) → Checked α} {v : Value} {x : α} :
    object read v = .ok x ↔ ∃ entries, v = .mapping entries ∧ read entries = .ok x := by
  unfold object
  split <;> simp_all [Checked.fault]

/-- A mapping is taken as it is. -/
theorem eq_of_dictionary {v w : Value} (h : dictionary v = .ok w) : v = w := by
  unfold dictionary at h
  split at h
  · exact Except.ok.inj h
  · exact nomatch h

/-- The facts of a plain question are plain. -/
theorem isPlain_facts {entries : List (Scalar × Value)} (h : Value.IsPlain (.mapping entries)) {facts : Value}
    (hf : optional ["facts"] dictionary (.mapping []) entries = .ok facts) : facts.IsPlain := by
  unfold optional at hf
  split at hf
  · next name v hfound =>
    obtain rfl := eq_of_dictionary (Checked.under_eq_ok.1 hf)
    exact h.lookup (lookup_of_find? hfound)
  · rw [← Except.ok.inj hf]
    exact Value.isPlain_empty

/-- The facts of a plain question about an evaluation are plain. -/
theorem isPlain_evaluationQuestion {v : Value} (h : v.IsPlain) {q : EvaluationQuestion} (hq : evaluationQuestion v = .ok q) :
    q.facts.IsPlain := by
  obtain ⟨entries, rfl, hread⟩ := object_eq_ok.1 hq
  obtain ⟨_, _, hwith, -, rfl⟩ := Checked.and_eq_ok.1 hread
  obtain ⟨_, facts, hsubject, hfacts, rfl⟩ := Checked.and_eq_ok.1 hwith
  obtain ⟨_, -, rfl⟩ := Except.map_eq_ok.1 hsubject
  exact isPlain_facts h hfacts

theorem isPlain_case {v : Value} (h : v.IsPlain) {c : Case} (hc : case v = .ok c) : c.facts.IsPlain := by
  obtain ⟨entries, rfl, hread⟩ := object_eq_ok.1 hc
  obtain ⟨_, facts, hrule, hfacts, rfl⟩ := Checked.and_eq_ok.1 hread
  obtain ⟨_, -, rfl⟩ := Except.map_eq_ok.1 hrule
  exact isPlain_facts h hfacts

/-- What is read from each item of a list has what the items give it. -/
theorem forall_of_itemsFrom {α : Type} {read : Value → Checked α} {p : α → Prop} {items : List Value}
    (h : ∀ v ∈ items, ∀ x, read v = .ok x → p x) {n : Nat} {xs : List α} (hxs : itemsFrom read n items = .ok xs) :
    ∀ x ∈ xs, p x := by
  induction items generalizing n xs with
  | nil =>
    rw [← Except.ok.inj hxs]
    nofun
  | cons v rest ih =>
    obtain ⟨_, _, hv, hrest, rfl⟩ := Checked.and_eq_ok.1 hxs
    obtain ⟨x, hx, rfl⟩ := Except.map_eq_ok.1 hv
    exact List.forall_mem_cons.2 ⟨h v List.mem_cons_self x (Checked.under_eq_ok.1 hx),
      ih (fun w hw => h w (List.mem_cons_of_mem v hw)) hrest⟩

theorem isPlain_nonempty_case {v : Value} (h : v.IsPlain) {cases : List Case} (hc : nonempty case v = .ok cases) :
    ∀ c ∈ cases, c.facts.IsPlain := by
  have hlist : list case v = .ok cases := by
    unfold nonempty at hc
    split at hc
    · cases hc
    · exact hc
  unfold list at hlist
  split at hlist
  · cases h with
    | sequence _ hitems => exact forall_of_itemsFrom (fun w hw _ => isPlain_case (hitems w hw)) hlist
  · cases hlist
    intro c hc
    cases hc
  · cases hlist

theorem isPlain_conflictQuestion {v : Value} (h : v.IsPlain) {q : ConflictQuestion} (hq : conflictQuestion v = .ok q) :
    ∀ c ∈ q.cases, c.facts.IsPlain := by
  obtain ⟨entries, rfl, hread⟩ := object_eq_ok.1 hq
  obtain ⟨_, _, hwith, -, rfl⟩ := Checked.and_eq_ok.1 hread
  obtain ⟨_, _, hevaluations, -, rfl⟩ := Checked.and_eq_ok.1 hwith
  obtain ⟨cases, hcases, rfl⟩ := Except.map_eq_ok.1 hevaluations
  unfold required at hcases
  split at hcases
  · next name w hfound =>
    exact isPlain_nonempty_case (h.lookup (lookup_of_find? hfound)) (Checked.under_eq_ok.1 hcases)
  · exact nomatch hcases

end Format

namespace Request

/-- The value of a body is plain. -/
theorem isPlain_bodyValue {r : Request} {v : Value} (h : r.bodyValue = .ok (some v)) : v.IsPlain := by
  unfold bodyValue at h
  split at h
  · exact nomatch h
  · split at h
    · split at h
      · exact nomatch h
      · split at h
        · next hparse =>
          obtain rfl := Option.some.inj (Except.ok.inj h)
          exact Json.isPlain_of_parseChars hparse
        · split at h <;> exact nomatch h
    · obtain rfl := Option.some.inj (Except.ok.inj h)
      exact .scalar _

/-- A question is read from a plain value. -/
theorem exists_of_question {α : Type} {read : Value → Format.Checked α} {r : Request} {q : α} (h : r.question read = .ok q) :
    ∃ v : Value, v.IsPlain ∧ read v = .ok q := by
  unfold question at h
  obtain ⟨body, hbody, h⟩ := Except.bind_eq_ok.1 h
  have h := Format.Checked.under_eq_ok.1 (Except.mapError_eq_ok.1 h)
  cases body with
  | none => exact nomatch h
  | some v => exact ⟨v, isPlain_bodyValue hbody, h⟩

/-- The facts that a request asks about at an endpoint where rules are evaluated. -/
def factsAt (r : Request) : Endpoint → List Value
  | .evaluate =>
    match r.question Format.evaluationQuestion with
    | .ok q => [q.facts]
    | .error _ => []
  | .conflicts =>
    match r.question Format.conflictQuestion with
    | .ok q => q.cases.map Case.facts
    | .error _ => []
  | _ => []

/-- The facts that a request posts to be evaluated. -/
def posted (r : Request) : List Value :=
  match Endpoint.direction r.method r.target.path with
  | .endpoint e => r.factsAt e
  | _ => []

/-- What is posted for an evaluation are the facts of the question. -/
theorem factsAt_evaluate {r : Request} {q : EvaluationQuestion} (h : r.question Format.evaluationQuestion = .ok q) :
    r.factsAt .evaluate = [q.facts] := by
  rw [factsAt]
  simp only [h]

theorem factsAt_conflicts {r : Request} {q : ConflictQuestion} (h : r.question Format.conflictQuestion = .ok q) :
    r.factsAt .conflicts = q.cases.map Case.facts := by
  rw [factsAt]
  simp only [h]

/-- What is posted depends on the endpoint that a request is directed to. -/
theorem posted_of_direction {r : Request} {e : Endpoint} (h : Endpoint.direction r.method r.target.path = .endpoint e) :
    r.posted = r.factsAt e := by
  rw [posted]
  simp only [h]

/-- A request posts a question to be evaluated. -/
def Asks (r : Request) (q : EvaluationQuestion) : Prop :=
  Endpoint.direction r.method r.target.path = .endpoint .evaluate ∧ r.question Format.evaluationQuestion = .ok q

/-- A request that asks a question posts its facts. -/
theorem Asks.posted_eq {r : Request} {q : EvaluationQuestion} (h : r.Asks q) : r.posted = [q.facts] := by
  rw [posted_of_direction h.1, factsAt_evaluate h.2]

/-- What is posted is plain, wherever it is posted. -/
theorem isPlain_of_mem_factsAt {r : Request} {e : Endpoint} {facts : Value} (h : facts ∈ r.factsAt e) : facts.IsPlain := by
  unfold factsAt at h
  split at h
  · split at h
    · next hq =>
      obtain ⟨v, hv, hread⟩ := exists_of_question hq
      rw [List.mem_singleton.1 h]
      exact Format.isPlain_evaluationQuestion hv hread
    · exact nomatch h
  · split at h
    · next hq =>
      obtain ⟨v, hv, hread⟩ := exists_of_question hq
      obtain ⟨c, hc, rfl⟩ := List.mem_map.1 h
      exact Format.isPlain_conflictQuestion hv hread c hc
    · exact nomatch h
  · exact nomatch h

theorem Asks.isPlain {r : Request} {q : EvaluationQuestion} (h : r.Asks q) : q.facts.IsPlain := by
  obtain ⟨v, hv, hread⟩ := exists_of_question h.2
  exact Format.isPlain_evaluationQuestion hv hread

/-- The facts that a request posts are plain. -/
theorem isPlain_of_mem_posted {r : Request} {facts : Value} (h : facts ∈ r.posted) : facts.IsPlain := by
  unfold posted at h
  split at h
  · exact isPlain_of_mem_factsAt h
  · exact nomatch h

end Request

end RegulatoryTrees
