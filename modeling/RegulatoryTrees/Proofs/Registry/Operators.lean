import RegulatoryTrees.Proofs.Evaluation.Diagnostics
import RegulatoryTrees.Proofs.Registry.Progress

/-!
# Unknown operators are warned about

A rule with an unknown operator is accepted, with a warning for each node that has one, in the order of the walk through its tree
(`Rule.notices_eq_warnings`); a load, whether or not it comes to its end, warns about just the rules that it accepts
(`accepts_loadFile`, `accepts_loadAll`). This agrees with evaluation: a diagnostic about an unknown operator names a node that was
warned about (`unknownOperators_agree`).
-/

namespace RegulatoryTrees

/-! ## Warnings at loading -/

/-- The warning about a node of a rule. -/
def Rule.warning (r : Rule) (n : Node) : Notice :=
  ⟨.warning, "compliance_engine.rules.loader",
    "Rule " ++ r.id ++ " node " ++ n.id ++ " uses unknown operator " ++ Text.quoted ((n.condition?.map Condition.op).getD "")⟩

/-- The warnings about a rule: one for each node with an unknown operator. -/
def Rule.warnings (r : Rule) : List Notice := r.tree.misnamed.map r.warning

/-- A notice warns about an unknown operator of a rule: no other notice of the loader starts with that word. -/
def Notice.isAboutOperator (n : Notice) : Bool := "Rule ".toList.isPrefixOf n.message.toList

/-- The notices about a rule are the warnings about its misnamed conditions. -/
theorem Rule.notices_eq_warnings (r : Rule) : r.notices = r.warnings := by
  rw [notices, warnings, Node.misnamed, Node.walk_eq_preorder]
  induction r.tree.preorder with
  | nil => rfl
  | cons n rest ih =>
    cases n with
    | condition header c note whenTrue whenFalse =>
      by_cases hunknown : c.HasUnknownOperator
      · have hnone : c.operator? = none := Condition.operator?_eq_none_iff.2 hunknown
        have hmisnamed : Node.isMisnamed (.condition header c note whenTrue whenFalse) = true := by
          simpa [Node.isMisnamed, Node.condition?] using hunknown
        rw [List.filter_cons_of_pos hmisnamed, List.map_cons, ← ih]
        simp [hnone, warning, Node.condition?, Node.id, Node.header]
      · have hsome : c.operator?.isSome = true := by
          rw [Option.isSome_iff_ne_none, ne_eq, Condition.operator?_eq_none_iff]
          exact hunknown
        have hmisnamed : ¬Node.isMisnamed (.condition header c note whenTrue whenFalse) = true := by
          simpa [Node.isMisnamed, Node.condition?] using hunknown
        rw [List.filter_cons_of_neg hmisnamed, ← ih]
        simp [hsome]
    | leaf | group | router | anchor => simpa [Node.isMisnamed, Node.condition?] using ih

namespace Notice

/-- A warning about a node is about its operator. -/
theorem isAboutOperator_warning (r : Rule) (n : Node) : (r.warning n).isAboutOperator = true := by
  simp [isAboutOperator, Rule.warning, String.toList_append]

theorem not_isAboutOperator_skipping (f : RuleFile) (cause : RuleFile.Failure) :
    (Registry.notice .warning ("Skipping " ++ f.name ++ ": " ++ cause.message)).isAboutOperator = false := by
  simp [isAboutOperator, Registry.notice, String.toList_append, List.isPrefixOf]

theorem not_isAboutOperator_loaded (count : Nat) (path : String) :
    (Registry.loadedNotice count path).isAboutOperator = false := by
  simp [isAboutOperator, Registry.loadedNotice, Registry.notice, String.toList_append, List.isPrefixOf]

/-- Of the notices about rules all are warnings about operators. -/
theorem filter_notices (rs : List Rule) : (rs.flatMap Rule.notices).filter isAboutOperator = rs.flatMap Rule.warnings := by
  have hnotices : Rule.notices = Rule.warnings := funext Rule.notices_eq_warnings
  rw [hnotices, List.filter_eq_self]
  intro notice hmem
  obtain ⟨r, -, hnotice⟩ := List.mem_flatMap.1 hmem
  obtain ⟨n, -, rfl⟩ := List.mem_map.1 hnotice
  exact isAboutOperator_warning r n

end Notice

/-- Of what a scan has to say about an entry, the warnings about its rules are about operators. -/
theorem Folder.Entry.filter_notices (e : Folder.Entry) :
    e.notices.filter Notice.isAboutOperator = e.rules.flatMap Rule.warnings := by
  cases e with
  | folder name => rfl
  | file f =>
    rw [notices, List.filter_append, Notice.filter_notices, rules]
    cases f.read.failure.filter (·.isSkipped) with
    | none => simp
    | some cause => simp [Notice.not_isAboutOperator_skipping]

namespace Registry

/-- A load accepts some rules: it adds them to the registry, whether or not it comes to its end, and warns about each node of them
with an unknown operator, rule by rule. -/
structure Accepts (g : Registry) (loading : Loading) (rs : List Rule) : Prop where
  registry : loading.registry = g.addAll rs
  warnings : loading.notices.filter Notice.isAboutOperator = rs.flatMap Rule.warnings

/-- The rules that loading a file reads. -/
def rulesAt (folder : Folder) (name : String) : List Rule :=
  match folder.place name with
  | .file f => f.read.rules
  | _ => []

/-- The rules that loading a source reads. -/
def rulesOf : Option RuleSource → List Rule
  | some (.folder folder) => folder.rulesReached
  | some .bundled => Bundled.rules
  | _ => []

/-- Loading a file accepts the rules that it reads. -/
theorem accepts_loadFile (g : Registry) (folder : Folder) (name : String) :
    g.Accepts (g.loadFile folder name) (rulesAt folder name) := by
  unfold loadFile rulesAt
  cases folder.place name with
  | file f => exact ⟨rfl, Notice.filter_notices f.read.rules⟩
  | within | around | nothing | nameTooLong => exact ⟨rfl, rfl⟩

/-- Loading a source accepts the rules that are read of it. -/
theorem accepts_loadAll (g : Registry) (source : Option RuleSource) : g.Accepts (g.loadAll source) (rulesOf source) := by
  rcases source with - | source
  · exact ⟨rfl, rfl⟩
  · cases source with
    | absent path => exact ⟨rfl, rfl⟩
    | bundled =>
      have hwarnings : Bundled.rules.flatMap Rule.warnings = [] := by decide +kernel
      refine ⟨rfl, ?_⟩
      rw [rulesOf, hwarnings, loadAll]
      simp [Notice.not_isAboutOperator_loaded]
    | folder folder =>
      refine ⟨loadAll_folder_registry g folder, ?_⟩
      have hentries : (folder.reached.flatMap Folder.Entry.notices).filter Notice.isAboutOperator =
          folder.rulesReached.flatMap Rule.warnings := by
        simp only [List.filter_flatMap, Folder.Entry.filter_notices, Folder.rulesReached, List.flatMap_assoc]
      rw [loadAll_folder_notices, List.filter_append, hentries, rulesOf]
      split
      · simp [Notice.not_isAboutOperator_loaded]
      · simp

/-- The warnings about unknown operators at loading agree with evaluation. Loading a file or a source accepts the rules that it
reads, with one warning for each node of them with an unknown operator, in the order of the walk. Those operators are the ones
that no condition can be applied with, and what evaluation with any facts, all of them or some, reports of an unknown operator
names a node that was warned about; so a rule without warnings has none reported. -/
theorem unknownOperators_agree (g : Registry) :
    (∀ folder name, g.Accepts (g.loadFile folder name) (rulesAt folder name)) ∧
      (∀ source, g.Accepts (g.loadAll source) (rulesOf source)) ∧
      (∀ (c : Condition) (fact : Value),
        (∃ o, c.apply fact = .ok o ∧ o.problem = some .unknownOperator) ↔ c.HasUnknownOperator) ∧
      (∀ loading rs, g.Accepts loading rs → ∀ r ∈ rs, ∀ facts, ∀ d ∈ r.tree.diagnosticsOn facts,
        d.problem.kind = .unknownOperator → ∃ n ∈ r.tree.misnamed, d.nodeId = some n.id ∧ r.warning n ∈ loading.notices) ∧
      ∀ (r : Rule) (facts : Value), r.warnings = [] → ∀ d ∈ r.tree.diagnosticsOn facts, d.problem.kind ≠ .unknownOperator := by
  refine ⟨g.accepts_loadFile, g.accepts_loadAll, Condition.apply_unknown_iff, ?_, ?_⟩
  · intro loading rs haccepts r hr facts d hd hkind
    obtain ⟨n, hn, hid⟩ := Node.exists_misnamed_of_mem_diagnosticsOn hd hkind
    have hwarning : r.warning n ∈ rs.flatMap Rule.warnings := List.mem_flatMap.2 ⟨r, hr, List.mem_map_of_mem hn⟩
    rw [← haccepts.warnings] at hwarning
    exact ⟨n, hn, hid, (List.mem_filter.1 hwarning).1⟩
  · intro r facts hnone d hd hkind
    obtain ⟨n, hn, -⟩ := Node.exists_misnamed_of_mem_diagnosticsOn hd hkind
    have hmisnamed : r.tree.misnamed = [] := List.map_eq_nil_iff.1 hnone
    rw [hmisnamed] at hn
    exact nomatch hn

end Registry

/-! ## A rule with unknown operators -/

namespace Misspelt

/-- A leaf. -/
def leaf (id : String) : Node := .leaf ⟨⟨id, none, none, [], none⟩, "done", .compliant, [], none⟩

/-- A question about the capital, asked with an operator of some name. -/
def question (id op : String) (whenTrue whenFalse : Node) : Node :=
  .condition ⟨id, none, none, [], none⟩ ⟨"capital", op, .int 5⟩ none whenTrue whenFalse

/-- A tree with an unknown operator at its root and with another one within a group, below a known one. -/
def tree : Node :=
  question "q1" "above" (leaf "yes")
    (.group ⟨"g", none, none, [], none⟩ [question "q2" "gt" (question "q3" "GT" (leaf "a") (leaf "b")) (leaf "c")] "q2" none)

/-- A rule with the tree. -/
def rule : Rule := ⟨"m", "1.0", "M", none, ⟨"EU", "F", none, none, [], []⟩, tree⟩

/-- A load that comes to the rule. -/
def loading : Registry.Loading := ⟨.ok [rule], ({} : Registry).addAll [rule], rule.notices⟩

/-- What is reported at the root. -/
def diagnostic : Diagnostic := ⟨.unknownOperator, some "q1", "capital", "above"⟩

end Misspelt

namespace Registry

/-- The two nodes are warned about, and the one that evaluation reports is one of them. -/
theorem unknownOperators_agree_misspelt :
    ({} : Registry).Accepts Misspelt.loading [Misspelt.rule] ∧ Misspelt.rule.tree.misnamed.map Node.id = ["q1", "q3"] ∧
      Misspelt.diagnostic ∈ Misspelt.rule.tree.diagnosticsOn (.mapping []) ∧ Misspelt.diagnostic.problem.kind = .unknownOperator ∧
      ∃ n ∈ Misspelt.rule.tree.misnamed,
        Misspelt.diagnostic.nodeId = some n.id ∧ Misspelt.rule.warning n ∈ Misspelt.loading.notices := by
  have haccepts : ({} : Registry).Accepts Misspelt.loading [Misspelt.rule] :=
    ⟨rfl, by simpa [Misspelt.loading] using Notice.filter_notices [Misspelt.rule]⟩
  have hreported : Misspelt.diagnostic ∈ Misspelt.rule.tree.diagnosticsOn (.mapping []) := by decide +kernel
  obtain ⟨-, -, -, hagree, -⟩ := unknownOperators_agree {}
  refine ⟨haccepts, by decide +kernel, hreported, rfl, ?_⟩
  exact hagree Misspelt.loading [Misspelt.rule] haccepts Misspelt.rule (List.mem_singleton_self _) (.mapping []) _ hreported rfl

end Registry

end RegulatoryTrees
