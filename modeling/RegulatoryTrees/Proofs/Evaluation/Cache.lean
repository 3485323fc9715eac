import RegulatoryTrees.Evaluation.Cache
import RegulatoryTrees.Proofs.Evaluation.KeyOrder
import RegulatoryTrees.Proofs.Json.RoundTrip
import RegulatoryTrees.Proofs.Placement
import RegulatoryTrees.Proofs.Tree.Walk

/-!
# A cache only saves work

Whatever is asked of a cache whose keys stand for trees, each of its slots holds the evaluation, by the tree of its key, of facts
that were evaluated before and have the hash in the slot (`Remembers`). So as long as the digest tells the canonical texts of the
facts apart, an evaluation by the cache answers what the tree answers, up to the order of keys (`evaluate_transparent`).
-/

namespace RegulatoryTrees

/-- The digest tells the canonical texts of some facts apart. -/
def NoCollision (facts : List Value) : Prop :=
  ∀ f ∈ facts, ∀ g ∈ facts, ∀ a b, f.canonicalText = .ok a → g.canonicalText = .ok b → Digest.ofText a = Digest.ofText b → a = b

/-- Fewer facts collide no more. -/
theorem NoCollision.mono {facts facts' : List Value} (h : NoCollision facts) (hsub : ∀ f ∈ facts', f ∈ facts) :
    NoCollision facts' :=
  fun f hf g hg => h f (hsub f hf) g (hsub g hg)

/-- Plain facts with one hash are the same up to the order of keys. -/
theorem NoCollision.sorted_eq {facts : List Value} (h : NoCollision facts) {f g : Value} (hf : f ∈ facts) (hg : g ∈ facts)
    (hpf : f.IsPlain) (hpg : g.IsPlain) {factHash : String} (hhf : f.hash = .ok factHash) (hhg : g.hash = .ok factHash) :
    f.sorted = g.sorted := by
  obtain ⟨a, ha, rfl⟩ := Except.map_eq_ok.1 hhf
  obtain ⟨b, hb, heq⟩ := Except.map_eq_ok.1 hhg
  have hab := h f hf g hg a b ha hb heq.symm
  exact Value.sorted_eq_of_canonicalText_eq hpf hpg ha (hab ▸ hb)

namespace EvaluationCache

/-- What is remembered is true: every slot holds the evaluation, by the tree of its key, of facts that were asked about and have
the hash in the slot. -/
def Remembers (treeOf : String → Option Node) (asked : List Value) (c : EvaluationCache) : Prop :=
  ∀ slot ∈ c.slots, ∃ tree, treeOf slot.key = some tree ∧
    ∃ g ∈ asked, g.hash = .ok slot.factHash ∧ tree.evaluate g = .ok slot.evaluation

/-! ## Slots -/

/-- Asking a cache changes none of its slots. -/
theorem get_slots (c : EvaluationCache) (key : String) (facts : Value) : (c.get key facts).cache.slots = c.slots := by
  rw [get]
  cases facts.hash with
  | error cause => rfl
  | ok factHash => cases hr : c.remembered? key factHash <;> simp [hr]

/-- The answer is what is remembered for the hash of the facts. -/
theorem get_answer_eq_some {c : EvaluationCache} {key : String} {facts : Value} {e : Evaluation} :
    (c.get key facts).answer = some e ↔
      ∃ slot, c.slot? key = some slot ∧ facts.hash = .ok slot.factHash ∧ slot.evaluation = e := by
  rw [get]
  cases hh : facts.hash with
  | error cause => simp
  | ok factHash =>
    cases hs : c.slot? key with
    | none => simp [remembered?, hs]
    | some slot =>
      by_cases heq : slot.factHash = factHash
      · simp [remembered?, hs, heq]
      · simp [remembered?, hs, heq, Ne.symm heq]

/-- What is remembered for facts is in the slot of the key. -/
theorem mem_of_get_eq_some {c : EvaluationCache} {key : String} {facts : Value} {e : Evaluation}
    (h : (c.get key facts).answer = some e) :
    ∃ slot ∈ c.slots, slot.key = key ∧ facts.hash = .ok slot.factHash ∧ slot.evaluation = e := by
  obtain ⟨slot, hs, hhash, heq⟩ := get_answer_eq_some.1 h
  rw [slot?] at hs
  exact ⟨slot, List.mem_of_find?_eq_some hs, by simpa using List.find?_some hs, hhash, heq⟩

/-! ## What one operation preserves -/

namespace Remembers

variable {treeOf : String → Option Node} {asked : List Value} {c : EvaluationCache}

/-- A cache without slots remembers nothing wrong. -/
theorem empty {c : EvaluationCache} (h : c.slots = []) : Remembers treeOf asked c := by
  intro slot hs
  rw [h] at hs
  exact nomatch hs

theorem mono (h : Remembers treeOf asked c) {asked' : List Value} (hsub : ∀ f ∈ asked, f ∈ asked') :
    Remembers treeOf asked' c := by
  intro slot hs
  obtain ⟨tree, ht, g, hg, hh, he⟩ := h slot hs
  exact ⟨tree, ht, g, hsub g hg, hh, he⟩

/-- Asking a cache leaves what it remembers. -/
theorem get (h : Remembers treeOf asked c) (key : String) (facts : Value) : Remembers treeOf asked (c.get key facts).cache := by
  intro slot hs
  rw [get_slots] at hs
  exact h slot hs

/-- A cache remembers an evaluation that is put into it. -/
theorem put (h : Remembers treeOf asked c) {key : String} {tree : Node} (ht : treeOf key = some tree) {facts : Value}
    {e : Evaluation} (he : tree.evaluate facts = .ok e) : Remembers treeOf (facts :: asked) (c.put key facts e).cache := by
  have hmono := h.mono fun f hf => List.mem_cons_of_mem facts hf
  rw [EvaluationCache.put]
  cases hh : facts.hash with
  | error cause => exact hmono
  | ok factHash =>
    intro slot hs
    rcases mem_placeBy hs with rfl | hs
    · exact ⟨tree, ht, facts, List.mem_cons_self, hh, he⟩
    · exact hmono slot hs

/-- Forgetting a tree leaves what is remembered of the others. -/
theorem invalidate (h : Remembers treeOf asked c) (key : String) : Remembers treeOf asked (c.invalidate key).cache :=
  fun slot hs => h slot (List.mem_filter.1 hs).1

/-- An evaluation is either answered from a slot or made and remembered. -/
theorem evaluate (h : Remembers treeOf asked c) {key : String} {tree : Node} (ht : treeOf key = some tree) (facts : Value) :
    Remembers treeOf (facts :: asked) (c.evaluate key tree facts).cache := by
  have hget := h.get key facts
  have hmono := hget.mono fun f hf => List.mem_cons_of_mem facts hf
  rw [EvaluationCache.evaluate]
  dsimp only
  cases ha : (c.get key facts).answer with
  | some e => exact hmono
  | none =>
    cases he : tree.evaluate facts with
    | error f => exact hmono
    | ok e => exact hget.put ht he

/-- An evaluation answers what the tree answers for the facts, or for others with the same hash that were asked about. -/
theorem answer (h : Remembers treeOf asked c) {key : String} {tree : Node} (ht : treeOf key = some tree) (facts : Value) :
    (c.evaluate key tree facts).answer = tree.evaluate facts ∨
      ∃ g ∈ asked, ∃ factHash, g.hash = .ok factHash ∧ facts.hash = .ok factHash ∧
        (c.evaluate key tree facts).answer = tree.evaluate g := by
  cases ha : (c.get key facts).answer with
  | none =>
    left
    rw [EvaluationCache.evaluate]
    simp only [ha]
    cases tree.evaluate facts <;> rfl
  | some e =>
    right
    obtain ⟨slot, hs, rfl, hhash, rfl⟩ := mem_of_get_eq_some ha
    obtain ⟨tree', ht', g, hg, hh, he⟩ := h slot hs
    obtain rfl : tree' = tree := Option.some.inj (ht'.symm.trans ht)
    refine ⟨g, hg, slot.factHash, hh, hhash, ?_⟩
    rw [EvaluationCache.evaluate, he]
    simp only [ha]

/-- An evaluation answers what the tree answers, up to the order of keys, if the digest tells the facts apart. -/
theorem sorted_answer (h : Remembers treeOf asked c) {key : String} {tree : Node} (ht : treeOf key = some tree) {facts : Value}
    (hplain : ∀ f ∈ facts :: asked, f.IsPlain) (hcollision : NoCollision (facts :: asked)) :
    Evaluation.sorted <$> (c.evaluate key tree facts).answer = Evaluation.sorted <$> tree.evaluate facts := by
  rcases h.answer ht facts with heq | ⟨g, hg, factHash, hhg, hhf, heq⟩
  · rw [heq]
  · have hmem := List.mem_cons_of_mem facts hg
    have hsame := hcollision.sorted_eq hmem List.mem_cons_self (hplain g hmem) (hplain facts List.mem_cons_self) hhg hhf
    rw [heq]
    exact evaluate_sorted_eq (hplain g hmem) (hplain facts List.mem_cons_self) hsame tree

end Remembers

end EvaluationCache

/-! ## Facts that name a licence -/

namespace Licence

/-- The facts that name a licence. -/
def issued (number : String) : Value := .record [("licence", .text number)]

theorem isPlain_issued (number : String) : (issued number).IsPlain := by
  have h : Value.IsPlain (.mapping ([("licence", Value.text number)].map Value.entryOf)) := by
    refine .mapping (List.pairwise_singleton _ _) fun f hf => ?_
    rw [List.mem_singleton.1 hf]
    exact .scalar (.text number)
  exact h

/-- The canonical text of the facts with a licence is written out. -/
theorem canonicalText_issued (number : String) :
    (issued number).canonicalText =
      .ok (String.ofList ('\x7b' :: (Rendering.quote "licence" ++ ':' :: Rendering.quote number) ++ ['\x7d'])) := by
  have h := Json.value_mapping [("licence", .text number)]
  rw [List.mergeSort_singleton] at h
  exact congrArg (String.ofList <$> ·) h

/-- The digests of the facts asked about do not collide. -/
theorem noCollision_issued : NoCollision [issued "A1", issued "A1", issued "B2"] := by
  have hne : Digest.ofText (String.ofList ('\x7b' :: (Rendering.quote "licence" ++ ':' :: Rendering.quote "A1") ++ ['\x7d'])) ≠
      Digest.ofText (String.ofList ('\x7b' :: (Rendering.quote "licence" ++ ':' :: Rendering.quote "B2") ++ ['\x7d'])) := by
    decide +kernel
  have hcases : ∀ f ∈ [issued "A1", issued "A1", issued "B2"], f = issued "A1" ∨ f = issued "B2" := by simp
  intro f hf g hg a b ha hb heq
  rcases hcases f hf with rfl | rfl <;> rcases hcases g hg with rfl | rfl <;>
    rw [canonicalText_issued, Except.ok.injEq] at ha hb <;> subst ha hb
  · rfl
  · exact absurd heq hne
  · exact absurd heq.symm hne
  · rfl

end Licence

/-! ## Runs of operations -/

/-- An operation on a cache whose keys stand for trees. -/
inductive CacheOperation where
  | evaluate (key : String) (facts : Value)
  | get (key : String) (facts : Value)
  | invalidate (key : String)
  | clear

namespace CacheOperation

/-- The facts that an operation evaluates. -/
def evaluated? : CacheOperation → Option Value
  | .evaluate _ facts => some facts
  | _ => none

/-- The cache after an operation. -/
def apply (trees : String → Node) (c : EvaluationCache) : CacheOperation → EvaluationCache
  | .evaluate key facts => (c.evaluate key (trees key) facts).cache
  | .get key facts => (c.get key facts).cache
  | .invalidate key => (c.invalidate key).cache
  | .clear => c.clear.cache

end CacheOperation

namespace EvaluationCache

/-- The cache after some operations, the first one first. -/
def run (trees : String → Node) (c : EvaluationCache) (ops : List CacheOperation) : EvaluationCache :=
  ops.foldl (CacheOperation.apply trees) c

/-- One operation keeps what is remembered true. -/
theorem Remembers.apply {trees : String → Node} {asked : List Value} {c : EvaluationCache}
    (h : Remembers (fun key => some (trees key)) asked c) (op : CacheOperation) :
    Remembers (fun key => some (trees key)) (op.evaluated?.toList ++ asked) (op.apply trees c) := by
  cases op with
  | evaluate key facts => exact h.evaluate rfl facts
  | get key facts => exact h.get key facts
  | invalidate key => exact h.invalidate key
  | clear => exact .empty rfl

/-- Some operations keep what is remembered true. -/
theorem Remembers.run {trees : String → Node} (ops : List CacheOperation) {asked : List Value} {c : EvaluationCache}
    (h : Remembers (fun key => some (trees key)) asked c) :
    Remembers (fun key => some (trees key)) (ops.filterMap CacheOperation.evaluated? ++ asked) (c.run trees ops) := by
  induction ops generalizing asked c with
  | nil => exact h
  | cons op rest ih =>
    refine (ih (h.apply op)).mono fun f hf => ?_
    cases he : op.evaluated? with
    | none => simpa [he] using hf
    | some g =>
      simp only [he, Option.toList_some, List.singleton_append, List.mem_append, List.mem_cons] at hf
      simp only [List.filterMap_cons_some he, List.cons_append, List.mem_cons, List.mem_append]
      rcases hf with hf | hf | hf
      · exact Or.inr (Or.inl hf)
      · exact Or.inl hf
      · exact Or.inr (Or.inr hf)

/-- A cache only saves work: after any operations, an evaluation under a key answers what the tree of the key answers, up to the
order of keys. -/
theorem evaluate_transparent (trees : String → Node) (ops : List CacheOperation) (key : String) (facts : Value)
    (hplain : ∀ f ∈ facts :: ops.filterMap CacheOperation.evaluated?, f.IsPlain)
    (hcollision : NoCollision (facts :: ops.filterMap CacheOperation.evaluated?)) :
    Evaluation.sorted <$> ((run trees {} ops).evaluate key (trees key) facts).answer =
      Evaluation.sorted <$> (trees key).evaluate facts := by
  have hempty : Remembers (fun key => some (trees key)) [] {} := Remembers.empty rfl
  have h := hempty.run ops
  rw [List.append_nil] at h
  exact h.sorted_answer rfl hplain hcollision

/-- After the facts of two licences were evaluated under one key, those of the first are evaluated as without a cache. -/
theorem evaluate_transparent_licence :
    Evaluation.sorted <$> ((run (fun _ => Licence.tree) {}
        [.evaluate "licence" (Licence.issued "A1"), .get "licence" (Licence.issued "C3"),
          .evaluate "licence" (Licence.issued "B2"), .invalidate "kind"]).evaluate "licence" Licence.tree (Licence.issued "A1")).answer =
      Evaluation.sorted <$> Licence.tree.evaluate (Licence.issued "A1") := by
  refine evaluate_transparent (fun _ => Licence.tree) _ "licence" _ (fun f hf => ?_) Licence.noCollision_issued
  have hmem : f ∈ [Licence.issued "A1", Licence.issued "A1", Licence.issued "B2"] := hf
  simp only [List.mem_cons, List.not_mem_nil, or_false] at hmem
  rcases hmem with rfl | rfl | rfl <;> exact Licence.isPlain_issued _

end EvaluationCache

end RegulatoryTrees
