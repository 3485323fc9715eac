import RegulatoryTrees.Digest
import RegulatoryTrees.Evaluation
import RegulatoryTrees.Placement
import RegulatoryTrees.Value.Rendering

/-!
# Remembered evaluations

A cache has one slot for each key, which holds the last evaluation under the key and the hash of the facts it was made for. A
slot answers for facts with the same hash and no others. Facts that have no canonical text are never remembered.
-/

namespace RegulatoryTrees

/-- The hash of the canonical text of facts. -/
def Value.hash (facts : Value) : Except Rendering.Failure String := facts.canonicalText.map Digest.ofText

/-- What is remembered under a key. -/
structure CacheSlot where
  key : String
  factHash : String
  evaluation : Evaluation

/-- A cache of evaluations: its slots, in the order in which their keys came in, and how often it was asked with and without
success. -/
structure EvaluationCache where
  slots : List CacheSlot := []
  hits : Nat := 0
  misses : Nat := 0

namespace EvaluationCache

/-- What an operation answers, the cache after it, and the notices given. -/
structure Reply (α : Type) where
  answer : α
  cache : EvaluationCache
  notices : List Notice

/-- A notice of the cache. -/
def notice (message : String) : Notice := ⟨.debug, "compliance_engine.rules.cache", message⟩

/-- The notice that facts cannot be remembered. -/
def unhashable (key : String) (cause : Rendering.Failure) : Notice :=
  notice ("Facts for " ++ key ++ " are not cacheable: " ++ cause.message)

/-- The slot of a key. -/
def slot? (c : EvaluationCache) (key : String) : Option CacheSlot := c.slots.find? (·.key == key)

/-- A key has a slot. -/
def contains (c : EvaluationCache) (key : String) : Bool := c.slots.any (·.key == key)

/-- The keys that have slots. -/
def keys (c : EvaluationCache) : List String := c.slots.map CacheSlot.key

/-- The number of slots. -/
def size (c : EvaluationCache) : Nat := c.slots.length

/-- The evaluation remembered under a key for facts with a hash. -/
def remembered? (c : EvaluationCache) (key factHash : String) : Option Evaluation :=
  (c.slot? key).bind fun slot => if slot.factHash = factHash then some slot.evaluation else none

/-- Ask for the evaluation of facts under a key. -/
def get (c : EvaluationCache) (key : String) (facts : Value) : Reply (Option Evaluation) :=
  let missed := { c with misses := c.misses + 1 }
  let miss := notice ("Evaluation cache miss for " ++ key)
  match facts.hash with
  | .error cause => ⟨none, missed, [unhashable key cause, miss]⟩
  | .ok factHash =>
    match c.remembered? key factHash with
    | some e => ⟨some e, { c with hits := c.hits + 1 }, [notice ("Evaluation cache hit for " ++ key)]⟩
    | none => ⟨none, missed, [miss]⟩

/-- Remember an evaluation of facts under a key. -/
def put (c : EvaluationCache) (key : String) (facts : Value) (e : Evaluation) : Reply Unit :=
  match facts.hash with
  | .error cause => ⟨(), c, [unhashable key cause]⟩
  | .ok factHash => ⟨(), { c with slots := placeBy CacheSlot.key ⟨key, factHash, e⟩ c.slots }, []⟩

/-- Forget what is remembered under a key, and say whether there was something. -/
def invalidate (c : EvaluationCache) (key : String) : Reply Bool :=
  ⟨c.contains key, { c with slots := c.slots.filter (·.key != key) }, []⟩

/-- Forget everything, and say how much there was. -/
def clear (c : EvaluationCache) : Reply Nat := ⟨c.size, {}, []⟩

/-- Evaluate a tree, by the cache where it has the answer. The evaluation is remembered under the key unless it fails. -/
def evaluate (c : EvaluationCache) (key : String) (tree : Node) (facts : Value) :
    Reply (Except Evaluation.Failure Evaluation) :=
  let asked := c.get key facts
  match asked.answer with
  | some e => ⟨.ok e, asked.cache, asked.notices⟩
  | none =>
    let outcome := tree.evaluate facts
    let name := if key.isEmpty then tree.id else key
    let seen := asked.notices ++ Evaluation.notices name outcome
    match outcome with
    | .ok e =>
      let stored := asked.cache.put key facts e
      ⟨.ok e, stored.cache, seen ++ stored.notices⟩
    | .error failure => ⟨.error failure, asked.cache, seen⟩

end EvaluationCache

end RegulatoryTrees
