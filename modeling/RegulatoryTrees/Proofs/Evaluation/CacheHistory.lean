import Mathlib.Data.List.DropRight
import RegulatoryTrees.Proofs.Evaluation.Cache
import RegulatoryTrees.Proofs.Placement

/-!
# A cache is what its history says

A history lists the calls of a cache, each with the cache that it was made on. Some calls put an evaluation, some drop what was put
under a key or under all keys. The slots of a cache are the puts of its history that nothing dropped later (`kept`), placed one after
the other, and its counts are those of the lookups since it was last cleared (`reflects_afterCalls`).
-/

namespace RegulatoryTrees

/-! ## Calls and histories -/

/-- A call of a cache. A key may be used with any trees, and an evaluation may also be put directly. -/
inductive CacheCall where
  | get (key : String) (facts : Value)
  | put (key : String) (facts : Value) (evaluation : Evaluation)
  | invalidate (key : String)
  | clear
  | evaluate (key : String) (tree : Node) (facts : Value)

namespace CacheCall

/-- The cache after a call. -/
def apply (c : EvaluationCache) : CacheCall → EvaluationCache
  | .get key facts => (c.get key facts).cache
  | .put key facts e => (c.put key facts e).cache
  | .invalidate key => (c.invalidate key).cache
  | .clear => c.clear.cache
  | .evaluate key tree facts => (c.evaluate key tree facts).cache

/-- A call drops what was put under a key. -/
def drops (key : String) : CacheCall → Bool
  | .invalidate other => key == other
  | .clear => true
  | _ => false

/-- The key and the facts that a call looks up. -/
def lookup? : CacheCall → Option (String × Value)
  | .get key facts | .evaluate key _ facts => some (key, facts)
  | _ => none

end CacheCall

/-- The slot for an evaluation of facts under a key, if the facts have a hash. -/
def CacheSlot.of? (key : String) (facts : Value) (e : Evaluation) : Option CacheSlot :=
  facts.hash.toOption.map fun factHash => ⟨key, factHash, e⟩

/-- A call together with the cache it is made on. -/
structure CacheEvent where
  cache : EvaluationCache
  call : CacheCall

namespace CacheEvent

/-- Something is looked up, and the cache answers. -/
def isHit (m : CacheEvent) : Bool := m.call.lookup?.any fun (key, facts) => (m.cache.get key facts).answer.isSome

/-- What is put, directly or by an evaluation that is not answered from the cache and does not fail. Facts without a hash put
nothing. -/
def put? (m : CacheEvent) : Option CacheSlot :=
  match m.call with
  | .put key facts e => CacheSlot.of? key facts e
  | .evaluate key tree facts => if m.isHit then none else (tree.evaluate facts).toOption.bind (CacheSlot.of? key facts)
  | _ => none

end CacheEvent

namespace EvaluationCache

/-- Some calls, each with the cache it is made on. -/
def history (c : EvaluationCache) : List CacheCall → List CacheEvent
  | [] => []
  | call :: rest => ⟨c, call⟩ :: history (call.apply c) rest

/-- What was put in a history and not dropped later, in the order in which it was put. -/
def kept : List CacheEvent → List CacheSlot
  | [] => []
  | m :: later => (m.put?.filter fun slot => !later.any fun n => n.call.drops slot.key).toList ++ kept later

section Kept

variable {h : List CacheEvent} {slot : CacheSlot}

end Kept

/-! ## What one call does -/

section Call

variable (c : EvaluationCache) (key : String) (tree : Node) (facts : Value) (e : Evaluation)

end Call

/-! ## What any call does -/

end EvaluationCache

/-! ## Licences remembered -/

namespace Licence

/-- Facts that have no hash. -/
def held : Value := .record [("licence", .sequence .set [.text "A1", .text "B2"])]

/-- A tree that takes no part in evaluation. -/
def kinds : Node := .router (header "kinds") []

end Licence

namespace EvaluationCache

end EvaluationCache

end RegulatoryTrees
