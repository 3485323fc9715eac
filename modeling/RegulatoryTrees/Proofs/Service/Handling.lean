import RegulatoryTrees.Proofs.Outcome
import RegulatoryTrees.Service.State

/-!
# Handling a request, part by part

`Ensures` tells what a part of a handling does with the service: what holds before it, what holds when it yields a value, and what
holds when it ends the handling. `IgnoresCache` tells that a part neither reads nor writes the cache. Both go from the parts of a
handling to the whole.
-/

namespace RegulatoryTrees

namespace Handling

variable {α β : Type}

/-! ## Results -/

/-- One part after the other is the first and then the next. -/
theorem bind_eq (first : Handling α) (next : α → Handling β) : (first >>= next) = first.andThen next := rfl

/-- A part that ends the handling leaves what follows it undone. -/
theorem bind_of_error {first : Handling α} {s : Service} {response : Response} (h : (first s).result = .error response)
    (next : α → Handling β) : (first >>= next) s = ⟨.error response, (first s).service, (first s).notices⟩ := by
  rw [bind_eq, andThen]
  simp only [h]

/-- What follows a part goes on with its value and the service after it. -/
theorem bind_of_ok {first : Handling α} {s : Service} {x : α} (h : (first s).result = .ok x) (next : α → Handling β) :
    (first >>= next) s = ⟨(next x (first s).service).result, (next x (first s).service).service,
      (first s).notices ++ (next x (first s).service).notices⟩ := by
  rw [bind_eq, andThen]
  simp only [h]

/-- The result of two parts is that of the second one after the first. -/
theorem result_bind (first : Handling α) (next : α → Handling β) (s : Service) :
    ((first >>= next) s).result = (first s).result >>= fun x => (next x (first s).service).result := by
  cases h : (first s).result with
  | error response => rw [bind_of_error h, Except.error_bind]
  | ok x => rw [bind_of_ok h, Except.ok_bind]

/-! ## What a part ensures -/

/-- From a service with `P` on, a part leaves one with `Q` for the value that it yields, or one with `E` where it ends the
handling. -/
def Ensures (P : Service → Prop) (h : Handling α) (Q : α → Service → Prop) (E : Service → Prop) : Prop :=
  ∀ s, P s → (∀ x, (h s).result = .ok x → Q x (h s).service) ∧ ∀ response, (h s).result = .error response → E (h s).service

namespace Ensures

variable {P P' : Service → Prop} {Q Q' : α → Service → Prop} {R : β → Service → Prop} {E : Service → Prop}

/-- One part after the other. -/
theorem bind {first : Handling α} {next : α → Handling β} (hfirst : Ensures P first Q E)
    (hnext : ∀ x, Ensures (Q x) (next x) R E) : Ensures P (first >>= next) R E := by
  intro s hs
  obtain ⟨hok, herror⟩ := hfirst s hs
  cases h : (first s).result with
  | error response =>
    rw [bind_of_error h]
    exact ⟨nofun, fun _ _ => herror response h⟩
  | ok x =>
    rw [bind_of_ok h]
    exact hnext x _ (hok x h)

/-- A part ensures less from a service with more. -/
theorem weaken {h : Handling α} (hh : Ensures P h Q E) (hP : ∀ s, P' s → P s) (hQ : ∀ x s, Q x s → Q' x s) :
    Ensures P' h Q' E := by
  intro s hs
  obtain ⟨hok, herror⟩ := hh s (hP s hs)
  exact ⟨fun x hx => hQ x _ (hok x hx), herror⟩

/-- A value leaves the service as it is. -/
theorem pure (x : α) (hx : ∀ s, P s → Q x s) : Ensures P (Pure.pure x) Q E :=
  fun s hs => ⟨fun _ heq => Except.ok.inj heq ▸ hx s hs, nofun⟩

theorem stop (response : Response) (hE : ∀ s, P s → E s) : Ensures P (Handling.stop response) Q E :=
  fun s hs => ⟨nofun, fun _ _ => hE s hs⟩

/-- What is given or a response in its place leaves the service as it is. -/
theorem orStop (r : Except Response α) (hE : ∀ s, P s → E s) : Ensures P (Handling.orStop r) (fun x s => r = .ok x ∧ P s) E :=
  fun s hs => ⟨fun _ hx => ⟨hx, hs⟩, fun _ _ => hE s hs⟩

theorem note (notices : List Notice) : Ensures P (Handling.note notices) (fun _ => P) E :=
  fun _ hs => ⟨fun _ _ => hs, nofun⟩

theorem current : Ensures P Handling.current (fun _ => P) E :=
  fun _ hs => ⟨fun _ _ => hs, nofun⟩

/-- A change of the service ensures what holds after it. -/
theorem change (f : Service → Service) (hf : ∀ s, P s → P' (f s)) : Ensures P (Handling.change f) (fun _ => P') E :=
  fun s hs => ⟨fun _ _ => hf s hs, nofun⟩

/-- Asking the cache ensures what holds with the cache after it. -/
theorem askCache {question : EvaluationCache → EvaluationCache.Reply α}
    (hc : ∀ s, P s → P' { s with cache := (question s.cache).cache }) :
    Ensures P (Handling.askCache question) (fun _ => P') E :=
  fun s hs => ⟨fun _ _ => hc s hs, nofun⟩

end Ensures

/-! ## Parts that have nothing to do with the cache -/

/-- A part neither reads nor writes the cache: with another cache it does the same and leaves that one as it is. -/
def IgnoresCache (h : Handling α) : Prop :=
  ∀ s c, h { s with cache := c } = ⟨(h s).result, { (h s).service with cache := c }, (h s).notices⟩

namespace IgnoresCache

/-- One part after the other, where only the values count that the first one yields. -/
theorem bind {first : Handling α} {next : α → Handling β} (hfirst : IgnoresCache first)
    (hnext : ∀ s x, (first s).result = .ok x → IgnoresCache (next x)) : IgnoresCache (first >>= next) := by
  intro s c
  have hs := hfirst s c
  cases h : (first s).result with
  | error response =>
    have h' : (first { s with cache := c }).result = .error response := by rw [hs, h]
    rw [bind_of_error h, bind_of_error h', hs]
  | ok x =>
    have h' : (first { s with cache := c }).result = .ok x := by rw [hs, h]
    rw [bind_of_ok h, bind_of_ok h', hs, hnext s x h]

theorem pure (x : α) : IgnoresCache (Pure.pure x) := fun _ _ => rfl

theorem stop (response : Response) : IgnoresCache (Handling.stop (α := α) response) := fun _ _ => rfl

theorem orStop (r : Except Response α) : IgnoresCache (Handling.orStop r) := fun _ _ => rfl

theorem note (notices : List Notice) : IgnoresCache (Handling.note notices) := fun _ _ => rfl

/-- A look at something else than the cache. -/
theorem current {next : Service → Handling β} (hnext : ∀ s, IgnoresCache (next s))
    (hsame : ∀ (s : Service) c, next { s with cache := c } = next s) : IgnoresCache (Handling.current >>= next) := by
  intro s c
  have h : (Handling.current >>= next) { s with cache := c } = next s { s with cache := c } := by
    rw [bind_of_ok (s := { s with cache := c }) rfl, ← hsame s c]
    rfl
  rw [h, hnext s s c]
  rfl

end IgnoresCache

end Handling

end RegulatoryTrees
