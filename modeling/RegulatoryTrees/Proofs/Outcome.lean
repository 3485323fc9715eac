/-!
# Results and failures

How steps that may fail open: a chain of steps gives a result exactly when each step gives one, also along a list, and
renaming failures keeps results as they are. Two chains correspond step by step (`Except.Related`).
-/

namespace RegulatoryTrees

variable {ε ε' φ φ' α β γ δ : Type}

@[simp] theorem Except.ok_bind (x : α) (f : α → Except ε β) : (Except.ok x >>= f) = f x := rfl

@[simp] theorem Except.error_bind (e : ε) (f : α → Except ε β) : (Except.error e >>= f) = .error e := rfl

@[simp] theorem Except.map_ok (f : α → β) (x : α) : f <$> (Except.ok x : Except ε α) = .ok (f x) := rfl

@[simp] theorem Except.map_error (f : α → β) (e : ε) : f <$> (Except.error e : Except ε α) = .error e := rfl

@[simp] theorem Except.mapError_ok (f : ε → ε') (x : α) : (Except.ok x : Except ε α).mapError f = .ok x := rfl

@[simp] theorem Except.mapError_error (f : ε → ε') (e : ε) : (Except.error e : Except ε α).mapError f = .error (f e) := rfl

/-- A step and what follows it give a result when the step gives one and what follows gives the result from it. -/
theorem Except.bind_eq_ok {x : Except ε α} {f : α → Except ε β} {y : β} :
    (x >>= f) = .ok y ↔ ∃ a, x = .ok a ∧ f a = .ok y := by
  cases x <;> simp

/-- A chain fails where its first step fails, or where what follows fails from the result of that step. -/
theorem Except.bind_eq_error {x : Except ε α} {f : α → Except ε β} {e : ε} :
    (x >>= f) = .error e ↔ x = .error e ∨ ∃ a, x = .ok a ∧ f a = .error e := by
  cases x <;> simp

/-- A result comes from a value if it is the image of one. -/
theorem Except.map_eq_ok {x : Except ε α} {f : α → β} {y : β} : f <$> x = .ok y ↔ ∃ a, x = .ok a ∧ f a = y := by
  cases x <;> simp

/-- Renaming failures gives no results and takes none away. -/
theorem Except.mapError_eq_ok {x : Except ε α} {f : ε → ε'} {y : α} : x.mapError f = .ok y ↔ x = .ok y := by
  cases x <;> simp

/-- A renamed failure is a failure with another name. -/
theorem Except.mapError_eq_error {x : Except ε α} {f : ε → ε'} {e : ε'} :
    x.mapError f = .error e ↔ ∃ e', x = .error e' ∧ f e' = e := by
  cases x <;> simp

/-- Steps that give results one by one give them along a list. -/
theorem Except.mapM_eq_ok_map {f : α → Except ε β} {g : α → β} {xs : List α} (h : ∀ x ∈ xs, f x = .ok (g x)) :
    xs.mapM f = .ok (xs.map g) := by
  induction xs with
  | nil => rfl
  | cons x xs ih =>
    rw [List.mapM_cons, h x List.mem_cons_self, ih fun y hy => h y (List.mem_cons_of_mem x hy)]
    rfl

/-- Steps that come to the same one by one come to the same along a list. -/
theorem Except.mapM_congr {f g : α → Except ε β} {xs : List α} (h : ∀ x ∈ xs, f x = g x) : xs.mapM f = xs.mapM g := by
  induction xs with
  | nil => rfl
  | cons x xs ih =>
    rw [List.mapM_cons, List.mapM_cons, h x List.mem_cons_self, ih fun y hy => h y (List.mem_cons_of_mem x hy)]

/-- A chain gives a result if its first step does and what follows does from every such result. -/
theorem Except.exists_bind_eq_ok {x : Except ε α} {f : α → Except ε β} {P : α → Prop} {Q : β → Prop}
    (hx : ∃ a, x = .ok a ∧ P a) (hf : ∀ a, P a → ∃ b, f a = .ok b ∧ Q b) : ∃ b, (x >>= f) = .ok b ∧ Q b := by
  obtain ⟨a, rfl, ha⟩ := hx
  exact hf a ha

/-- Steps that each give a result give results along a list. -/
theorem Except.exists_mapM_eq_ok {f : α → Except ε β} {xs : List α} (h : ∀ x ∈ xs, ∃ y, f x = .ok y) :
    ∃ ys, xs.mapM f = .ok ys := by
  induction xs with
  | nil => exact ⟨[], rfl⟩
  | cons x xs ih =>
    obtain ⟨y, hy⟩ := h x List.mem_cons_self
    obtain ⟨ys, hys⟩ := ih fun z hz => h z (List.mem_cons_of_mem x hz)
    exact ⟨y :: ys, by rw [List.mapM_cons, hy, hys]; rfl⟩

/-- Steps that each give a result of a kind give results of that kind along a list. -/
theorem Except.exists_mapM_eq_ok_forall {f : α → Except ε β} {P : β → Prop} {xs : List α}
    (h : ∀ x ∈ xs, ∃ y, f x = .ok y ∧ P y) : ∃ ys, xs.mapM f = .ok ys ∧ ∀ y ∈ ys, P y := by
  induction xs with
  | nil => exact ⟨[], rfl, fun y hy => absurd hy List.not_mem_nil⟩
  | cons x xs ih =>
    rw [List.mapM_cons]
    refine Except.exists_bind_eq_ok (h x List.mem_cons_self) fun y hy => ?_
    refine Except.exists_bind_eq_ok (ih fun z hz => h z (List.mem_cons_of_mem x hz)) fun ys hys => ?_
    exact ⟨y :: ys, rfl, List.forall_mem_cons.2 ⟨hy, hys⟩⟩

/-- Results along a list are results of each step. -/
theorem Except.exists_ok_of_mapM {f : α → Except ε β} {xs : List α} {ys : List β} (h : xs.mapM f = .ok ys) :
    ∀ x ∈ xs, ∃ y, f x = .ok y := by
  induction xs generalizing ys with
  | nil => simp
  | cons x xs ih =>
    rw [List.mapM_cons] at h
    obtain ⟨y, hy, h⟩ := Except.bind_eq_ok.1 h
    obtain ⟨rest, hrest, -⟩ := Except.bind_eq_ok.1 h
    intro z hz
    rcases List.mem_cons.1 hz with rfl | hz
    · exact ⟨y, hy⟩
    · exact ih hrest z hz

/-! ## Outcomes that correspond -/

/-- Two outcomes correspond: both are results, of which one relation holds, or both are failures, of which the other does. -/
inductive Except.Related (E : ε → ε' → Prop) (R : α → β → Prop) : Except ε α → Except ε' β → Prop where
  | ok {x : α} {y : β} (h : R x y) : Except.Related E R (.ok x) (.ok y)
  | error {e : ε} {e' : ε'} (h : E e e') : Except.Related E R (.error e) (.error e')

namespace Except.Related

variable {E : ε → ε' → Prop} {R : α → β → Prop} {x : Except ε α} {y : Except ε' β}

/-- An outcome corresponds to itself. -/
theorem refl {R : α → α → Prop} (hR : ∀ a, R a a) (x : Except ε α) : Except.Related Eq R x x := by
  cases x with
  | ok a => exact .ok (hR a)
  | error e => exact .error rfl

/-- Chains correspond when their first steps do and what follows does from corresponding results. -/
theorem bind {S : γ → δ → Prop} {f : α → Except ε γ} {g : β → Except ε' δ} (h : Except.Related E R x y)
    (hf : ∀ a b, R a b → Except.Related E S (f a) (g b)) : Except.Related E S (x >>= f) (y >>= g) := by
  cases h with
  | ok hab => exact hf _ _ hab
  | error he => exact .error he

/-- Outcomes that are related stay so when functions that respect the relation are applied to their values. -/
theorem map {S : γ → δ → Prop} {f : α → γ} {g : β → δ} (h : Except.Related E R x y)
    (hf : ∀ a b, R a b → S (f a) (g b)) : Except.Related E S (f <$> x) (g <$> y) := by
  cases h with
  | ok hab => exact .ok (hf _ _ hab)
  | error he => exact .error he

theorem mapError {F : φ → φ' → Prop} {f : ε → φ} {g : ε' → φ'} (h : Except.Related E R x y)
    (hf : ∀ e e', E e e' → F (f e) (g e')) : Except.Related F R (x.mapError f) (y.mapError g) := by
  cases h with
  | ok hab => exact .ok hab
  | error he => exact .error (hf _ _ he)

end Except.Related

end RegulatoryTrees
