import FixTrial.Workspace.Fault
import Mathlib.Data.List.Forall2

/-!
Reasoning about actions: how an action that returned did so, and how two actions on different states
come to the same end.
-/
namespace FixTrial

/-- The kind of fault that an exploration expects, and records. -/
def Fault.Expected (e : Fault) : Prop := ∃ we, e = .workspace we

namespace Act
variable {ω ω' α β α' β' : Type} {s s' : ω} {b : β}

/-- An action may end in a fault from some state. -/
def Raises (act : Act ω α) (e : Fault) : Prop := ∃ s s', act s = .error e s'

/-- An action may come to an answer from some state. -/
def Returns (act : Act ω α) (a : α) : Prop := ∃ s s', act s = .ok a s'

/-- The state that a run leaves, however it ends. -/
def final (r : EStateM.Result Fault ω α) : ω :=
  match r with
  | .ok _ s => s
  | .error _ s => s

theorem bind_eq_ok {x : Act ω α} {f : α → Act ω β} :
    (x >>= f) s = .ok b s' ↔ ∃ a s₁, x s = .ok a s₁ ∧ f a s₁ = .ok b s' := by
  change EStateM.bind x f s = _ ↔ _
  unfold EStateM.bind
  cases x s <;> simp

theorem bind_of_ok {x : Act ω α} {f : α → Act ω β} {a : α} {s₁ : ω} (h : x s = .ok a s₁) :
    (x >>= f) s = f a s₁ := by
  change EStateM.bind x f s = _
  rw [EStateM.bind, h]

theorem bind_of_error {x : Act ω α} {f : α → Act ω β} {e : Fault} {s₁ : ω}
    (h : x s = .error e s₁) : (x >>= f) s = .error e s₁ := by
  change EStateM.bind x f s = _
  rw [EStateM.bind, h]

theorem tryCatch_of_ok {x : Act ω α} {k : Fault → Act ω α} {a : α} {s₁ : ω}
    (h : x s = .ok a s₁) : tryCatch x k s = .ok a s₁ := by
  change EStateM.tryCatch x k s = _
  rw [EStateM.tryCatch, h]

theorem tryCatch_of_error {x : Act ω α} {k : Fault → Act ω α} {e : Fault} {s₁ : ω}
    (h : x s = .error e s₁) : tryCatch x k s = k e s₁ := by
  change EStateM.tryCatch x k s = _
  rw [EStateM.tryCatch, h]
  rfl

theorem map_eq_ok {x : Act ω α} {f : α → β} :
    (f <$> x) s = .ok b s' ↔ ∃ a, x s = .ok a s' ∧ f a = b := by
  change EStateM.map f x s = _ ↔ _
  unfold EStateM.map
  cases x s <;> simp [and_comm]

theorem modify_bind (u : ω → ω) (f : Unit → Act ω β) : (modify u >>= f) s = f () (u s) := rfl

theorem get_bind (f : ω → Act ω β) : (get >>= f) s = f s s := rfl

/-- The ends of two runs: the same fault, one that `E` allows, or answers related by `V`, and either
way states related by `R`. -/
inductive Ends (R : ω' → ω → Prop) (E : Fault → Prop) (V : α' → α → Prop) :
    EStateM.Result Fault ω' α' → EStateM.Result Fault ω α → Prop
  | ok {a' : α'} {a : α} {s' : ω'} {s : ω} (hv : V a' a) (hr : R s' s) :
      Ends R E V (.ok a' s') (.ok a s)
  | error {e : Fault} {s' : ω'} {s : ω} (he : E e) (hr : R s' s) :
      Ends R E V (.error e s') (.error e s)

theorem Ends.mono {R R' : ω' → ω → Prop} {E : Fault → Prop} {V V' : α' → α → Prop}
    {r' : EStateM.Result Fault ω' α'} {r : EStateM.Result Fault ω α} (h : Ends R E V r' r)
    (hR : ∀ s' s, R s' s → R' s' s) (hV : ∀ a' a, V a' a → V' a' a) : Ends R' E V' r' r := by
  cases h with
  | ok hv hr => exact .ok (hV _ _ hv) (hR _ _ hr)
  | error he hr => exact .error he (hR _ _ hr)

/-- Two runs go on alike from where they came to alike, and end so if they do not go on. -/
theorem Ends.bind {R S : ω' → ω → Prop} {E : Fault → Prop} {V : α' → α → Prop}
    {W : β' → β → Prop} {x' : Act ω' α'} {x : Act ω α} {f' : α' → Act ω' β'} {f : α → Act ω β}
    {s' : ω'} {s : ω} (hx : Ends R E V (x' s') (x s)) (hR : ∀ t' t, R t' t → S t' t)
    (hf : ∀ a' a t' t, x' s' = .ok a' t' → V a' a → R t' t → Ends S E W (f' a' t') (f a t)) :
    Ends S E W ((x' >>= f') s') ((x >>= f) s) := by
  change Ends S E W (EStateM.bind x' f' s') (EStateM.bind x f s)
  unfold EStateM.bind
  generalize x' s' = r' at hx hf ⊢
  generalize x s = r at hx ⊢
  cases hx with
  | ok hv hr => exact hf _ _ _ _ rfl hv hr
  | error he hr => exact .error he (hR _ _ hr)

/-- From related states two actions come to the same end. -/
def Alike (R : ω' → ω → Prop) (E : Fault → Prop) (V : α' → α → Prop) (x' : Act ω' α')
    (x : Act ω α) : Prop :=
  ∀ s' s, R s' s → Ends R E V (x' s') (x s)

/-- The relation of answers that are one and the same, with a property. -/
def Both (Q : α → Prop) (a' a : α) : Prop := a' = a ∧ Q a

namespace Alike
variable {R : ω' → ω → Prop} {E : Fault → Prop} {V : α' → α → Prop} {W : β' → β → Prop}
  {x' : Act ω' α'} {x : Act ω α} {f' : α' → Act ω' β'} {f : α → Act ω β}

theorem of_pure {a' : α'} {a : α} (h : V a' a) :
    Alike R E V (Pure.pure a' : Act ω' α') (Pure.pure a : Act ω α) :=
  fun _ _ hr => .ok h hr

theorem of_throw {e : Fault} (h : E e) :
    Alike R E V (MonadExcept.throw e : Act ω' α') (MonadExcept.throw e : Act ω α) :=
  fun _ _ hr => .error h hr

theorem bind (hx : Alike R E V x' x) (hf : ∀ a' a, V a' a → Alike R E W (f' a') (f a)) :
    Alike R E W (x' >>= f') (x >>= f) :=
  fun s' s hr => (hx s' s hr).bind (fun _ _ => id) fun a' a t' t _ hv ht => hf a' a hv t' t ht

theorem mono {V' : α' → α → Prop} (hx : Alike R E V x' x) (hv : ∀ a' a, V a' a → V' a' a) :
    Alike R E V' x' x :=
  fun s' s hr => (hx s' s hr).mono (fun _ _ => id) hv

theorem map {g' : α' → β'} {g : α → β} (hx : Alike R E V x' x)
    (hg : ∀ a' a, V a' a → W (g' a') (g a)) : Alike R E W (g' <$> x') (g <$> x) := by
  intro s' s hr
  change Ends R E W (EStateM.map g' x' s') (EStateM.map g x s)
  unfold EStateM.map
  have h := hx s' s hr
  generalize x' s' = r' at h ⊢
  generalize x s = r at h ⊢
  cases h with
  | ok hv hr => exact .ok (hg _ _ hv) hr
  | error he hr => exact .error he hr

theorem ite {p' p : Prop} [Decidable p'] [Decidable p] {y' : Act ω' α'} {y : Act ω α}
    (hp : p' ↔ p) (hx : p → Alike R E V x' x) (hy : ¬ p → Alike R E V y' y) :
    Alike R E V (if p' then x' else y') (if p then x else y) := by
  by_cases h : p
  · rw [if_pos h, if_pos (hp.mpr h)]
    exact hx h
  · rw [if_neg h, if_neg fun h' => h (hp.mp h')]
    exact hy h

theorem tryCatch {F : Fault → Prop} {k' : Fault → Act ω' α'} {k : Fault → Act ω α}
    (hx : Alike R F V x' x) (hk : ∀ e, F e → Alike R E V (k' e) (k e)) :
    Alike R E V (MonadExcept.tryCatch x' k') (MonadExcept.tryCatch x k) := by
  intro s' s hr
  change Ends R E V (EStateM.tryCatch x' k' s') (EStateM.tryCatch x k s)
  unfold EStateM.tryCatch
  have h := hx s' s hr
  generalize x' s' = r' at h ⊢
  generalize x s = r at h ⊢
  cases h with
  | ok hv hr => exact .ok hv hr
  | error he hr => exact hk _ he _ _ hr

theorem of_modify {u' : ω' → ω'} {u : ω → ω} (h : ∀ s' s, R s' s → R (u' s') (u s)) :
    Alike R E (fun _ _ => True) (modify u' : Act ω' Unit) (modify u : Act ω Unit) :=
  fun s' s hr => .ok trivial (h s' s hr)

theorem of_get : Alike R E R (MonadState.get : Act ω' ω') (MonadState.get : Act ω ω) :=
  fun _ _ hr => .ok hr hr

theorem foldlM {γ γ' : Type} {T : γ' → γ → Prop} {step' : α' → γ' → Act ω' α'}
    {step : α → γ → Act ω α} {ys' : List γ'} {ys : List γ} (hys : List.Forall₂ T ys' ys)
    (hstep : ∀ a' a y' y, V a' a → T y' y → Alike R E V (step' a' y') (step a y)) {a' : α'} {a : α}
    (ha : V a' a) : Alike R E V (ys'.foldlM step' a') (ys.foldlM step a) := by
  induction hys generalizing a' a with
  | nil => exact of_pure ha
  | cons hy _ ih =>
    rw [List.foldlM_cons, List.foldlM_cons]
    exact (hstep _ _ _ _ ha hy).bind fun _ _ hv => ih hv

end Alike

/-- An action that leaves something about the state as it is, however it ends. -/
def Keeps {γ : Type} (view : ω → γ) (x : Act ω α) : Prop := ∀ s, view (final (x s)) = view s

namespace Keeps
variable {γ : Type} {view : ω → γ} {x y : Act ω α} {f : α → Act ω β}

theorem of_ok {a : α} (h : Keeps view x) (hx : x s = .ok a s') : view s' = view s := by
  have hs := h s
  rw [hx] at hs
  exact hs

theorem of_pure {a : α} : Keeps view (Pure.pure a : Act ω α) := fun _ => rfl

theorem of_throw {e : Fault} : Keeps view (MonadExcept.throw e : Act ω α) := fun _ => rfl

theorem bind (hx : Keeps view x) (hf : ∀ a, Keeps view (f a)) : Keeps view (x >>= f) := by
  intro s
  have hs := hx s
  change view (final (EStateM.bind x f s)) = _
  unfold EStateM.bind
  cases hr : x s with
  | error e s₁ => rwa [hr] at hs
  | ok a s₁ =>
    rw [hr] at hs
    exact (hf a s₁).trans hs

theorem get_bind {f : ω → Act ω β} (hf : ∀ a, Keeps view (f a)) : Keeps view (get >>= f) :=
  bind (fun _ => rfl) hf

theorem map {g : α → β} (hx : Keeps view x) : Keeps view (g <$> x) := by
  intro s
  have hs := hx s
  change view (final (EStateM.map g x s)) = _
  unfold EStateM.map
  cases hr : x s <;> rwa [hr] at hs

theorem ite {p : Prop} [Decidable p] (hx : Keeps view x) (hy : Keeps view y) :
    Keeps view (if p then x else y) := by
  split
  · exact hx
  · exact hy

theorem tryCatch {k : Fault → Act ω α} (hx : Keeps view x) (hk : ∀ e, Keeps view (k e)) :
    Keeps view (MonadExcept.tryCatch x k) := by
  intro s
  have hs := hx s
  change view (final (EStateM.tryCatch x k s)) = _
  unfold EStateM.tryCatch
  cases hr : x s with
  | ok a s₁ => rwa [hr] at hs
  | error e s₁ =>
    rw [hr] at hs
    exact (hk e s₁).trans hs

theorem foldlM {δ : Type} {step : α → δ → Act ω α} {ys : List δ}
    (hstep : ∀ a y, Keeps view (step a y)) (a : α) : Keeps view (ys.foldlM step a) := by
  induction ys generalizing a with
  | nil => exact of_pure
  | cons y ys ih =>
    rw [List.foldlM_cons]
    exact (hstep a y).bind ih

end Keeps
end Act
end FixTrial
