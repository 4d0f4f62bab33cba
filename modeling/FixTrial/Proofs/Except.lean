/-! Results that may be errors: how one that is none came about, and which error another one is. -/
namespace FixTrial
variable {ε α β : Type} {x : Except ε α} {e : ε} {es fs : List ε}

theorem bind_eq_ok_iff {f : α → Except ε β} {b : β} :
    (x >>= f) = .ok b ↔ ∃ a, x = .ok a ∧ f a = .ok b := by
  cases x with
  | error e => exact ⟨nofun, nofun⟩
  | ok a => exact ⟨fun h => ⟨a, rfl, h⟩, fun ⟨_, ha, h⟩ => Except.ok.inj ha ▸ h⟩

theorem bind_eq_ok_of {f g : α → Except ε β} {b d : β} (h : x >>= f = .ok b)
    (hg : ∀ a, f a = .ok b → g a = .ok d) : x >>= g = .ok d := by
  obtain ⟨a, ha, h⟩ := bind_eq_ok_iff.mp h
  exact bind_eq_ok_iff.mpr ⟨a, ha, hg a h⟩

theorem map_eq_ok_iff {f : α → β} : (∃ b, x.map f = .ok b) ↔ ∃ a, x = .ok a := by
  cases x <;> simp [Except.map]

theorem exists_of_map_eq_ok {f : α → β} {b : β} (h : x.map f = .ok b) :
    ∃ a, x = .ok a ∧ f a = b := by
  cases x with
  | error e => cases h
  | ok a => exact ⟨a, rfl, Except.ok.inj h⟩

/-- The error that a result is, if it is one. -/
def error? : Except ε α → Option ε
  | .ok _ => none
  | .error e => some e

theorem error?_eq_some_iff : error? x = some e ↔ x = .error e := by
  cases x <;> simp [error?]

theorem error?_eq_none_iff : error? x = none ↔ ∃ a, x = .ok a := by
  cases x <;> simp [error?]

theorem error?_mapError {δ : Type} {f : ε → δ} : error? (x.mapError f) = (error? x).map f := by
  cases x <;> rfl

/-- Of two steps the first one that fails decides. -/
theorem error?_bind {f : α → Except ε β} (hx : error? x = es.head?)
    (hf : ∀ a, error? (f a) = fs.head?) : error? (x >>= f) = (es ++ fs).head? := by
  rw [List.head?_append, ← hx]
  cases x with
  | error e => rfl
  | ok a => exact hf a

theorem error?_bind_pure {f : α → β} : error? (x >>= fun a => pure (f a)) = error? x := by
  cases x <;> rfl

theorem error?_mapM {f : α → Except ε β} {g : α → Option ε} (hf : ∀ a, error? (f a) = g a)
    (as : List α) : error? (as.mapM f) = (as.filterMap g).head? := by
  induction as with
  | nil => rfl
  | cons a rest ih =>
    have hcons : (a :: rest).filterMap g = (g a).toList ++ rest.filterMap g := by
      cases h : g a <;> simp [h]
    rw [List.mapM_cons, hcons]
    refine error?_bind ?_ fun b => error?_bind_pure.trans ih
    rw [hf]
    cases g a <;> rfl

end FixTrial
