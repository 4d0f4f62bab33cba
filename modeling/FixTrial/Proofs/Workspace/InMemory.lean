import FixTrial.Proofs.Workspace.Functional
import FixTrial.Proofs.Workspace.Sticky

/-! Workspaces in memory: a list of fixes, and builds that are a function of it. -/
namespace FixTrial

/-- The workspace that holds what is put into it, and is built by a function. -/
def Workspace.inMemory (build : List Fix → Except WorkspaceError (List Diagnostic)) :
    Workspace (List Fix) where
  inject fixes := modify fun held => Keyed.union Fix.key held fixes
  revert fixes := modify fun held => Keyed.without Fix.key held fixes
  verify := fun held =>
    match build held with
    | .ok ds => .ok ds held
    | .error e => .error (.workspace e) held

variable {V : Finset FixKey → List Diagnostic} {failing : Set FixKey}
  {build : List Fix → Except WorkspaceError (List Diagnostic)}

theorem functional_inMemory
    (hb : ∀ held, ¬ Meets failing (Fix.keys held) → build held = .ok (V (Fix.keys held)))
    (hf : ∀ held, Meets failing (Fix.keys held) → ∃ e, build held = .error e) :
    (Workspace.inMemory build).Functional Fix.keys V failing := by
  constructor
  · intro fixes s
    exact .inl ⟨_, rfl, Fix.keys_union⟩
  · intro fixes s
    exact ⟨_, rfl, Fix.keys_without⟩
  · intro s hs
    refine ⟨s, ?_, rfl⟩
    simp only [Workspace.inMemory, hb s hs]
  · intro s hs
    obtain ⟨e, he⟩ := hf s hs
    refine ⟨e, s, ?_, rfl⟩
    simp only [Workspace.inMemory, he]

/-- The backend that holds what is put into it, and does not let go of some fixes. -/
def Backend.inMemory (sticks : FixKey → Bool) : Backend (List Fix) where
  apply f := modify fun held => Keyed.insert Fix.key held f
  remove f := fun held =>
    if sticks f.key then .error (.workspace (.refused f.label)) held
    else .ok () (held.filter fun g => g.key ≠ f.key)

theorem clings_inMemory (sticks : FixKey → Bool) : (Backend.inMemory sticks).Clings
    (fun held S => Fix.keys held = S) {k | sticks k = true} := by
  constructor
  · rintro f held _ rfl
    exact .inl ⟨_, rfl, Fix.keys_insert⟩
  · rintro f held _ rfl
    by_cases hf : sticks f.key
    · exact .inr ⟨hf, _, _, if_pos hf, rfl⟩
    · refine .inl ⟨hf, _, if_neg hf, ?_⟩
      ext k
      rw [Finset.mem_erase, Fix.mem_keys, Fix.mem_keys,
        Keyed.mem_keys_filter Fix.key (fun k => decide (k ≠ f.key)) fun _ => rfl, decide_eq_true_eq,
        and_comm]

end FixTrial
