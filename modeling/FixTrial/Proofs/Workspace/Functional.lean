import FixTrial.Proofs.Workspace.Repeatable
import Mathlib.Data.Finset.Lattice.Lemmas
import Mathlib.Data.Finset.SDiff
import Mathlib.Data.Set.Defs

/-!
Workspaces whose builds are a function of the set of fixes that is in, and fail where it meets a set
of fixes that do not build.
-/
namespace FixTrial
open Act
variable {ω : Type} {w : Workspace ω} {holds : ω → Finset FixKey}
  {V : Finset FixKey → List Diagnostic} {failing : Set FixKey} {S T : Finset FixKey}

/-- Some fix of a set does not build. -/
def Meets (failing : Set FixKey) (S : Finset FixKey) : Prop := ∃ k ∈ S, k ∈ failing

theorem Meets.mono (h : Meets failing S) (hs : S ⊆ T) : Meets failing T := by
  obtain ⟨k, hk, hf⟩ := h
  exact ⟨k, hs hk, hf⟩

/-- A workspace that holds the set `holds s` in its state `s`, and whose build there is `V` of it.
Fixes that do not build may be refused when they are put in. -/
structure Workspace.Functional (w : Workspace ω) (holds : ω → Finset FixKey)
    (V : Finset FixKey → List Diagnostic) (failing : Set FixKey) : Prop where
  inject : ∀ fixes s,
    (∃ s', w.inject fixes s = .ok () s' ∧ holds s' = holds s ∪ Fix.keys fixes) ∨
    Meets failing (Fix.keys fixes) ∧ ∃ e s', w.inject fixes s = .error (.workspace e) s' ∧
      holds s ⊆ holds s' ∧ holds s' ⊆ holds s ∪ Fix.keys fixes
  revert : ∀ fixes s, ∃ s', w.revert fixes s = .ok () s' ∧ holds s' = holds s \ Fix.keys fixes
  builds : ∀ s, ¬ Meets failing (holds s) →
    ∃ s', w.verify s = .ok (V (holds s)) s' ∧ holds s' = holds s
  fails : ∀ s, Meets failing (holds s) →
    ∃ e s', w.verify s = .error (.workspace e) s' ∧ holds s' = holds s

open Classical in
/-- What a set of fixes builds. -/
noncomputable def outcome (V : Finset FixKey → List Diagnostic) (failing : Set FixKey)
    (S : Finset FixKey) : Option (List Diagnostic) :=
  if Meets failing S then none else some (V S)

theorem outcome_eq_none : outcome V failing S = none ↔ Meets failing S := by
  unfold outcome
  split <;> simp_all

theorem outcome_eq_some {ds : List Diagnostic} :
    outcome V failing S = some ds ↔ ¬ Meets failing S ∧ V S = ds := by
  unfold outcome
  split <;> simp_all

theorem not_meets_empty : ¬ Meets failing ∅ := by
  rintro ⟨k, hk, -⟩
  exact absurd hk (Finset.notMem_empty k)

theorem outcome_empty : outcome V failing ∅ = some (V ∅) :=
  outcome_eq_some.mpr ⟨not_meets_empty, rfl⟩

namespace Workspace.Functional
variable (h : w.Functional holds V failing)
include h

theorem revert_clean (fixes : List Fix) {s : ω} (hs : holds s ⊆ Fix.keys fixes) :
    ∃ s', w.revert fixes s = .ok () s' ∧ holds s' = ∅ := by
  obtain ⟨s', hr, hh⟩ := h.revert fixes s
  exact ⟨s', hr, hh.trans (Finset.sdiff_eq_empty_iff_subset.mpr hs)⟩

theorem repeatable : w.Repeatable (fun s => holds s = ∅) (outcome V failing) := by
  constructor
  · intro s ds hs hds
    obtain ⟨-, rfl⟩ := outcome_eq_some.mp hds
    obtain ⟨s', hv, hh⟩ := h.builds s (hs ▸ not_meets_empty)
    exact ⟨s', hs ▸ hv, hh.trans hs⟩
  · intro batch s ds hs hds
    obtain ⟨hnot, rfl⟩ := outcome_eq_some.mp hds
    rcases h.inject batch s with ⟨s₁, hi, h₁⟩ | ⟨hmeets, -⟩
    · rw [hs, Finset.empty_union] at h₁
      obtain ⟨s₂, hv, h₂⟩ := h.builds s₁ (h₁ ▸ hnot)
      obtain ⟨s₃, hr, h₃⟩ := h.revert_clean batch (s := s₂) (by rw [h₂, h₁])
      refine ⟨s₂, s₃, ?_, hr, h₃⟩
      rw [Batch.build, bind_of_ok hi, hv, h₁]
    · exact absurd hmeets hnot
  · intro batch s hs hnone
    have hmeets := outcome_eq_none.mp hnone
    rcases h.inject batch s with ⟨s₁, hi, h₁⟩ | ⟨-, e, s₁, hi, -, h₁⟩
    · rw [hs, Finset.empty_union] at h₁
      obtain ⟨e, s₂, hv, h₂⟩ := h.fails s₁ (h₁ ▸ hmeets)
      obtain ⟨s₃, hr, h₃⟩ := h.revert_clean batch (s := s₂) (by rw [h₂, h₁])
      refine ⟨e, s₂, s₃, ?_, hr, h₃⟩
      rw [Batch.build, bind_of_ok hi, hv]
    · rw [hs, Finset.empty_union] at h₁
      obtain ⟨s₃, hr, h₃⟩ := h.revert_clean batch h₁
      refine ⟨e, s₁, s₃, ?_, hr, h₃⟩
      change EStateM.bind _ _ s = _
      rw [EStateM.bind, hi]

end Workspace.Functional
end FixTrial
