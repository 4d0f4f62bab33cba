import FixTrial.Proofs.Workspace.InMemory

/-!
Workspaces in which the fixes of a batch say whether it can be built, however many of them it takes
to break a build, and which every batch leaves clean.
-/
namespace FixTrial
open Act
variable {ω β : Type} {w : Workspace ω} {v : Act ω (List Diagnostic)} {clean : ω → Prop}
  {crash : Finset FixKey → Bool} {fixes : List Fix} {t : Trial ω} {ds : List Diagnostic}
  {e : WorkspaceError} {s₁ s₂ : ω} {build : List Fix → Except WorkspaceError (List Diagnostic)}

/-- From a clean world a batch fails exactly if `crash` says so of its fixes, and its revert leaves a
clean world. What a build reports may be anything. -/
structure Workspace.Predictable (w : Workspace ω) (clean : ω → Prop)
    (crash : Finset FixKey → Bool) : Prop where
  builds : ∀ (batch : List Fix) s, clean s → crash (Fix.keys batch) = false →
    ∃ ds s₁ s₂, Batch.build w w.verify batch s = .ok ds s₁ ∧ w.revert batch s₁ = .ok () s₂ ∧ clean s₂
  fails : ∀ (batch : List Fix) s, clean s → crash (Fix.keys batch) = true →
    ∃ e s₁ s₂, Batch.build w w.verify batch s = .error (.workspace e) s₁ ∧
      w.revert batch s₁ = .ok () s₂ ∧ clean s₂

theorem build_inMemory (batch held : List Fix) :
    Batch.build (.inMemory build) (Workspace.inMemory build).verify batch held =
      (Workspace.inMemory build).verify (Keyed.union Fix.key held batch) := rfl

theorem predictable_inMemory
    (hb : ∀ held, crash (Fix.keys held) = false → ∃ ds, build held = .ok ds)
    (hf : ∀ held, crash (Fix.keys held) = true → ∃ e, build held = .error e) :
    (Workspace.inMemory build).Predictable (fun held => held = []) crash := by
  have hkeys : ∀ batch, Fix.keys (Keyed.union Fix.key [] batch) = Fix.keys batch := by
    intro batch
    rw [Fix.keys_union]
    exact Finset.empty_union _
  have hclean : ∀ batch, Keyed.without Fix.key (Keyed.union Fix.key [] batch) batch = [] := by
    intro batch
    have hnil : Keyed.Same Fix.key
        (Keyed.without Fix.key (Keyed.union Fix.key [] batch) batch) [] := by
      intro k
      rw [Keyed.mem_keys_without, Keyed.mem_keys_union]
      simp
    exact hnil.eq_nil
  constructor
  · rintro batch _ rfl hcrash
    obtain ⟨ds, hds⟩ := hb (Keyed.union Fix.key [] batch) (by rw [hkeys, hcrash])
    refine ⟨ds, Keyed.union Fix.key [] batch, _, ?_, rfl, hclean batch⟩
    rw [build_inMemory]
    simp only [Workspace.inMemory, hds]
  · rintro batch _ rfl hcrash
    obtain ⟨e, he⟩ := hf (Keyed.union Fix.key [] batch) (by rw [hkeys, hcrash])
    refine ⟨e, Keyed.union Fix.key [] batch, _, ?_, rfl, hclean batch⟩
    rw [build_inMemory]
    simp only [Workspace.inMemory, he]

end FixTrial
