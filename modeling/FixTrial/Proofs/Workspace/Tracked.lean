import FixTrial.Proofs.Act
import FixTrial.Proofs.Keyed
import FixTrial.Workspace.Tracked

/-! What a tracker has on record, by the keys of the fixes. -/
namespace FixTrial
namespace Tracked
variable {ω : Type} {t : Tracked ω} {f g : Fix} {k : FixKey}

theorem holds_iff : t.holds f = true ↔ f.key ∈ t.injected.map Fix.key := Keyed.has_iff

theorem mem_keys_add :
    k ∈ (t.add f).injected.map Fix.key ↔ k ∈ t.injected.map Fix.key ∨ k = f.key :=
  Keyed.mem_keys_insert

theorem mem_keys_drop :
    k ∈ (t.drop f).injected.map Fix.key ↔ k ∈ t.injected.map Fix.key ∧ k ≠ f.key := by
  change k ∈ (t.injected.filter _).map Fix.key ↔ _
  rw [Keyed.mem_keys_filter Fix.key (fun k => decide (k ≠ f.key)) fun _ => rfl, decide_eq_true_eq]

theorem mem_keys_filter_holds {fs : List Fix} :
    k ∈ (fs.filter t.holds).map Fix.key ↔ k ∈ fs.map Fix.key ∧ k ∈ t.injected.map Fix.key := by
  have hholds : ∀ f, t.holds f = Keyed.has Fix.key f.key t.injected := fun _ => rfl
  rw [Keyed.mem_keys_filter Fix.key (fun k => Keyed.has Fix.key k t.injected) hholds, Keyed.has_iff]

theorem add_of_new (h : t.holds f = false) : t.add f = { t with injected := t.injected ++ [f] } := by
  change Keyed.has Fix.key f.key t.injected = false at h
  unfold add Keyed.insert
  rw [h]
  rfl

theorem holds_add : (t.add f).holds g = true ↔ t.holds g = true ∨ g.key = f.key := by
  rw [holds_iff, mem_keys_add, holds_iff]

theorem holds_drop : (t.drop f).holds g = true ↔ t.holds g = true ∧ g.key ≠ f.key := by
  rw [holds_iff, mem_keys_drop, holds_iff]

end Tracked

namespace Tracked
variable {ω ω' α α' : Type} {R : ω' → ω → Prop} {E : Fault → Prop} {V : α' → α → Prop}

/-- Trackers over related worlds, with the same fixes on record. -/
structure Over (R : ω' → ω → Prop) (t' : Tracked ω') (t : Tracked ω) : Prop where
  world : R t'.world t.world
  injected : t'.injected = t.injected

theorem Over.holds_eq {t' : Tracked ω'} {t : Tracked ω} (h : Over R t' t) (f : Fix) :
    t'.holds f = t.holds f := by
  unfold holds
  rw [h.injected]

theorem alike_inside {act' : Act ω' α'} {act : Act ω α} (h : Act.Alike R E V act' act) :
    Act.Alike (Over R) E V (inside act') (inside act) := by
  intro t' t ht
  have hends := h t'.world t.world ht.world
  unfold inside
  generalize act' t'.world = r' at hends ⊢
  generalize act t.world = r at hends ⊢
  cases hends with
  | ok hv hr => exact .ok hv ⟨hr, ht.injected⟩
  | error he hr => exact .error he ⟨hr, ht.injected⟩

end Tracked

namespace Backend

section
variable {ω ω' : Type} {R : ω' → ω → Prop} {E : Fault → Prop} {b' : Backend ω'} {b : Backend ω}

/-- Where single edits come to the same end, so does putting in a batch. -/
theorem alike_injectEach
    (h : ∀ f, Act.Alike R E (Act.Both fun _ => True) (b'.apply f) (b.apply f)) (fs : List Fix) :
    Act.Alike (Tracked.Over R) E (Act.Both fun _ => True) (b'.injectEach fs) (b.injectEach fs) := by
  induction fs with
  | nil => exact .of_pure ⟨rfl, trivial⟩
  | cons f rest ih =>
    intro t' t ht
    unfold injectEach
    rw [ht.holds_eq]
    by_cases hf : t.holds f
    · rw [if_pos hf, if_pos hf]
      exact ih t' t ht
    · rw [if_neg hf, if_neg hf]
      have hends := h f t'.world t.world ht.world
      generalize b'.apply f t'.world = r' at hends ⊢
      generalize b.apply f t.world = r at hends ⊢
      cases hends with
      | ok _ hr => exact ih _ _ ⟨hr, by simp [Tracked.add, ht.injected]⟩
      | error he hr => exact .error he ⟨hr, ht.injected⟩

/-- Where single edits come to the same end, so does taking out a batch. -/
theorem alike_revertEach
    (h : ∀ f, Act.Alike R E (Act.Both fun _ => True) (b'.remove f) (b.remove f)) (fs : List Fix) :
    Act.Alike (Tracked.Over R) E (Act.Both fun _ => True) (b'.revertEach fs) (b.revertEach fs) := by
  induction fs with
  | nil => exact .of_pure ⟨rfl, trivial⟩
  | cons f rest ih =>
    intro t' t ht
    unfold revertEach
    rw [ht.holds_eq]
    by_cases hf : t.holds f
    · have hends := h f t'.world t.world ht.world
      simp only [hf, Bool.not_true, Bool.false_eq_true, if_false]
      generalize b'.remove f t'.world = r' at hends ⊢
      generalize b.remove f t.world = r at hends ⊢
      cases hends with
      | ok _ hr => exact ih _ _ ⟨hr, by simp [Tracked.drop, ht.injected]⟩
      | @error e world' world he hr =>
        cases e with
        | workspace e =>
          have hrest := ih { t' with world := world' } { t with world } ⟨hr, ht.injected⟩
          dsimp only
          generalize b'.revertEach rest _ = r' at hrest ⊢
          generalize b.revertEach rest _ = r at hrest ⊢
          cases hrest with
          | ok herrors hr =>
            obtain ⟨rfl, -⟩ := herrors
            exact .ok ⟨rfl, trivial⟩ hr
          | error he hr => exact .error he hr
        | _ => exact .error he ⟨hr, ht.injected⟩
    · simp only [hf, Bool.not_false, if_true]
      exact ih t' t ht

theorem alike_revert (hE : ∀ e, E (.workspace e))
    (h : ∀ f, Act.Alike R E (Act.Both fun _ => True) (b'.remove f) (b.remove f))
    (fixes : List Fix) :
    Act.Alike (Tracked.Over R) E (Act.Both fun _ => True) (b'.revert fixes) (b.revert fixes) := by
  refine (alike_revertEach h (Fix.dedupe fixes)).bind ?_
  rintro errors _ ⟨rfl, -⟩
  exact .ite Iff.rfl (fun _ => .of_throw (hE _)) fun _ => .of_pure ⟨rfl, trivial⟩

end

variable {ω : Type} {b : Backend ω} {batch fixes : List Fix} {t t' : Tracked ω}
  {errors : List WorkspaceError}

/-- A revert ends in one error that gathers those of all removals, if there are any. -/
theorem revert_of_revertEach (hn : (batch.map Fix.key).Nodup)
    (h : b.revertEach batch t = .ok errors t') :
    b.revert batch t =
      if errors.isEmpty then .ok () t' else .error (.workspace (.several errors)) t' := by
  unfold revert
  rw [Fix.dedupe_of_nodup hn, Act.bind_of_ok h]
  cases errors <;> rfl

/-- The error that a revert may end in does not change what the removals left. -/
theorem final_revert :
    Act.final (b.revert fixes t) = Act.final (b.revertEach (Fix.dedupe fixes) t) := by
  unfold revert
  cases h : b.revertEach (Fix.dedupe fixes) t with
  | ok errors t' =>
    rw [Act.bind_of_ok h]
    cases errors <;> rfl
  | error e t' => rw [Act.bind_of_error h, Act.final, Act.final]

end Backend

/-- A call on a tracker. -/
inductive Edit
  | inject (fixes : List Fix)
  | revert (fixes : List Fix)

namespace Edit
variable {ω : Type} (b : Backend ω)

def fixes : Edit → List Fix
  | inject fixes => fixes
  | revert fixes => fixes

/-- What an edit leaves, also where it fails. -/
def leaves (t : Tracked ω) : Edit → Tracked ω
  | inject fixes => Act.final (b.inject fixes t)
  | revert fixes => Act.final (b.revert fixes t)

/-- What a history of edits leaves. -/
def after (edits : List Edit) (t : Tracked ω) : Tracked ω := edits.foldl (leaves b) t

theorem after_snoc (past : List Edit) (e : Edit) (t : Tracked ω) :
    after b (past ++ [e]) t = leaves b (after b past t) e := by
  simp [after]

end Edit

end FixTrial
