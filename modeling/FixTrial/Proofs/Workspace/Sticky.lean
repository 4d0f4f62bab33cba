import FixTrial.Proofs.Batch
import FixTrial.Proofs.Workspace.Repeatable
import FixTrial.Proofs.Workspace.Tracked
import Mathlib.Data.Finset.Lattice.Lemmas
import Mathlib.Data.Finset.SDiff
import Mathlib.Data.Set.Defs

/-!
Workspaces out of which some fixes cannot be taken again. What a build reports is a function of the
fixes that are in, those left by earlier batches included.
-/
namespace FixTrial
open Act
variable {ω : Type} {w : Workspace ω} {b : Backend ω} {holds : ω → Finset FixKey → Prop}
  {out : Finset FixKey → Option (List Diagnostic)} {stuck : Set FixKey} {fixes fs : List Fix}
  {S : Finset FixKey} {verify : Act ω (List Diagnostic)}

/-- What is left of `S` when some fixes are taken out of it: the others, and those that stick. -/
def Leaves (stuck : Set FixKey) (fixes : List Fix) (S S' : Finset FixKey) : Prop :=
  ∀ k, k ∈ S' ↔ k ∈ S ∧ (k ∈ Fix.keys fixes → k ∈ stuck)

/-- A workspace of which `holds s S` says that in the state `s` just `S` is in. A revert that takes
out a fix that sticks ends in a workspace error; a build reports `out` of what is in, and fails where
that is `none`. -/
structure Workspace.Sticky (w : Workspace ω) (holds : ω → Finset FixKey → Prop)
    (out : Finset FixKey → Option (List Diagnostic)) (stuck : Set FixKey) : Prop where
  inject : ∀ fixes s S, holds s S →
    (∃ s', w.inject fixes s = .ok () s' ∧ holds s' (S ∪ Fix.keys fixes)) ∨
    ∃ e s' S', w.inject fixes s = .error (.workspace e) s' ∧ holds s' S' ∧ S' ⊆ S ∪ Fix.keys fixes
  revert : ∀ fixes s S, holds s S → ∃ s' S', holds s' S' ∧ Leaves stuck fixes S S' ∧
    ((w.revert fixes s = .ok () s' ∧ ∀ k ∈ S, k ∈ Fix.keys fixes → k ∉ stuck) ∨
      ∃ e, w.revert fixes s = .error (.workspace e) s')
  builds : ∀ s S ds, holds s S → out S = some ds → ∃ s', w.verify s = .ok ds s' ∧ holds s' S
  fails : ∀ s S, holds s S → out S = none →
    ∃ e s', w.verify s = .error (.workspace e) s' ∧ holds s' S

namespace Workspace.Sticky
variable (h : w.Sticky holds out stuck) {batch : List Fix} {s s₁ s' : ω} {e : WorkspaceError}
  {ds : List Diagnostic} {report : Option (List Diagnostic)}
include h

/-- A build that succeeds reports what is in, and that is the batch and what was there before it. -/
theorem build_of_ok (hs : holds s S) (hb : Batch.build w w.verify batch s = .ok ds s₁) :
    holds s₁ (S ∪ Fix.keys batch) ∧ out (S ∪ Fix.keys batch) = some ds := by
  obtain ⟨_, s₂, hi, hv⟩ := bind_eq_ok.mp hb
  rcases h.inject batch s S hs with ⟨s₂', hi', h₂⟩ | ⟨e, s₂', S', hi', -⟩
  · cases hi.symm.trans hi'
    cases ho : out (S ∪ Fix.keys batch) with
    | some ds' =>
      obtain ⟨s₃, hv', h₃⟩ := h.builds s₂ _ ds' h₂ ho
      cases hv.symm.trans hv'
      exact ⟨h₃, rfl⟩
    | none =>
      obtain ⟨e, s₃, hv', -⟩ := h.fails s₂ _ h₂ ho
      cases hv.symm.trans hv'
  · cases hi.symm.trans hi'

/-- A build that fails leaves some of the batch in, beside what was there before it. -/
theorem build_of_error (hs : holds s S)
    (hb : Batch.build w w.verify batch s = .error (.workspace e) s₁) :
    ∃ S₁, holds s₁ S₁ ∧ S₁ ⊆ S ∪ Fix.keys batch := by
  unfold Batch.build at hb
  rcases h.inject batch s S hs with ⟨s₂, hi, h₂⟩ | ⟨e', s₂, S', hi, h₂, hsub⟩
  · rw [bind_of_ok hi] at hb
    cases ho : out (S ∪ Fix.keys batch) with
    | some ds' =>
      obtain ⟨s₃, hv, -⟩ := h.builds s₂ _ ds' h₂ ho
      cases hb.symm.trans hv
    | none =>
      obtain ⟨e', s₃, hv, h₃⟩ := h.fails s₂ _ h₂ ho
      cases hb.symm.trans hv
      exact ⟨_, h₃, subset_rfl⟩
  · rw [bind_of_error hi] at hb
    cases hb
    exact ⟨S', h₂, hsub⟩

theorem closes (hs : holds s S) (hc : Batch.Closes w batch s s') :
    ∃ S', holds s' S' ∧ Leaves stuck batch S S' ∧
      (w.revert batch s = .ok () s' → ∀ k ∈ S, k ∈ Fix.keys batch → k ∉ stuck) := by
  obtain ⟨s₁, S', h₁, hleaves, hr⟩ := h.revert batch s S hs
  obtain rfl : s₁ = s' := by
    rcases hr with ⟨hr, -⟩ | ⟨e, hr⟩ <;> rcases hc with hc | ⟨e', hc⟩ <;>
      cases hr.symm.trans hc <;> rfl
  refine ⟨S', h₁, hleaves, fun hok => ?_⟩
  rcases hr with ⟨-, hclear⟩ | ⟨e, hr⟩
  · exact hclear
  · cases hok.symm.trans hr

/-- A batch leaves nothing that does not stick. If it reports, then what was built is the batch
beside what was left before it, and none of the batch sticks. -/
theorem ended (hs : holds s S) (hS : ∀ k ∈ S, k ∈ stuck)
    (he : Batch.Ended w w.verify batch s report s') :
    (∃ S', holds s' S' ∧ ∀ k ∈ S', k ∈ stuck ∧ (k ∈ S ∨ k ∈ Fix.keys batch)) ∧
      ∀ ds, report = some ds →
        out (S ∪ Fix.keys batch) = some ds ∧ ∀ k ∈ Fix.keys batch, k ∉ stuck := by
  have hleft : ∀ {S₁ S' : Finset FixKey}, S₁ ⊆ S ∪ Fix.keys batch → Leaves stuck batch S₁ S' →
      ∀ k ∈ S', k ∈ stuck ∧ (k ∈ S ∨ k ∈ Fix.keys batch) := by
    intro S₁ S' hsub hleaves k hk
    obtain ⟨hk₁, hstuck⟩ := (hleaves k).mp hk
    rcases Finset.mem_union.mp (hsub hk₁) with hin | hin
    · exact ⟨hS k hin, .inl hin⟩
    · exact ⟨hstuck hin, .inr hin⟩
  cases he with
  | done hb hr =>
    obtain ⟨h₁, ho⟩ := h.build_of_ok hs hb
    obtain ⟨S', h', hleaves, hclear⟩ := h.closes h₁ (.inl hr)
    refine ⟨⟨S', h', hleft subset_rfl hleaves⟩, fun ds hds => ?_⟩
    cases hds
    exact ⟨ho, fun k hk => hclear hr k (Finset.mem_union_right S hk) hk⟩
  | stuck hb hr =>
    obtain ⟨h₁, -⟩ := h.build_of_ok hs hb
    obtain ⟨S', h', hleaves, -⟩ := h.closes h₁ (.inr ⟨_, hr⟩)
    exact ⟨⟨S', h', hleft subset_rfl hleaves⟩, nofun⟩
  | failed hb hr =>
    obtain ⟨S₁, h₁, hsub⟩ := h.build_of_error hs hb
    obtain ⟨S', h', hleaves, -⟩ := h.closes h₁ hr
    exact ⟨⟨S', h', hleft hsub hleaves⟩, nofun⟩

end Workspace.Sticky

/-- A backend whose edits do what they should, but for the fixes that stick. An edit that fails
changes nothing. -/
structure Backend.Clings (b : Backend ω) (holds : ω → Finset FixKey → Prop) (stuck : Set FixKey) :
    Prop where
  apply : ∀ f s S, holds s S → (∃ s', b.apply f s = .ok () s' ∧ holds s' (insert f.key S)) ∨
    ∃ e s', b.apply f s = .error (.workspace e) s' ∧ holds s' S
  remove : ∀ f s S, holds s S →
    (f.key ∉ stuck ∧ ∃ s', b.remove f s = .ok () s' ∧ holds s' (S.erase f.key)) ∨
    (f.key ∈ stuck ∧ ∃ e s', b.remove f s = .error (.workspace e) s' ∧ holds s' S)

/-- A tracker that knows just what the world holds. -/
def Tracked.Holds (holds : ω → Finset FixKey → Prop) (t : Tracked ω) (S : Finset FixKey) : Prop :=
  Fix.keys t.injected = S ∧ holds t.world S

theorem Fix.keys_cons {f : Fix} : Fix.keys (f :: fixes) = insert f.key (Fix.keys fixes) := by
  simp [Fix.keys]

theorem Fix.keys_insert {f : Fix} :
    Fix.keys (Keyed.insert Fix.key fixes f) = insert f.key (Fix.keys fixes) := by
  ext k
  rw [Fix.mem_keys, Keyed.mem_keys_insert, Finset.mem_insert, Fix.mem_keys, or_comm]

namespace Tracked
variable {t : Tracked ω} {f : Fix}

theorem Holds.mem_iff (ht : t.Holds holds S) : t.holds f = true ↔ f.key ∈ S := by
  rw [← ht.1, Fix.mem_keys, holds_iff]

theorem Holds.add {world : ω} (ht : t.Holds holds S) (hw : holds world (insert f.key S)) :
    (Tracked.add f { t with world }).Holds holds (insert f.key S) := by
  refine ⟨?_, hw⟩
  rw [← ht.1]
  ext k
  rw [Fix.mem_keys, mem_keys_add, Finset.mem_insert, Fix.mem_keys, or_comm]

theorem Holds.drop {world : ω} (ht : t.Holds holds S) (hw : holds world (S.erase f.key)) :
    (Tracked.drop f { t with world }).Holds holds (S.erase f.key) := by
  refine ⟨?_, hw⟩
  rw [← ht.1]
  ext k
  rw [Fix.mem_keys, mem_keys_drop, Finset.mem_erase, Fix.mem_keys, and_comm]

end Tracked

namespace Backend.Clings
variable (hb : b.Clings holds stuck)
include hb

theorem injectEach (t : Tracked ω) (ht : t.Holds holds S) :
    (∃ t', b.injectEach fs t = .ok () t' ∧ t'.Holds holds (S ∪ Fix.keys fs)) ∨
    ∃ e t' S', b.injectEach fs t = .error (.workspace e) t' ∧ t'.Holds holds S' ∧
      S' ⊆ S ∪ Fix.keys fs := by
  induction fs generalizing t S with
  | nil => exact .inl ⟨t, rfl, by simpa [Fix.keys] using ht⟩
  | cons f rest ih =>
    have hunion : insert f.key S ∪ Fix.keys rest = S ∪ Fix.keys (f :: rest) := by
      rw [Fix.keys_cons, Finset.insert_union, Finset.union_insert]
    unfold Backend.injectEach
    by_cases hf : t.holds f
    · have hin : insert f.key S = S := Finset.insert_eq_of_mem (ht.mem_iff.mp hf)
      rw [hin] at hunion
      rw [← hunion]
      simpa only [hf, if_true] using ih t ht
    · simp only [hf, Bool.false_eq_true, if_false]
      rcases hb.apply f t.world S ht.2 with ⟨world, ha, hw⟩ | ⟨e, world, ha, hw⟩
      · rw [← hunion]
        simpa only [ha] using ih _ (ht.add hw)
      · exact .inr ⟨e, { t with world }, S, by simp only [ha], ⟨ht.1, hw⟩, Finset.subset_union_left⟩

theorem revertEach (fs : List Fix) (t : Tracked ω) (ht : t.Holds holds S) :
    ∃ errors t' S', b.revertEach fs t = .ok errors t' ∧ t'.Holds holds S' ∧ Leaves stuck fs S S' ∧
      (errors = [] → ∀ k ∈ S, k ∈ Fix.keys fs → k ∉ stuck) := by
  induction fs generalizing t S with
  | nil => exact ⟨[], t, S, rfl, ht, by simp [Leaves, Fix.keys], by simp [Fix.keys]⟩
  | cons f rest ih =>
    unfold Leaves
    simp only [Fix.keys_cons, Finset.mem_insert]
    unfold Backend.revertEach
    by_cases hf : t.holds f
    · simp only [hf, Bool.not_true, Bool.false_eq_true, if_false]
      rcases hb.remove f t.world S ht.2 with ⟨hfree, world, hr, hw⟩ | ⟨hstuck, e, world, hr, hw⟩
      · obtain ⟨errors, t', S', hrest, ht', hleaves, hclear⟩ := ih _ (ht.drop hw)
        refine ⟨errors, t', S', by simp only [hr, hrest], ht', fun k => ?_, fun hnil k hk hkf => ?_⟩
        · rw [hleaves, Finset.mem_erase]
          by_cases hkf : k = f.key
          · subst hkf
            simp [hfree]
          · simp [hkf]
        · rcases hkf with rfl | hkf
          · exact hfree
          · by_cases hne : k = f.key
            · rwa [hne]
            · exact hclear hnil k (Finset.mem_erase.mpr ⟨hne, hk⟩) hkf
      · obtain ⟨errors, t', S', hrest, ht', hleaves, -⟩ := ih { t with world } ⟨ht.1, hw⟩
        refine ⟨e :: errors, t', S', by simp only [hr, hrest], ht', fun k => ?_,
          fun hnil => absurd hnil (List.cons_ne_nil e errors)⟩
        rw [hleaves]
        by_cases hkf : k = f.key
        · subst hkf
          simp [hstuck]
        · simp [hkf]
    · simp only [hf, Bool.not_false, if_true]
      have hout : f.key ∉ S := fun hmem => hf (ht.mem_iff.mpr hmem)
      obtain ⟨errors, t', S', hrest, ht', hleaves, hclear⟩ := ih t ht
      refine ⟨errors, t', S', hrest, ht', fun k => ?_, fun hnil k hk hkf => ?_⟩
      · rw [hleaves]
        by_cases hkf : k = f.key
        · subst hkf
          simp [hout]
        · simp [hkf]
      · rcases hkf with rfl | hkf
        · exact absurd hk hout
        · exact hclear hnil k hk hkf

/-- Over a backend of which some fixes stick, a tracker makes a workspace of which they do. -/
theorem sticky
    (hv : ∀ s S ds, holds s S → out S = some ds → ∃ s', verify s = .ok ds s' ∧ holds s' S)
    (hf : ∀ s S, holds s S → out S = none →
      ∃ e s', verify s = .error (.workspace e) s' ∧ holds s' S) :
    (b.workspace verify).Sticky (Tracked.Holds holds) out stuck := by
  constructor
  · intro fixes t S ht
    rw [← Fix.keys_dedupe]
    exact hb.injectEach t ht
  · intro fixes t S ht
    obtain ⟨errors, t', S', hr, ht', hleaves, hclear⟩ := hb.revertEach (Fix.dedupe fixes) t ht
    rw [Fix.keys_dedupe] at hclear
    refine ⟨t', S', ht', fun k => by rw [hleaves, Fix.keys_dedupe], ?_⟩
    change (b.revert fixes t = _ ∧ _) ∨ ∃ e, b.revert fixes t = _
    unfold Backend.revert
    rw [bind_of_ok hr]
    cases errors with
    | nil => exact .inl ⟨rfl, hclear rfl⟩
    | cons e errors => exact .inr ⟨_, rfl⟩
  · intro t S ds ht hds
    obtain ⟨s', hs, hw⟩ := hv t.world S ds ht.2 hds
    refine ⟨{ t with world := s' }, ?_, ht.1, hw⟩
    change Tracked.inside verify t = _
    simp only [Tracked.inside, hs]
  · intro t S ht hnone
    obtain ⟨e, s', hs, hw⟩ := hf t.world S ht.2 hnone
    refine ⟨e, { t with world := s' }, ?_, ht.1, hw⟩
    change Tracked.inside verify t = _
    simp only [Tracked.inside, hs]

end Backend.Clings
end FixTrial
