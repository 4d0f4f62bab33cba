import FixTrial.Proofs.Batch
import FixTrial.Proofs.Keyed
import Mathlib.Data.Finset.Basic
import Mathlib.Data.Finset.SDiff

/-!
Workspaces in which a build depends on nothing but the fixes that are in, and which every batch
leaves clean.
-/
namespace FixTrial

/-- The fixes of a list, by their keys. -/
def Fix.keys (fixes : List Fix) : Finset FixKey := (fixes.map Fix.key).toFinset

variable {ω β : Type} {w : Workspace ω} {clean : ω → Prop} {fixes : List Fix}
  {out : Finset FixKey → Option (List Diagnostic)} {ds : List Diagnostic} {t : Trial ω} {b : β}

theorem Fix.mem_keys {k : FixKey} : k ∈ Fix.keys fixes ↔ k ∈ fixes.map Fix.key :=
  List.mem_toFinset

theorem Fix.keys_dedupe : Fix.keys (Fix.dedupe fixes) = Fix.keys fixes := by
  ext k
  rw [Fix.mem_keys, Fix.mem_keys, Fix.dedupe_same k]

theorem Fix.keys_append {fixes fixes' : List Fix} :
    Fix.keys (fixes ++ fixes') = Fix.keys fixes ∪ Fix.keys fixes' := by
  ext k
  rw [Finset.mem_union, Fix.mem_keys, Fix.mem_keys, Fix.mem_keys, List.map_append, List.mem_append]

theorem Fix.keys_union {fixes' : List Fix} :
    Fix.keys (Keyed.union Fix.key fixes fixes') = Fix.keys fixes ∪ Fix.keys fixes' := by
  ext k
  rw [Finset.mem_union, Fix.mem_keys, Fix.mem_keys, Fix.mem_keys, Keyed.mem_keys_union]

theorem Fix.keys_without {fixes' : List Fix} :
    Fix.keys (Keyed.without Fix.key fixes fixes') = Fix.keys fixes \ Fix.keys fixes' := by
  ext k
  rw [Finset.mem_sdiff, Fix.mem_keys, Fix.mem_keys, Fix.mem_keys, Keyed.mem_keys_without]

/-- From a clean world, what a batch builds is a function of its fixes, `none` where it fails, and
its revert leaves a clean world. -/
structure Workspace.Repeatable (w : Workspace ω) (clean : ω → Prop)
    (out : Finset FixKey → Option (List Diagnostic)) : Prop where
  baseline : ∀ s ds, clean s → out ∅ = some ds → ∃ s', w.verify s = .ok ds s' ∧ clean s'
  builds : ∀ (batch : List Fix) s ds, clean s → out (Fix.keys batch) = some ds →
    ∃ s₁ s₂, Batch.build w w.verify batch s = .ok ds s₁ ∧ w.revert batch s₁ = .ok () s₂ ∧ clean s₂
  fails : ∀ (batch : List Fix) s, clean s → out (Fix.keys batch) = none →
    ∃ e s₁ s₂, Batch.build w w.verify batch s = .error (.workspace e) s₁ ∧
      w.revert batch s₁ = .ok () s₂ ∧ clean s₂

namespace Workspace.Repeatable
variable (h : w.Repeatable clean out)
include h

theorem batch_of_some (hs : clean t.site.world) (ho : out (Fix.keys fixes) = some ds)
    (m : List Diagnostic → β × Except Fault Unit) (hm : m ds = (b, .ok ())) :
    ∃ s, clean s ∧ Trial.batch w w.verify fixes (fun ds _ => m ds) t =
      .ok ⟨.ok ⟨true, Fix.dedupe fixes, []⟩, some b⟩ { t with site := ⟨s, false⟩ } := by
  rw [← Fix.keys_dedupe] at ho
  obtain ⟨s₁, s₂, hb, hr, hc⟩ := h.builds (Fix.dedupe fixes) t.site.world ds hs ho
  refine ⟨s₂, hc, ?_⟩
  rw [batch_of_build hb hr m (congrArg Prod.snd hm), hm]

theorem batch_of_none (hs : clean t.site.world) (ho : out (Fix.keys fixes) = none)
    (m : List Diagnostic → β × Except Fault Unit) :
    ∃ logs s, clean s ∧ Trial.batch w w.verify fixes (fun ds _ => m ds) t =
      .ok ⟨.ok ⟨false, Fix.dedupe fixes, logs⟩, none⟩ { t with site := ⟨s, false⟩ } := by
  rw [← Fix.keys_dedupe] at ho
  obtain ⟨e, s₁, s₂, hb, hr, hc⟩ := h.fails (Fix.dedupe fixes) t.site.world hs ho
  exact ⟨[s!"verification failed: {e.message}"], s₂, hc, batch_of_failure hb hr m⟩

end Workspace.Repeatable
end FixTrial
