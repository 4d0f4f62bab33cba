import FixTrial.Proofs.Keyed
import FixTrial.Snapshot

/-!
Snapshots that hold the same diagnostics, in whatever order, cannot be told apart by comparing them
with another.
-/
namespace FixTrial

namespace Diagnostic
variable {ds ds' : List Diagnostic} {k : DiagnosticKey} {j : FixKey}

/-- The same diagnostics, each as often, in any order. -/
def Alike (ds ds' : List Diagnostic) : Prop := (ds.map key).Perm (ds'.map key)

theorem Alike.refl (ds : List Diagnostic) : Alike ds ds := List.Perm.refl _

theorem Alike.symm (h : Alike ds ds') : Alike ds' ds := List.Perm.symm h

theorem Alike.trans {ds'' : List Diagnostic} (h : Alike ds ds') (h' : Alike ds' ds'') :
    Alike ds ds'' := List.Perm.trans h h'

theorem occurrences_eq_count : occurrences k ds = (ds.map key).count k := by
  rw [occurrences, List.count, List.countP_map]
  rfl

theorem occurrences_of_alike (h : Alike ds ds') : occurrences k ds = occurrences k ds' := by
  rw [occurrences_eq_count, occurrences_eq_count]
  exact List.Perm.count_eq h k

theorem length_of_alike (h : Alike ds ds') : ds.length = ds'.length := by
  simpa using List.Perm.length_eq h

theorem occurrences_pos_iff : 0 < occurrences k ds ↔ k ∈ ds.map key := by
  rw [occurrences_eq_count, List.count_pos_iff]

/-- The diagnostics that occur more often, by their keys. -/
theorem mem_surplusOver {others : List Diagnostic} :
    k ∈ (surplusOver others ds).map key ↔ occurrences k others < occurrences k ds := by
  constructor
  · intro h
    obtain ⟨d, hd, rfl⟩ := List.mem_map.mp h
    have hs : 0 < surplus others ds d := by simpa using (List.mem_filter.mp hd).2
    rw [surplus] at hs
    omega
  · intro h
    have hk : k ∈ (distinct ds).map key := by
      rw [distinct, Keyed.mem_keys_distinct, ← occurrences_pos_iff]
      omega
    obtain ⟨d, hd, rfl⟩ := List.mem_map.mp hk
    refine List.mem_map_of_mem (List.mem_filter.mpr ⟨hd, ?_⟩)
    rw [decide_eq_true_eq, surplus]
    omega

theorem mem_keys_fixes {d : Diagnostic} : j ∈ d.fixes.map Fix.key ↔ j ∈ d.key.fixes := by
  rw [key, List.mem_mergeSort]

theorem mem_keys_fixesOf : j ∈ (fixesOf ds).map Fix.key ↔ ∃ k ∈ ds.map key, j ∈ k.fixes := by
  rw [fixesOf, Keyed.mem_keys_distinct, List.map_flatMap, List.mem_flatMap]
  constructor
  · rintro ⟨d, hd, hj⟩
    exact ⟨d.key, List.mem_map_of_mem hd, mem_keys_fixes.mp hj⟩
  · rintro ⟨_, hk, hj⟩
    obtain ⟨d, hd, rfl⟩ := List.mem_map.mp hk
    exact ⟨d, hd, mem_keys_fixes.mpr hj⟩

theorem fixesOf_of_alike (h : Alike ds ds') : Keyed.Same Fix.key (fixesOf ds) (fixesOf ds') := by
  intro j
  rw [mem_keys_fixesOf, mem_keys_fixesOf]
  exact exists_congr fun k => and_congr_left fun _ => List.Perm.mem_iff h

/-- What is picked by its region occurs among the picked as often as among all. -/
theorem occurrences_filter (p : Region → Prop) [DecidablePred p] :
    occurrences k (ds.filter fun d => p d.region) =
      if p k.region then occurrences k ds else 0 := by
  unfold occurrences
  rw [List.countP_filter]
  split
  next hp =>
    refine List.countP_congr fun d _ => ?_
    simp only [Bool.and_eq_true, decide_eq_true_eq, and_iff_left_iff_imp]
    rintro rfl
    exact hp
  next hp =>
    rw [List.countP_eq_zero]
    intro d _
    simp only [Bool.and_eq_true, decide_eq_true_eq, not_and]
    rintro rfl
    exact hp

theorem occurrences_inRegion (s : Snapshot) (r : Region) :
    occurrences k (s.inRegion r) = if k.region = r then occurrences k s.diagnostics else 0 := by
  rw [Snapshot.inRegion, occurrences_filter (· = r)]

/-- How many more diagnostics there are in a region than before. -/
def change (before after : List Diagnostic) (r : Region) : Int :=
  ((Snapshot.mk after).inRegion r).length - ((Snapshot.mk before).inRegion r).length

end Diagnostic

namespace Snapshot
open Diagnostic
variable {before after after' : Snapshot} {r : Region}

theorem effect_of_alike (h : Alike (after.inRegion r) (after'.inRegion r)) :
    (before.compareIn after r).effect = (before.compareIn after' r).effect := by
  unfold compareIn Difference.between
  rw [length_of_alike h]

theorem added_of_alike (h : Alike (after.inRegion r) (after'.inRegion r)) :
    Keyed.Same Diagnostic.key (before.compareIn after r).added
      (before.compareIn after' r).added := by
  intro k
  unfold compareIn Difference.between
  rw [mem_surplusOver, mem_surplusOver, occurrences_of_alike h]

theorem newFixesIn_of_alike (h : Alike (after.inRegion r) (after'.inRegion r)) :
    Keyed.Same Fix.key (before.newFixesIn after r) (before.newFixesIn after' r) := by
  intro k
  rw [newFixesIn, newFixesIn, Keyed.mem_keys_without, Keyed.mem_keys_without]
  exact and_congr_left fun _ => fixesOf_of_alike h k

end Snapshot

namespace Bank
open Diagnostic
variable {bank : Bank} {regions : List Region}

theorem nodup_newDiagnosticsIn : ((bank.newDiagnosticsIn regions).map Diagnostic.key).Nodup :=
  Keyed.nodup_keys_foldl_union _ _ List.nodup_nil

/-- What is new in some regions is what lies there and occurs more often than before. -/
theorem mem_newDiagnosticsIn {k : DiagnosticKey} :
    k ∈ (bank.newDiagnosticsIn regions).map Diagnostic.key ↔
      k.region ∈ regions ∧
        occurrences k bank.before.diagnostics < occurrences k bank.after.diagnostics := by
  unfold newDiagnosticsIn
  rw [Keyed.mem_keys_foldl_union]
  simp only [List.map_nil, List.not_mem_nil, false_or, Bank.compareIn, Snapshot.compareIn,
    Difference.between, mem_surplusOver, occurrences_inRegion]
  constructor
  · rintro ⟨r, hr, hlt⟩
    split at hlt
    next h => exact ⟨h ▸ hr, hlt⟩
    next => omega
  · rintro ⟨hr, hlt⟩
    exact ⟨_, hr, by simpa using hlt⟩

end Bank
end FixTrial
