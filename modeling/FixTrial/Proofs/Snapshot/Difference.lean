import FixTrial.Proofs.Snapshot
import Mathlib.Algebra.BigOperators.Group.Finset.Basic
import Mathlib.Algebra.GroupWithZero.Nat
import Mathlib.Algebra.Order.BigOperators.Group.Multiset
import Mathlib.Data.Multiset.UnionInter

/-!
Differences of snapshots are differences of multisets: what occurs more often and what occurs less
often say between them how often each diagnostic occurs after, given how often it did before. The
change in number is what they come to, so it is turned round with the snapshots and adds up from one
snapshot to the next.
-/
namespace FixTrial
open Diagnostic
variable {before after before' after' ds others : List Diagnostic} {d : Diagnostic}

namespace Difference

/-- How many times more a diagnostic occurs, as the counts say. -/
def addedCount (r : Difference) (d : Diagnostic) : Nat :=
  ((r.addedCounts.find? fun e => e.1.key = d.key).map (·.2)).getD 0

/-- The difference of two multisets. A diagnostic that is in neither part occurs as often as before. -/
structure Exact (before after : List Diagnostic) (r : Difference) : Prop where
  balance : ∀ d, occurrences d.key after + surplus after before d =
    occurrences d.key before + r.addedCount d
  added : ∀ d, d.key ∈ r.added.map Diagnostic.key ↔ 0 < r.addedCount d
  removed : ∀ d, d.key ∈ r.removed.map Diagnostic.key ↔ 0 < surplus after before d
  disjoint : (r.added.map Diagnostic.key).Disjoint (r.removed.map Diagnostic.key)
  once : (r.added.map Diagnostic.key).Nodup ∧ (r.removed.map Diagnostic.key).Nodup
  counted : r.addedCounts.map (·.1) = r.added
  effect : r.effect =
    (r.addedCounts.map (·.2)).sum - ((r.removed.map (surplus after before)).sum : Nat)

/-- The same difference, whatever its diagnostics are listed in. -/
structure Alike (r r' : Difference) : Prop where
  effect : r.effect = r'.effect
  added : Keyed.Same Diagnostic.key r.added r'.added
  removed : Keyed.Same Diagnostic.key r.removed r'.removed
  counts : ∀ d, r.addedCount d = r'.addedCount d

end Difference

namespace Diagnostic

theorem surplus_congr {d' : Diagnostic} (h : d.key = d'.key) :
    surplus others ds d = surplus others ds d' := by
  rw [surplus, surplus, h]

theorem mem_surplusOver_iff : d.key ∈ (surplusOver others ds).map key ↔ 0 < surplus others ds d := by
  rw [mem_surplusOver, surplus]
  omega

theorem nodup_surplusOver : ((surplusOver others ds).map key).Nodup := by
  have hdistinct : ((distinct ds).map key).Nodup := Keyed.nodup_keys_union List.nodup_nil
  exact hdistinct.sublist (List.filter_sublist.map key)

/-- What occurs more often in one list does not occur more often in the other. -/
theorem disjoint_surplusOver :
    ((surplusOver before after).map key).Disjoint ((surplusOver after before).map key) := by
  intro k hadded hremoved
  have hmore := mem_surplusOver.mp hadded
  have hless := mem_surplusOver.mp hremoved
  omega

/-- The diagnostics of a list by their keys, each as often as it occurs. -/
def bag (ds : List Diagnostic) : Multiset DiagnosticKey := ds.map key

theorem count_bag (k : DiagnosticKey) : (bag ds).count k = occurrences k ds := by
  rw [bag, Multiset.coe_count, occurrences_eq_count]

theorem card_bag : (bag ds).card = ds.length := by
  rw [bag, Multiset.coe_card, List.length_map]

/-- The surpluses over a list come to the number of diagnostics that are left when it is taken
out. -/
theorem sum_surplus :
    ((surplusOver others ds).map (surplus others ds)).sum = (bag ds - bag others).card := by
  have hcount : ∀ d, surplus others ds d = (bag ds - bag others).count d.key := by
    intro d
    rw [Multiset.count_sub, count_bag, count_bag, surplus]
  have hkeys : ((surplusOver others ds).map key).toFinset = (bag ds - bag others).toFinset := by
    ext k
    rw [List.mem_toFinset, Multiset.mem_toFinset, mem_surplusOver, ← Multiset.count_pos,
      Multiset.count_sub, count_bag, count_bag]
    omega
  rw [← Multiset.toFinset_sum_count_eq, ← hkeys, List.sum_toFinset _ nodup_surplusOver,
    List.map_map]
  exact congrArg List.sum (List.map_congr_left fun d _ => hcount d)

/-- What two lists have beyond each other makes up the difference of their lengths. -/
theorem sum_surplus_sub :
    (((surplusOver before after).map (surplus before after)).sum : Int) -
      ((surplusOver after before).map (surplus after before)).sum = after.length - before.length := by
  have hafter : (bag after - bag before).card + (bag after ∩ bag before).card = after.length := by
    rw [← Multiset.card_add, Multiset.sub_add_inter, card_bag]
  have hbefore : (bag before - bag after).card + (bag after ∩ bag before).card = before.length := by
    rw [Multiset.inter_comm, ← Multiset.card_add, Multiset.sub_add_inter, card_bag]
  rw [sum_surplus, sum_surplus]
  omega

end Diagnostic

namespace Difference

theorem addedCount_between : (between before after).addedCount d = surplus before after d := by
  unfold addedCount between
  rw [List.find?_map]
  cases hfound : (surplusOver before after).find? ((fun e => decide (e.1.key = d.key)) ∘
      fun d => (d, surplus before after d)) with
  | some d' =>
    have hkey : d'.key = d.key := by simpa using List.find?_some hfound
    exact surplus_congr hkey
  | none =>
    have hnot : d.key ∉ (surplusOver before after).map key := by
      intro hmem
      obtain ⟨d', hd', hkey⟩ := List.mem_map.mp hmem
      exact absurd (decide_eq_true hkey) (List.find?_eq_none.mp hfound d' hd')
    rw [mem_surplusOver_iff] at hnot
    change 0 = _
    omega

theorem exact_between (before after : List Diagnostic) :
    (between before after).Exact before after := by
  refine ⟨fun d => ?_, fun d => ?_, fun d => mem_surplusOver_iff, disjoint_surplusOver,
    ⟨nodup_surplusOver, nodup_surplusOver⟩, ?_, ?_⟩
  · rw [addedCount_between, surplus, surplus]
    omega
  · rw [addedCount_between]
    exact mem_surplusOver_iff
  · change ((surplusOver before after).map _).map _ = _
    rw [List.map_map]
    exact List.map_id _
  · have hcounts : (between before after).addedCounts.map (·.2) =
        (surplusOver before after).map (surplus before after) :=
      List.map_map
    rw [hcounts]
    exact sum_surplus_sub.symm

theorem alike_between (hb : Diagnostic.Alike before before') (ha : Diagnostic.Alike after after') :
    (between before after).Alike (between before' after') := by
  have hbefore : ∀ k, occurrences k before = occurrences k before' :=
    fun k => occurrences_of_alike hb
  have hafter : ∀ k, occurrences k after = occurrences k after' := fun k => occurrences_of_alike ha
  refine ⟨?_, fun k => ?_, fun k => ?_, fun d => ?_⟩
  · change (after.length : Int) - before.length = after'.length - before'.length
    rw [length_of_alike hb, length_of_alike ha]
  · change k ∈ (surplusOver before after).map key ↔ k ∈ (surplusOver before' after').map key
    rw [mem_surplusOver, mem_surplusOver, hbefore, hafter]
  · change k ∈ (surplusOver after before).map key ↔ k ∈ (surplusOver after' before').map key
    rw [mem_surplusOver, mem_surplusOver, hbefore, hafter]
  · rw [addedCount_between, addedCount_between, surplus, surplus, hbefore, hafter]

end Difference

namespace Snapshot

/-- A comparison of two snapshots, of all they hold or of a region, is the difference of two multisets.
Comparing them the other way round turns it round, effects add up over a snapshot in between, and the
order of the diagnostics does not matter. -/
theorem compare_exact (before after : Snapshot) :
    (before.compare after).Exact before.diagnostics after.diagnostics ∧
    (∀ r, (before.compareIn after r).Exact (before.inRegion r) (after.inRegion r)) ∧
    ((after.compare before).effect = -(before.compare after).effect ∧
      (after.compare before).added = (before.compare after).removed ∧
      (after.compare before).removed = (before.compare after).added) ∧
    (∀ middle, (before.compare middle).effect + (middle.compare after).effect =
      (before.compare after).effect) ∧
    ∀ before' after' : Snapshot, Diagnostic.Alike before.diagnostics before'.diagnostics →
      Diagnostic.Alike after.diagnostics after'.diagnostics →
      (before.compare after).Alike (before'.compare after') := by
  have heffect : ∀ s s' : Snapshot,
      (s.compare s').effect = (s'.diagnostics.length : Int) - s.diagnostics.length :=
    fun _ _ => rfl
  refine ⟨Difference.exact_between _ _, fun r => Difference.exact_between _ _, ⟨?_, rfl, rfl⟩,
    fun middle => ?_, fun before' after' hb ha => Difference.alike_between hb ha⟩
  · rw [heffect, heffect]
    omega
  · rw [heffect, heffect, heffect]
    omega

/-- A diagnostic that no fix resolves. -/
def unresolved (message : String) : Diagnostic := ⟨"null", message, .ofType "A", []⟩

/-- One of two equal diagnostics is gone and a new one comes up twice, in whatever order they are
reported. -/
theorem compare_exact_repeated :
    let before : Snapshot := ⟨["read", "call", "read"].map unresolved⟩
    let after : Snapshot := ⟨["store", "read", "store", "call"].map unresolved⟩
    (before.compare after).effect = 1 ∧
    (before.compare after).addedCounts.map (fun e => (e.1.message, e.2)) = [("store", 2)] ∧
    (before.compare after).removed.map (·.message) = ["read"] ∧
    (after.compare before).effect = -1 ∧
    (before.compare after).Alike
      (Snapshot.compare ⟨before.diagnostics.reverse⟩ ⟨after.diagnostics.reverse⟩) := by
  intro before after
  obtain ⟨-, -, ⟨hswapped, -⟩, -, halike⟩ := compare_exact before after
  have heffect : (before.compare after).effect = 1 := by decide
  refine ⟨heffect, by decide +kernel, by decide +kernel, hswapped.trans (by rw [heffect]), ?_⟩
  exact halike ⟨before.diagnostics.reverse⟩ ⟨after.diagnostics.reverse⟩
    ((List.reverse_perm _).symm.map key) ((List.reverse_perm _).symm.map key)

end Snapshot
end FixTrial
