import FixTrial.Proofs.Snapshot.Difference
import Mathlib.Algebra.BigOperators.Group.Finset.Piecewise
import Mathlib.Algebra.BigOperators.Ring.Finset

/-!
Snapshots region by region. What an index files under a region is what lies there, and comparisons of
single regions are the parts of the comparison of all, whatever a bank has been told before. Which
snapshot it compares with is up to the last call that moved it.
-/
namespace FixTrial

namespace Diagnostic
variable {before after : List Diagnostic} {regions regions' : List Region}

/-- How many more diagnostics there are in some regions than before. -/
def changeIn (before after : List Diagnostic) (regions : List Region) : Int :=
  (after.countP fun d => d.region ∈ regions) - before.countP fun d => d.region ∈ regions

theorem sum_length_inRegion (regions : Finset Region) (ds : List Diagnostic) :
    ∑ r ∈ regions, ((Snapshot.mk ds).inRegion r).length =
      ds.countP fun d => d.region ∈ regions := by
  induction ds with
  | nil => simp [Snapshot.inRegion]
  | cons d ds ih =>
    have hcons : ∀ r, ((Snapshot.mk (d :: ds)).inRegion r).length =
        ((Snapshot.mk ds).inRegion r).length + if d.region = r then 1 else 0 := by
      intro r
      unfold Snapshot.inRegion
      by_cases h : d.region = r <;> simp [h]
    simp only [hcons, Finset.sum_add_distrib, ih, Finset.sum_ite_eq, List.countP_cons,
      decide_eq_true_eq]

/-- Every diagnostic lies in one region, so that the changes in several regions add up. -/
theorem sum_change :
    ∑ r ∈ regions.toFinset, change before after r = changeIn before after regions := by
  simp only [change, changeIn, Finset.sum_sub_distrib, ← Nat.cast_sum, sum_length_inRegion,
    List.mem_toFinset]

theorem changeIn_append (h : regions.Disjoint regions') :
    changeIn before after (regions ++ regions') =
      changeIn before after regions + changeIn before after regions' := by
  rw [← sum_change, ← sum_change, ← sum_change, List.toFinset_append]
  exact Finset.sum_union (List.disjoint_toFinset_iff_disjoint.mpr h)

/-- Where nothing changes outside of some regions, the change there is all there is. -/
theorem changeIn_of_unchanged
    (h : ∀ k, k.region ∉ regions → occurrences k before = occurrences k after) :
    changeIn before after regions = (after.length : Int) - before.length := by
  have houtside : Alike (before.filter fun d => d.region ∉ regions)
      (after.filter fun d => d.region ∉ regions) := by
    refine List.perm_iff_count.mpr fun k => ?_
    rw [← occurrences_eq_count, ← occurrences_eq_count, occurrences_filter (· ∉ regions),
      occurrences_filter (· ∉ regions)]
    split
    next hk => exact h k hk
    next => rfl
  have hsplit : ∀ ds : List Diagnostic, ds.length = (ds.countP fun d => d.region ∈ regions) +
      (ds.filter fun d => d.region ∉ regions).length := by
    intro ds
    rw [← List.countP_eq_length_filter]
    simpa using List.length_eq_countP_add_countP (fun d : Diagnostic => decide (d.region ∈ regions))
  have hlength := length_of_alike houtside
  rw [changeIn, hsplit before, hsplit after]
  omega

end Diagnostic

namespace Diagnostic
variable {before after ds : List Diagnostic} {r : Region}

theorem mem_keys_filter_region {k : DiagnosticKey} (p : Region → Prop) [DecidablePred p] :
    k ∈ (ds.filter fun d => p d.region).map key ↔ k ∈ ds.map key ∧ p k.region := by
  have hfilter : k ∈ (ds.filter fun d => p d.region).map key ↔
      k ∈ ds.map key ∧ decide (p k.region) = true :=
    Keyed.mem_keys_filter key (fun k => decide (p k.region)) fun _ => rfl
  rw [hfilter, decide_eq_true_eq]

/-- What occurs more often in a region is what occurs more often and lies there. -/
theorem surplusOver_inRegion (before after : Snapshot) (r : Region) :
    surplusOver (before.inRegion r) (after.inRegion r) =
      (surplusOver before.diagnostics after.diagnostics).filter fun d => d.region = r := by
  have hdistinct : distinct (after.inRegion r) =
      (distinct after.diagnostics).filter fun d => d.region = r :=
    Keyed.distinct_filter key (fun k => decide (k.region = r)) (fun _ => rfl) after.diagnostics
  unfold surplusOver
  rw [hdistinct, List.filter_filter, List.filter_filter]
  refine List.filter_congr fun d _ => ?_
  by_cases hd : d.region = r
  · have hkey : d.key.region = r := hd
    have hsame : surplus (before.inRegion r) (after.inRegion r) d =
        surplus before.diagnostics after.diagnostics d := by
      rw [surplus, surplus, occurrences_inRegion, occurrences_inRegion, if_pos hkey, if_pos hkey]
    rw [hsame, Bool.and_comm]
  · simp [hd]

/-- A list of diagnostics in parts, one for each region, no two of which have one in common. -/
structure Parts (parts : Region → List Diagnostic) (whole : List Diagnostic) : Prop where
  each : ∀ r, parts r = whole.filter fun d => d.region = r
  union : ∀ k, k ∈ whole.map key ↔ ∃ r, k ∈ (parts r).map key
  disjoint : ∀ r r', r ≠ r' → ((parts r).map key).Disjoint ((parts r').map key)

theorem parts_of_filter {parts : Region → List Diagnostic} {whole : List Diagnostic}
    (h : ∀ r, parts r = whole.filter fun d => d.region = r) : Parts parts whole := by
  have hmem : ∀ r k, k ∈ (parts r).map key ↔ k ∈ whole.map key ∧ k.region = r := by
    intro r k
    rw [h, mem_keys_filter_region (· = r)]
  refine ⟨h, fun k => ?_, fun r r' hne k hk hk' => ?_⟩
  · simp [hmem]
  · exact hne (((hmem r k).mp hk).2.symm.trans ((hmem r' k).mp hk').2)

end Diagnostic

namespace Snapshot

/-- An index with one more diagnostic, filed under its region. -/
def fileUnder (index : List (Region × List Diagnostic)) (d : Diagnostic) :
    List (Region × List Diagnostic) :=
  match index with
  | [] => [(d.region, [d])]
  | (r, ds) :: rest => if r = d.region then (r, ds ++ [d]) :: rest else (r, ds) :: fileUnder rest d

/-- The diagnostics of a snapshot, filed one after the other. -/
def index (s : Snapshot) : List (Region × List Diagnostic) := s.diagnostics.foldl fileUnder []

/-- What an index has under a region. -/
def under (index : List (Region × List Diagnostic)) (r : Region) : List Diagnostic :=
  (index.lookup r).getD []

theorem under_fileUnder (index : List (Region × List Diagnostic)) (d : Diagnostic) (r : Region) :
    under (fileUnder index d) r = under index r ++ if d.region = r then [d] else [] := by
  induction index with
  | nil =>
    by_cases hd : d.region = r
    · simp [fileUnder, under, hd]
    · have hne : (r == d.region) = false := by simpa using Ne.symm hd
      simp [fileUnder, under, List.lookup_cons, hd, hne]
  | cons entry rest ih =>
    obtain ⟨r', ds⟩ := entry
    unfold under at ih ⊢
    rw [fileUnder]
    by_cases hr : r = r'
    · subst hr
      split
      next hd => simp [hd]
      next hd => simp [Ne.symm hd]
    · have hne : (r == r') = false := by simpa using hr
      split
      next hd => simp [List.lookup_cons, hne, show d.region ≠ r from fun h => hr (h.symm.trans hd.symm)]
      next => simpa [List.lookup_cons, hne] using ih

theorem under_foldl (ds : List Diagnostic) (index : List (Region × List Diagnostic)) (r : Region) :
    under (ds.foldl fileUnder index) r = under index r ++ ds.filter fun d => d.region = r := by
  induction ds generalizing index with
  | nil => simp
  | cons d ds ih =>
    rw [List.foldl_cons, ih, under_fileUnder, List.append_assoc, List.filter_cons]
    by_cases hd : d.region = r <;> simp [hd]

/-- The index has under each region what lies there. -/
theorem under_index (s : Snapshot) (r : Region) : under s.index r = s.inRegion r := by
  rw [index, under_foldl]
  rfl

end Snapshot

/-- What a bank is told: a new baseline, or what a build reports. -/
inductive Bank.Call
  | baseline (ds : List Diagnostic)
  | save (rebase : Bool) (ds : List Diagnostic)

namespace Bank
open Diagnostic
variable {bank : Bank} {calls later : List Call} {s : Snapshot}

namespace Call

def diagnostics : Call → List Diagnostic
  | .baseline ds => ds
  | .save _ ds => ds

/-- The snapshot before stays where it is. -/
def Keeps (c : Call) : Prop := ∃ ds, c = .save false ds

end Call

def tell (bank : Bank) : Call → Bank
  | .baseline ds => .baseline ds
  | .save rebase ds => bank.save rebase ds

/-- A new bank after some calls. -/
def reached (calls : List Call) : Bank := calls.foldl tell .empty

/-- What a bank compares with after some calls: what the last baseline installed or, if it was rebased
later, what was reported last when it was rebased for the last time. -/
inductive Installs : List Call → Snapshot → Prop
  | untouched {calls : List Call} (h : ∀ c ∈ calls, c.Keeps) : Installs calls .empty
  | baseline (calls : List Call) (ds : List Diagnostic) {later : List Call}
      (h : ∀ c ∈ later, c.Keeps) : Installs (calls ++ .baseline ds :: later) ⟨ds⟩
  | rebase (calls : List Call) (ds : List Diagnostic) {later : List Call}
      (h : ∀ c ∈ later, c.Keeps) :
      Installs (calls ++ .save true ds :: later) (reached calls).after

theorem reached_append (calls later : List Call) :
    reached (calls ++ later) = later.foldl tell (reached calls) := List.foldl_append

theorem reached_snoc (calls : List Call) (c : Call) :
    reached (calls ++ [c]) = (reached calls).tell c := reached_append calls [c]

theorem before_foldl_tell (bank : Bank) (h : ∀ c ∈ later, c.Keeps) :
    (later.foldl tell bank).before = bank.before := by
  induction later generalizing bank with
  | nil => rfl
  | cons c later ih =>
    obtain ⟨⟨ds, rfl⟩, hlater⟩ := List.forall_mem_cons.mp h
    exact ih _ hlater

/-- The snapshot after is what was reported last. -/
theorem after_reached_snoc (calls : List Call) (c : Call) :
    (reached (calls ++ [c])).after = ⟨c.diagnostics⟩ := by
  rw [reached_snoc]
  cases c <;> rfl

theorem Installs.keep (h : Installs calls s) (ds : List Diagnostic) :
    Installs (calls ++ [.save false ds]) s := by
  have hkeep : ∀ {later : List Call}, (∀ c ∈ later, c.Keeps) →
      ∀ c ∈ later ++ [.save false ds], c.Keeps := by
    intro later hlater c hc
    rcases List.mem_append.mp hc with hc | hc
    · exact hlater c hc
    · exact ⟨ds, List.mem_singleton.mp hc⟩
  cases h with
  | untouched h => exact .untouched (hkeep h)
  | baseline calls ds' h =>
    rw [List.append_assoc]
    exact .baseline calls ds' (hkeep h)
  | rebase calls ds' h =>
    rw [List.append_assoc]
    exact .rebase calls ds' (hkeep h)

theorem installs_before (calls : List Call) : Installs calls (reached calls).before := by
  -- on the calls from the last one back, which either moves the snapshot before or keeps it
  induction calls using List.reverseRecOn with
  | nil => exact .untouched (by simp)
  | append_singleton calls c ih =>
    rw [reached_snoc]
    cases c with
    | baseline ds => exact .baseline calls ds (by simp)
    | save rebase ds =>
      cases rebase with
      | true => exact .rebase calls ds (by simp)
      | false => exact ih.keep ds

theorem before_of_installs (h : Installs calls s) : (reached calls).before = s := by
  cases h with
  | untouched h => exact before_foldl_tell .empty h
  | baseline calls ds h =>
    rw [reached_append, List.foldl_cons, before_foldl_tell _ h]
    rfl
  | rebase calls ds h =>
    rw [reached_append, List.foldl_cons, before_foldl_tell _ h]
    rfl

/-- The views of a bank by region and of the whole say the same. -/
structure Agrees (bank : Bank) : Prop where
  filed : ∀ r, Snapshot.under bank.before.index r = bank.before.inRegion r ∧
    Snapshot.under bank.after.index r = bank.after.inRegion r
  effects : ∀ regions : List Region, ∑ r ∈ regions.toFinset, (bank.compareIn r).effect =
    changeIn bank.before.diagnostics bank.after.diagnostics regions
  effect : ∀ regions : List Region,
    (∀ d ∈ bank.before.diagnostics ++ bank.after.diagnostics, d.region ∈ regions) →
    ∑ r ∈ regions.toFinset, (bank.compareIn r).effect = bank.compare.effect
  news : ∀ regions : List Region, Keyed.Same Diagnostic.key (bank.newDiagnosticsIn regions)
    (bank.newDiagnostics.filter fun d => d.region ∈ regions)
  added : Parts (fun r => (bank.compareIn r).added) bank.compare.added
  removed : Parts (fun r => (bank.compareIn r).removed) bank.compare.removed

theorem not_occurs {ds : List Diagnostic} {regions : List Region} {k : DiagnosticKey}
    (h : ∀ d ∈ ds, d.region ∈ regions) (hk : k.region ∉ regions) : occurrences k ds = 0 := by
  by_contra hpos
  obtain ⟨d, hd, rfl⟩ := List.mem_map.mp (occurrences_pos_iff.mp (Nat.pos_of_ne_zero hpos))
  exact hk (h d hd)

theorem agrees (bank : Bank) : bank.Agrees := by
  have heffects : ∀ regions : List Region, ∑ r ∈ regions.toFinset, (bank.compareIn r).effect =
      changeIn bank.before.diagnostics bank.after.diagnostics regions := fun _ => sum_change
  refine ⟨fun r => ⟨Snapshot.under_index _ r, Snapshot.under_index _ r⟩, heffects,
    fun regions hcovers => ?_, fun regions k => ?_, parts_of_filter (surplusOver_inRegion _ _),
    parts_of_filter (surplusOver_inRegion _ _)⟩
  · obtain ⟨hbefore, hafter⟩ := List.forall_mem_append.mp hcovers
    rw [heffects]
    refine changeIn_of_unchanged fun k hk => ?_
    rw [not_occurs hbefore hk, not_occurs hafter hk]
  · rw [mem_newDiagnosticsIn, mem_keys_filter_region (· ∈ regions), and_comm]
    exact and_congr_left fun _ => mem_surplusOver.symm

/-- Whatever a bank has been told, in however many calls, its comparisons by region are the parts of its
comparison of everything. It compares what was reported last with what the last call installed that
moved it. -/
theorem reached_agrees (calls : List Call) :
    (reached calls).Agrees ∧ (∀ s, Installs calls s ↔ s = (reached calls).before) ∧
      (reached calls).after = (calls.getLast?.map fun c => ⟨c.diagnostics⟩).getD .empty := by
  refine ⟨agrees _, fun s => ⟨fun h => (before_of_installs h).symm, ?_⟩, ?_⟩
  · rintro rfl
    exact installs_before calls
  · induction calls using List.reverseRecOn with
    | nil => rfl
    | append_singleton calls c _ =>
      rw [after_reached_snoc, List.getLast?_concat]
      rfl

/-- One diagnostic in each of some types. -/
def inTypes (types : List String) : List Diagnostic :=
  types.map fun t => ⟨"null", "read", .ofType t, []⟩

/-- A baseline, a report, another one that rebases the bank, and a last one. -/
def rebased : List Call :=
  [.baseline (inTypes ["A"]), .save false (inTypes ["A", "B", "B"]), .save true (inTypes ["B"]),
    .save false (inTypes ["B", "C"])]

/-- The last report is compared with the one before the rebasing. One diagnostic less is reported, as
there is one less in two types and one more in a third. -/
theorem reached_agrees_rebased :
    Installs rebased ⟨inTypes ["A", "B", "B"]⟩ ∧
    (reached rebased).after = ⟨inTypes ["B", "C"]⟩ ∧
    ((reached rebased).compareIn (.ofType "C")).effect = 1 ∧
    ∑ r ∈ (["A", "B", "C"].map Region.ofType).toFinset, ((reached rebased).compareIn r).effect =
      -1 := by
  obtain ⟨hagrees, hinstalls, hafter⟩ := reached_agrees rebased
  have hcovers : ∀ d ∈ (reached rebased).before.diagnostics ++ (reached rebased).after.diagnostics,
      d.region ∈ ["A", "B", "C"].map Region.ofType := by
    decide
  refine ⟨(hinstalls _).mpr rfl, hafter, by decide, ?_⟩
  rw [hagrees.effect _ hcovers]
  decide

end Bank
end FixTrial
