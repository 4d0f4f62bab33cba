import FixTrial.Graph
import FixTrial.Proofs.Keyed

/-!
Nodes by the regions that they impact. A number is listed under the regions of its node, and numbers
stand beside each other exactly where their nodes impact one region.
-/
namespace FixTrial.Owners
variable {owners : Owners} {i j : Nat} {r s : Region} {n : Node} {nodes : List Node}

/-- The number is among those of the region. -/
def Lists (owners : Owners) (r : Region) (i : Nat) : Prop :=
  ∃ entry ∈ owners, entry.1 = r ∧ i ∈ entry.2

/-- Every region stands there once. -/
def Distinct (owners : Owners) : Prop := (owners.map (·.1)).Nodup

theorem lists_cons {indices : List Nat} :
    Lists ((s, indices) :: owners) r i ↔ (s = r ∧ i ∈ indices) ∨ Lists owners r i :=
  List.exists_mem_cons_iff ..

theorem lists_add : Lists (owners.add j s) r i ↔ Lists owners r i ∨ s = r ∧ i = j := by
  induction owners with
  | nil => simp [add, Lists]
  | cons entry rest ih =>
    obtain ⟨s', indices⟩ := entry
    unfold add
    split
    next hs =>
      subst hs
      rw [lists_cons, lists_cons, List.mem_append, List.mem_singleton, and_or_left, or_right_comm]
    next => rw [lists_cons, lists_cons, ih, or_assoc]

theorem regions_add : (owners.add j s).map (·.1) = Keyed.insert id (owners.map (·.1)) s := by
  induction owners with
  | nil => rfl
  | cons entry rest ih =>
    obtain ⟨s', indices⟩ := entry
    unfold add
    split
    next hs => simp [hs, Keyed.insert, Keyed.has]
    next hs =>
      have hhas : Keyed.has id s (s' :: rest.map (·.1)) = Keyed.has id s (rest.map (·.1)) := by
        simp [Keyed.has, hs]
      rw [List.map_cons, List.map_cons, ih, Keyed.insert, Keyed.insert, id, hhas]
      split <;> rfl

theorem distinct_add (h : owners.Distinct) : (owners.add j s).Distinct := by
  unfold Distinct
  rw [regions_add, ← List.map_id (Keyed.insert ..)]
  exact Keyed.nodup_keys_insert (by rwa [List.map_id])

theorem lists_addNode :
    Lists (owners.addNode n) r i ↔ Lists owners r i ∨ r ∈ n.regions ∧ i = n.index := by
  unfold addNode
  induction n.regions generalizing owners with
  | nil => simp
  | cons s rest ih =>
    rw [List.foldl_cons, ih, lists_add, List.mem_cons, or_and_right, or_assoc, eq_comm (a := r)]

theorem distinct_addNode (h : owners.Distinct) : (owners.addNode n).Distinct :=
  List.foldlRecOn n.regions _ h fun _ hadded _ _ => distinct_add hadded

theorem lists_foldl_addNode : Lists (nodes.foldl addNode owners) r i ↔
    Lists owners r i ∨ ∃ n ∈ nodes, r ∈ n.regions ∧ i = n.index := by
  induction nodes generalizing owners with
  | nil => simp
  | cons n rest ih => rw [List.foldl_cons, ih, lists_addNode, or_assoc, List.exists_mem_cons_iff]

theorem lists_ofNodes : Lists (ofNodes nodes) r i ↔ ∃ n ∈ nodes, r ∈ n.regions ∧ i = n.index := by
  rw [ofNodes, lists_foldl_addNode]
  simp [Lists]

theorem distinct_ofNodes : (ofNodes nodes).Distinct :=
  List.foldlRecOn nodes _ List.nodup_nil fun _ hadded _ _ => distinct_addNode hadded

/-- Since a region stands there once, all of its numbers stand beside each other. -/
theorem mem_beside_iff (h : owners.Distinct) :
    j ∈ owners.beside i ↔ j ≠ i ∧ ∃ r, Lists owners r i ∧ Lists owners r j := by
  unfold beside
  rw [Keyed.mem_foldl_union (fun entry : Region × List Nat =>
    if entry.2.contains i then entry.2.filter (· ≠ i) else [])]
  constructor
  · rintro (hnil | ⟨entry, hentry, hj⟩)
    · cases hnil
    split at hj
    next hi =>
      obtain ⟨hj, hne⟩ := List.mem_filter.mp hj
      exact ⟨of_decide_eq_true hne, entry.1, ⟨entry, hentry, rfl, List.contains_iff_mem.mp hi⟩,
        ⟨entry, hentry, rfl, hj⟩⟩
    next => cases hj
  · rintro ⟨hne, r, ⟨entry, hentry, rfl, hi⟩, entry', hentry', hr, hj⟩
    obtain rfl : entry' = entry := List.inj_on_of_nodup_map h hentry' hentry hr
    refine .inr ⟨entry', hentry, ?_⟩
    rw [if_pos (List.contains_iff_mem.mpr hi)]
    exact List.mem_filter.mpr ⟨hj, decide_eq_true hne⟩

end FixTrial.Owners
