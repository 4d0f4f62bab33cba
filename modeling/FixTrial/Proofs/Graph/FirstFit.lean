import FixTrial.Proofs.Graph.Groups
import FixTrial.RegionLookup
import Mathlib.Data.List.MinMax
import Mathlib.Order.Nat

/-!
First fit opens a group only where it must: a node that came into a later group shares a region
with an earlier node of every group before. So there is at most one group more than the most rivals
that a node has.
-/
namespace FixTrial.Graph
variable {g : Graph} {source : RegionSource} {n : Node} {ns : List Node} {i j : Nat}
  {groups : List (List Nat)} {C : Nat → Nat → Prop} {P : List (List Nat) → Prop}

/-- Every member of the later group is blocked by one of the earlier. -/
def Blocks (C : Nat → Nat → Prop) (earlier later : List Nat) : Prop :=
  ∀ j ∈ later, ∃ i ∈ earlier, C i j

/-- The groups that hold the pending nodes in their order, each in the first group of which no
earlier node shares a region with it. -/
structure FirstFit (g : Graph) (groups : List (List Nat)) : Prop where
  parts : g.Partitions groups
  ordered : ∀ group ∈ groups, group.Pairwise (· < ·)
  free : ∀ group ∈ groups, group.Pairwise g.Apart
  blocked : groups.Pairwise (Blocks fun i j => i < j ∧ ¬ g.Apart i j)

/-- The other pending nodes that share a region with a node. -/
def rivals (g : Graph) (n : Node) : List Node :=
  g.pending.filter fun m => m.index ≠ n.index && n.sharesRegion m

/-- The most rivals that a pending node has. -/
def maxRivals (g : Graph) : Nat := (g.pending.map fun n => (g.rivals n).length).foldr max 0

/-- Placing a node leaves the groups blocked as they were. It is blocked by all that it passes. -/
theorem blocked_place (h : groups.Pairwise (Blocks C))
    (hn : ∀ i ∈ groups.flatten, i ∈ n.conflicts → C i n.index) :
    (place groups n).Pairwise (Blocks C) := by
  induction groups with
  | nil => simp [place]
  | cons first rest ih =>
    rw [List.pairwise_cons] at h
    unfold place
    split
    next hmeets =>
      have hrest := ih h.2 fun i hi => hn i (by simp [hi])
      refine List.pairwise_cons.mpr ⟨fun later hlater j hj => ?_, hrest⟩
      have hmem : j ∈ rest.flatten ++ [n.index] :=
        place_perm.mem_iff.mp (List.mem_flatten.mpr ⟨later, hlater, hj⟩)
      rcases List.mem_append.mp hmem with hold | hnew
      · obtain ⟨group, hgroup, hj⟩ := List.mem_flatten.mp hold
        exact h.1 group hgroup j hj
      · obtain rfl := List.mem_singleton.mp hnew
        obtain ⟨i, hi, hc⟩ := List.any_eq_true.mp hmeets
        exact ⟨i, hi, hn i (by simp [hi]) (List.contains_iff_mem.mp hc)⟩
    next =>
      refine List.pairwise_cons.mpr ⟨fun later hlater j hj => ?_, h.2⟩
      obtain ⟨i, hi, hc⟩ := h.1 later hlater j hj
      exact ⟨i, List.mem_append_left _ hi, hc⟩

theorem pairwise_pending (h : g.Arena) : g.pending.Pairwise fun n m => n.index < m.index := by
  refine List.Pairwise.filter _ (List.pairwise_iff_getElem.mpr fun i j hi hj hij => ?_)
  rw [h.index_eq i _ (List.getElem?_eq_getElem hi), h.index_eq j _ (List.getElem?_eq_getElem hj)]
  exact hij

theorem foldl_place_induction (hns : ns.Pairwise fun n m => n.index < m.index)
    (hafter : ∀ n ∈ ns, ∀ i ∈ groups.flatten, i < n.index)
    (hplace : ∀ n ∈ ns, ∀ groups : List (List Nat), (∀ i ∈ groups.flatten, i < n.index) →
      P groups → P (place groups n)) (hP : P groups) : P (ns.foldl place groups) := by
  induction ns generalizing groups with
  | nil => exact hP
  | cons n ns ih =>
    rw [List.pairwise_cons] at hns
    rw [List.forall_mem_cons] at hafter hplace
    refine ih hns.2 (fun m hm i hi => ?_) hplace.2 (hplace.1 groups hafter.1 hP)
    rcases List.mem_append.mp (place_perm.mem_iff.mp hi) with hold | hnew
    · exact hafter.2 m hm i hold
    · obtain rfl := List.mem_singleton.mp hnew
      exact hns.1 m hm

/-- What is true of no groups, and stays true when a node is placed behind nodes before it, is true
of the groups of a graph. -/
theorem partition_induction (h : g.Arena) (hnil : P [])
    (hplace : ∀ n ∈ g.pending, ∀ groups : List (List Nat), (∀ i ∈ groups.flatten, i < n.index) →
      P groups → P (place groups n)) : P g.partition :=
  foldl_place_induction (pairwise_pending h) (by simp) hplace hnil

theorem ordered_partition (h : g.Arena) : ∀ group ∈ g.partition, group.Pairwise (· < ·) :=
  partition_induction (P := fun groups => ∀ group ∈ groups, group.Pairwise (· < ·)) h (by simp)
    fun _ _ _ hbefore hgroups => pairwise_place hgroups fun i hi _ => hbefore i hi

theorem not_apart_of_mem_conflicts (h : g.Arena) (hn : n ∈ (g.updateRegions source).nodes)
    (hi : i ∈ n.conflicts) : ¬ (g.updateRegions source).Apart i n.index := by
  obtain ⟨m, hm, rfl, -, hshares⟩ := (mem_conflicts_of_updateRegions h hn).mp hi
  obtain ⟨r, hrn, hrm⟩ := Node.sharesRegion_iff.mp hshares
  have hu : (g.updateRegions source).Arena := arena_updateRegions h
  intro hapart
  exact hapart m n (getElem?_of_mem hu hm) (getElem?_of_mem hu hn) r hrm hrn

theorem firstFit_partition (h : g.Arena) :
    (g.updateRegions source).FirstFit (g.updateRegions source).partition := by
  have hu : (g.updateRegions source).Arena := arena_updateRegions h
  refine ⟨partitions_partition hu, ordered_partition hu, pairwise_partition h, ?_⟩
  apply partition_induction hu List.Pairwise.nil
  intro n hn groups hbefore hblocked
  apply blocked_place hblocked
  intro i hi hc
  exact ⟨hbefore i hi, not_apart_of_mem_conflicts h (mem_pending.mp hn).1 hc⟩

/-- Disjoint groups that all meet a list are no more than it is long. -/
theorem length_le_of_meets {xs : List Nat} (hn : groups.flatten.Nodup)
    (h : ∀ group ∈ groups, ∃ i ∈ group, i ∈ xs) : groups.length ≤ xs.length := by
  induction groups generalizing xs with
  | nil => exact Nat.zero_le _
  | cons group rest ih =>
    rw [List.forall_mem_cons] at h
    rw [List.flatten_cons, List.nodup_append] at hn
    obtain ⟨⟨i, hi, hx⟩, hrest⟩ := h
    have hle : rest.length ≤ (xs.erase i).length := by
      refine ih hn.2.1 fun other hother => ?_
      obtain ⟨j, hj, hjx⟩ := hrest other hother
      have hne : j ≠ i := (hn.2.2 i hi j (List.mem_flatten.mpr ⟨other, hother, hj⟩)).symm
      exact ⟨j, hj, (List.mem_erase_of_ne hne).mpr hjx⟩
    have hlen : (xs.erase i).length + 1 = xs.length := List.length_erase_add_one hx
    rw [List.length_cons]
    omega

theorem length_rivals_le (hn : n ∈ g.pending) : (g.rivals n).length ≤ g.maxRivals :=
  List.le_max_of_le' 0 (List.mem_map_of_mem hn) le_rfl

theorem index_mem_rivals {a b : Node} (h : g.Arena) (ha : g.nodes[i]? = some a)
    (hb : g.nodes[j]? = some b) (hp : a.status = .pending) (hne : i ≠ j) (hs : ¬ g.Apart i j) :
    i ∈ (g.rivals b).map (·.index) := by
  have hshares : b.sharesRegion a = true := by
    simp only [Apart, not_forall, not_not] at hs
    obtain ⟨a', b', ha', hb', r, hra, hrb⟩ := hs
    obtain rfl := Option.some.inj (ha.symm.trans ha')
    obtain rfl := Option.some.inj (hb.symm.trans hb')
    exact Node.sharesRegion_iff.mpr ⟨r, hrb, hra⟩
  refine List.mem_map.mpr ⟨a, List.mem_filter.mpr ⟨?_, ?_⟩, h.index_eq i a ha⟩
  · exact mem_pending.mpr ⟨List.mem_of_getElem? ha, hp⟩
  · rw [h.index_eq i a ha, h.index_eq j b hb]
    simp [hne, hshares]

/-- A node of the last group has a rival in each of the others. -/
theorem length_le_of_firstFit (h : g.Arena) (hf : g.FirstFit groups) :
    groups.length ≤ g.maxRivals + 1 := by
  obtain ⟨hparts, -, -, hblocked⟩ := hf
  rcases List.eq_nil_or_concat groups with rfl | ⟨before, last, rfl⟩
  · exact Nat.zero_le _
  rw [List.concat_eq_append] at hparts hblocked ⊢
  obtain ⟨j, hj⟩ : ∃ j, j ∈ last := by
    refine List.exists_mem_of_ne_nil last ?_
    rintro rfl
    exact hparts.nonempty (by simp)
  obtain ⟨b, hb, hpb⟩ := (hparts.covers j).mp ⟨last, by simp, hj⟩
  have hmeets : ∀ group ∈ before, ∃ i ∈ group, i ∈ (g.rivals b).map (·.index) := by
    intro group hgroup
    obtain ⟨i, hi, hlt, hs⟩ :=
      (List.pairwise_append.mp hblocked).2.2 group hgroup last (by simp) j hj
    obtain ⟨a, ha, hpa⟩ := (hparts.covers i).mp ⟨group, by simp [hgroup], hi⟩
    exact ⟨i, hi, index_mem_rivals h ha hb hpa (Nat.ne_of_lt hlt) hs⟩
  have hdisjoint : before.flatten.Nodup := by
    have honce := hparts.once
    rw [List.flatten_append] at honce
    exact honce.of_append_left
  calc (before ++ [last]).length = before.length + 1 := by simp
    _ ≤ ((g.rivals b).map (·.index)).length + 1 :=
        Nat.add_le_add_right (length_le_of_meets hdisjoint hmeets) 1
    _ = (g.rivals b).length + 1 := by rw [List.length_map]
    _ ≤ g.maxRivals + 1 := Nat.add_le_add_right
        (length_rivals_le (mem_pending.mpr ⟨List.mem_of_getElem? hb, hpb⟩)) 1

theorem maxRivals_eq_zero (h : ∀ a ∈ g.pending, ∀ b ∈ g.pending, a.index ≠ b.index →
    ∀ r ∈ a.regions, r ∉ b.regions) : g.maxRivals = 0 := by
  have hnone : ∀ x ∈ g.pending.map fun n => (g.rivals n).length, x ≤ 0 := by
    intro x hx
    obtain ⟨n, hn, rfl⟩ := List.mem_map.mp hx
    rw [Nat.le_zero, List.length_eq_zero_iff, rivals, List.filter_eq_nil_iff]
    intro m hm hrival
    rw [Bool.and_eq_true, decide_eq_true_eq, Node.sharesRegion_iff] at hrival
    obtain ⟨hne, r, hrn, hrm⟩ := hrival
    exact h n hn m hm hne.symm r hrn hrm
  exact Nat.le_zero.mp (List.max_le_of_forall_le _ 0 hnone)

/-- After a lookup the pending nodes are put into groups first fit, whatever the graph held before.
A node is kept out of a group only by an earlier node that it shares a region with, so there are at
most as many groups as the most rivals of a node, and one; at most one where nothing is shared. -/
theorem groups_first_fit (hg : g.Built) (source : RegionSource) :
    (∀ n ∈ (g.updateRegions source).nodes, ∀ r, r ∈ n.regions ↔
      ∃ f ∈ n.fixes, r ∈ (source f.location).getD []) ∧
    (g.updateRegions source).FirstFit (g.updateRegions source).findGroups.groups ∧
    (g.updateRegions source).findGroups.groups.length ≤ (g.updateRegions source).maxRivals + 1 ∧
    ((∀ a ∈ (g.updateRegions source).pending, ∀ b ∈ (g.updateRegions source).pending,
        a.index ≠ b.index → ∀ r ∈ a.regions, r ∉ b.regions) →
      (g.updateRegions source).findGroups.groups.length ≤ 1) := by
  have h : g.Arena := arena_of_built hg
  have hfit : (g.updateRegions source).FirstFit (g.updateRegions source).findGroups.groups :=
    firstFit_partition h
  have hbound : (g.updateRegions source).findGroups.groups.length ≤
      (g.updateRegions source).maxRivals + 1 :=
    length_le_of_firstFit (arena_updateRegions h) hfit
  refine ⟨fun n hn r => ?_, hfit, hbound, fun hnone => ?_⟩
  · rw [regions_of_updateRegions hn]
    exact RegionSource.mem_ofFixes
  · rwa [maxRivals_eq_zero hnone] at hbound

/-- Fields of one class, with one of another class between them. -/
def fieldsOfTwo : Graph :=
  [("A", "x"), ("A", "y"), ("B", "z"), ("A", "w")].foldl
    (fun g (c, m) => (g.insert (.ofField c m) []).1) .empty

theorem built_fieldsOfTwo : fieldsOfTwo.Built :=
  (((Built.empty.insert _ _).insert _ _).insert _ _).insert _ _

/-- Each field of the first class needs a group of its own. The other one joins the first. -/
theorem groups_first_fit_fields :
    (fieldsOfTwo.updateRegions .own).findGroups.groups = [[0, 2], [1], [3]] ∧
    (fieldsOfTwo.updateRegions .own).maxRivals = 2 ∧
    (fieldsOfTwo.updateRegions .own).findGroups.groups.length ≤ 2 + 1 ∧
    ¬ (fieldsOfTwo.updateRegions .own).Apart 1 3 ∧
    ((Graph.empty.insert (.ofField "A" "x") []).1.updateRegions .own).findGroups.groups.length ≤
      1 := by
  have hgroups : (fieldsOfTwo.updateRegions .own).findGroups.groups = [[0, 2], [1], [3]] := by
    decide
  have hmost : (fieldsOfTwo.updateRegions .own).maxRivals = 2 := by decide
  obtain ⟨-, hfit, hbound, -⟩ := groups_first_fit built_fieldsOfTwo .own
  have hblocked := hfit.blocked
  rw [hmost] at hbound
  rw [hgroups] at hblocked
  obtain ⟨i, hi, -, hs⟩ := (List.pairwise_cons.mp (List.pairwise_cons.mp hblocked).2).1 [3]
    (by simp) 3 (by simp)
  obtain rfl := List.mem_singleton.mp hi
  refine ⟨hgroups, hmost, hbound, hs, ?_⟩
  refine (groups_first_fit (Built.empty.insert (.ofField "A" "x") []) .own).2.2.2 ?_
  decide

end FixTrial.Graph
