import FixTrial.Proofs.Graph.Arena
import Mathlib.Data.List.Pairwise

/-! First fit splits the pending nodes into groups whose members impact different regions. -/
namespace FixTrial.Graph
variable {g : Graph} {source : RegionSource} {n : Node} {ns : List Node} {i j : Nat}
  {group : List Nat} {groups : List (List Nat)} {C : Nat → Nat → Prop}

/-- Every pending node is in one group, nothing else is in any, and no group is empty. -/
structure Partitions (g : Graph) (groups : List (List Nat)) : Prop where
  covers : ∀ i, (∃ group ∈ groups, i ∈ group) ↔ ∃ n, g.nodes[i]? = some n ∧ n.status = .pending
  once : groups.flatten.Nodup
  nonempty : [] ∉ groups

/-- The nodes with two numbers impact no common region. -/
def Apart (g : Graph) (i j : Nat) : Prop :=
  ∀ a b, g.nodes[i]? = some a → g.nodes[j]? = some b → ∀ r ∈ a.regions, r ∉ b.regions

theorem place_perm : (place groups n).flatten.Perm (groups.flatten ++ [n.index]) := by
  induction groups with
  | nil => simp [place]
  | cons group rest ih =>
    unfold place
    split
    · simpa using ih.append_left group
    · have hcomm : ([n.index] ++ rest.flatten).Perm (rest.flatten ++ [n.index]) :=
        List.perm_append_comm
      simpa using hcomm.append_left group

theorem nil_not_mem_place (h : [] ∉ groups) : [] ∉ place groups n := by
  induction groups with
  | nil => simp [place]
  | cons group rest ih =>
    rw [List.mem_cons, not_or] at h
    unfold place
    split
    · rw [List.mem_cons, not_or]
      exact ⟨h.1, ih h.2⟩
    · simpa using h.2

/-- A node joins only a group that holds none of its conflicts. -/
theorem pairwise_place (h : ∀ group ∈ groups, group.Pairwise C)
    (hn : ∀ i ∈ groups.flatten, i ∉ n.conflicts → C i n.index) :
    ∀ group ∈ place groups n, group.Pairwise C := by
  induction groups with
  | nil => simp [place]
  | cons first rest ih =>
    rw [List.forall_mem_cons] at h
    have hrest := ih h.2 fun i hi => hn i (by simp [hi])
    unfold place
    split
    · exact List.forall_mem_cons.mpr ⟨h.1, hrest⟩
    next hfree =>
      refine List.forall_mem_cons.mpr ⟨?_, h.2⟩
      refine List.pairwise_append.mpr ⟨h.1, List.pairwise_singleton _ _, ?_⟩
      intro i hi k hk
      obtain rfl := List.mem_singleton.mp hk
      apply hn i (by simp [hi])
      intro hc
      exact hfree (List.any_eq_true.mpr ⟨i, hi, List.contains_iff_mem.mpr hc⟩)

theorem foldl_place_perm (ns : List Node) (groups : List (List Nat)) :
    (ns.foldl place groups).flatten.Perm (groups.flatten ++ ns.map (·.index)) := by
  induction ns generalizing groups with
  | nil => simp
  | cons n ns ih =>
    refine (ih _).trans ?_
    simpa using place_perm.append_right (ns.map (·.index))

theorem nil_not_mem_foldl_place (h : [] ∉ groups) : [] ∉ ns.foldl place groups := by
  induction ns generalizing groups with
  | nil => exact h
  | cons n ns ih => exact ih (nil_not_mem_place h)

theorem partition_perm : g.partition.flatten.Perm (g.pending.map (·.index)) := by
  simpa [partition] using foldl_place_perm g.pending []

theorem mem_pending : n ∈ g.pending ↔ n ∈ g.nodes ∧ n.status = .pending := by
  simp [pending, Node.isPending]

theorem partitions_partition (h : g.Arena) : g.Partitions g.partition := by
  refine ⟨fun i => ?_, ?_, nil_not_mem_foldl_place List.not_mem_nil⟩
  · rw [← List.mem_flatten, partition_perm.mem_iff, List.mem_map]
    constructor
    · rintro ⟨n, hn, rfl⟩
      obtain ⟨hmem, hp⟩ := mem_pending.mp hn
      exact ⟨n, getElem?_of_mem h hmem, hp⟩
    · rintro ⟨n, hn, hp⟩
      exact ⟨n, mem_pending.mpr ⟨List.mem_of_getElem? hn, hp⟩, h.index_eq i n hn⟩
  · rw [partition_perm.nodup_iff]
    exact (nodup_indices h).sublist (List.filter_sublist.map _)

theorem partitions_findGroups (h : g.Arena) : g.findGroups.Partitions g.findGroups.groups := by
  obtain ⟨hcovers, honce, hnonempty⟩ := partitions_partition h
  exact ⟨hcovers, honce, hnonempty⟩

/-- Whether two nodes are apart can be read off the conflicts of the later one. -/
theorem apart_of_not_mem_conflicts (h : g.Arena)
    (hn : n ∈ (g.updateRegions source).nodes) (hi : i ∉ n.conflicts) (hne : i ≠ n.index) :
    (g.updateRegions source).Apart i n.index := by
  intro a b ha hb r hra hrb
  have hu : (g.updateRegions source).Arena := arena_updateRegions h
  obtain rfl : b = n := by
    rw [getElem?_of_mem hu hn] at hb
    exact (Option.some.inj hb).symm
  apply hi
  refine (mem_conflicts_of_updateRegions h hn).mpr ⟨a, List.mem_of_getElem? ha, ?_, hne, ?_⟩
  · exact hu.index_eq i a ha
  · exact Node.sharesRegion_iff.mpr ⟨r, hrb, hra⟩

theorem pairwise_foldl_place (h : g.Arena)
    (hns : ∀ n ∈ ns, n ∈ (g.updateRegions source).nodes)
    (hnew : (groups.flatten ++ ns.map (·.index)).Nodup)
    (hg : ∀ group ∈ groups, group.Pairwise (g.updateRegions source).Apart) :
    ∀ group ∈ ns.foldl place groups, group.Pairwise (g.updateRegions source).Apart := by
  -- on the nodes still to be placed; what is placed already is apart, and none of it comes again
  induction ns generalizing groups with
  | nil => exact hg
  | cons n ns ih =>
    apply ih
    · exact fun m hm => hns m (List.mem_cons_of_mem n hm)
    · refine (List.Perm.nodup_iff (place_perm.append_right _)).mpr ?_
      simpa using hnew
    · apply pairwise_place hg
      intro i hi hc
      refine apart_of_not_mem_conflicts h (hns n List.mem_cons_self) hc ?_
      rintro rfl
      exact (List.nodup_append.mp hnew).2.2 _ hi _ (by simp) rfl

theorem pairwise_partition (h : g.Arena) :
    ∀ group ∈ (g.updateRegions source).partition,
      group.Pairwise (g.updateRegions source).Apart := by
  have hu : (g.updateRegions source).Arena := arena_updateRegions h
  apply pairwise_foldl_place h
  · exact fun n hn => (mem_pending.mp hn).1
  · rw [List.flatten_nil, List.nil_append]
    exact (nodup_indices hu).sublist (List.filter_sublist.map _)
  · simp

/-- Nodes that may stand in one group: one node twice, or two that impact no common region. -/
def Compatible (a b : Node) : Prop := a.index = b.index ∨ ∀ r ∈ a.regions, r ∉ b.regions

theorem lookup_cons_region {seen : List (Region × Node)} {r s : Region} :
    List.lookup r ((s, n) :: seen) = if r = s then some n else seen.lookup r := by
  rw [List.lookup_cons]
  by_cases h : r = s
  · simp [h]
  · rw [if_neg h, beq_false_of_ne h]

/-- A node may set its regions beside those that no other node has claimed. -/
theorem claim_ok {seen : List (Region × Node)} {rs : List Region}
    (h : ∀ r ∈ rs, ∀ m, seen.lookup r = some m → m.index = n.index) :
    ∃ seen', claim n seen rs = .ok seen' ∧
      ∀ r, seen'.lookup r = (seen.lookup r).or (if r ∈ rs then some n else none) := by
  induction rs generalizing seen with
  | nil => exact ⟨seen, rfl, by simp⟩
  | cons s rest ih =>
    rw [List.forall_mem_cons] at h
    unfold claim
    cases hs : seen.lookup s with
    | none =>
      obtain ⟨seen', hc, hl⟩ := @ih ((s, n) :: seen) (by
        intro r hr m hm
        rw [lookup_cons_region] at hm
        split at hm
        · rw [Option.some.inj hm]
        · exact h.2 r hr m hm)
      refine ⟨seen', hc, fun r => ?_⟩
      rw [hl, lookup_cons_region]
      by_cases hr : r = s <;> simp [hr, hs]
    | some other =>
      obtain ⟨seen', hc, hl⟩ := ih h.2
      refine ⟨seen', by simpa [h.1 other hs] using hc, fun r => ?_⟩
      rw [hl]
      by_cases hr : r = s <;> simp [hr, hs]

theorem claim_error {seen : List (Region × Node)} {rs : List Region} {r : Region} {m : Node}
    (hr : r ∈ rs) (hm : seen.lookup r = some m) (hne : m.index ≠ n.index) :
    ∃ c, claim n seen rs = .error c := by
  induction rs generalizing seen with
  | nil => simp at hr
  | cons s rest ih =>
    unfold claim
    cases hs : seen.lookup s with
    | none =>
      have hrs : r ≠ s := by rintro rfl; simp [hs] at hm
      apply ih ((List.mem_cons.mp hr).resolve_left hrs)
      rw [lookup_cons_region, if_neg hrs, hm]
    | some other =>
      by_cases ho : other.index = n.index
      · have hrs : r ≠ s := by
          rintro rfl
          rw [hs] at hm
          exact hne (Option.some.inj hm ▸ ho)
        simpa [ho] using ih ((List.mem_cons.mp hr).resolve_left hrs) hm
      · exact ⟨⟨other.root, n.root, s⟩, by simp [ho]⟩

/-- The check from some regions on that are claimed already. -/
def checkFrom (seen : List (Region × Node)) (ns : List Node) :
    Except Conflict (List (Region × Node)) :=
  ns.foldlM (fun seen n => claim n seen n.regions) seen

/-- Whether no node of a list would claim a region that another one has. -/
def Unclaimed (seen : List (Region × Node)) (ns : List Node) : Prop :=
  ∀ n ∈ ns, ∀ r ∈ n.regions, ∀ m, seen.lookup r = some m → m.index = n.index

theorem checkFrom_ok (seen : List (Region × Node)) (hu : Unclaimed seen ns)
    (hp : ns.Pairwise Compatible) : ∃ seen', checkFrom seen ns = .ok seen' := by
  induction ns generalizing seen with
  | nil => exact ⟨seen, rfl⟩
  | cons n ns ih =>
    rw [List.pairwise_cons] at hp
    obtain ⟨seen', hc, hl⟩ := claim_ok (hu n List.mem_cons_self)
    rw [checkFrom, List.foldlM_cons, hc]
    apply ih _ _ hp.2
    intro m hm r hr o ho
    rw [hl] at ho
    cases hs : seen.lookup r with
    | some o' =>
      rw [hs, Option.some_or] at ho
      obtain rfl := Option.some.inj ho
      exact hu m (List.mem_cons_of_mem n hm) r hr o' hs
    | none =>
      rw [hs, Option.none_or] at ho
      split at ho
      next hrn =>
        obtain rfl := Option.some.inj ho
        exact (hp.1 m hm).resolve_right fun hd => hd r hrn hr
      next => simp at ho

theorem checkFrom_error_of_claimed {seen : List (Region × Node)} (hu : ¬ Unclaimed seen ns) :
    ∃ c, checkFrom seen ns = .error c := by
  induction ns generalizing seen with
  | nil => simp [Unclaimed] at hu
  | cons n ns ih =>
    rw [checkFrom, List.foldlM_cons]
    by_cases hn : ∀ r ∈ n.regions, ∀ m, seen.lookup r = some m → m.index = n.index
    · obtain ⟨seen', hc, hl⟩ := claim_ok hn
      rw [hc]
      apply ih
      intro hu'
      apply hu
      refine List.forall_mem_cons.mpr ⟨hn, fun m hm r hr o ho => ?_⟩
      exact hu' m hm r hr o (by rw [hl, ho, Option.some_or])
    · push Not at hn
      obtain ⟨r, hr, m, hm, hne⟩ := hn
      obtain ⟨c, hc⟩ := claim_error hr hm hne
      exact ⟨c, by rw [hc]; rfl⟩

theorem checkFrom_error_of_incompatible (seen : List (Region × Node))
    (hp : ¬ ns.Pairwise Compatible) : ∃ c, checkFrom seen ns = .error c := by
  induction ns generalizing seen with
  | nil => simp at hp
  | cons n ns ih =>
    by_cases hn : ∀ r ∈ n.regions, ∀ m, seen.lookup r = some m → m.index = n.index
    · obtain ⟨seen', hc, hl⟩ := claim_ok hn
      rw [checkFrom, List.foldlM_cons, hc]
      by_cases hrest : ns.Pairwise Compatible
      · -- the clash is between `n` and a later node, which finds its region claimed
        have hclash : ∃ m ∈ ns, ¬ Compatible n m := by
          by_contra hno
          push Not at hno
          exact hp (List.pairwise_cons.mpr ⟨hno, hrest⟩)
        obtain ⟨m, hm, hcm⟩ := hclash
        simp only [Compatible, not_or, not_forall, not_not] at hcm
        obtain ⟨hne, r, hrn, hrm⟩ := hcm
        apply checkFrom_error_of_claimed
        intro hu
        have hfound : ∃ o, seen'.lookup r = some o ∧ o.index = n.index := by
          rw [hl]
          cases hs : seen.lookup r with
          | none => exact ⟨n, by simp [hrn], rfl⟩
          | some o => exact ⟨o, rfl, hn r hrn o hs⟩
        obtain ⟨o, ho, hon⟩ := hfound
        exact hne (hon.symm.trans (hu m hm r hrm o ho))
      · exact ih seen' hrest
    · apply checkFrom_error_of_claimed
      exact fun hu => hn (hu n List.mem_cons_self)

theorem checkNodes_ok (hp : ns.Pairwise Compatible) : checkNodes ns = .ok () := by
  obtain ⟨seen', hc⟩ := checkFrom_ok [] (by simp [Unclaimed]) hp
  rw [checkFrom] at hc
  rw [checkNodes, hc]
  rfl

/-- The check refuses exactly the lists with two different nodes that impact one region. -/
theorem checkNodes_error_iff :
    (∃ c, checkNodes ns = .error c) ↔ ¬ ns.Pairwise Compatible := by
  constructor
  · rintro ⟨c, hc⟩ hp
    rw [checkNodes_ok hp] at hc
    exact absurd hc (by simp)
  · intro hp
    obtain ⟨c, hc⟩ := checkFrom_error_of_incompatible [] hp
    rw [checkFrom] at hc
    exact ⟨c, by rw [checkNodes, hc]; rfl⟩

theorem mem_members : n ∈ g.members group ↔ ∃ i ∈ group, g.nodes[i]? = some n := by
  simp [members]

instance : Std.Symm Compatible where
  symm := by
    rintro a b (h | h)
    · exact .inl h.symm
    · exact .inr fun r hb ha => h r ha hb

/-- For numbers of nodes, a group is refused exactly when two different ones of it share a region. -/
theorem checkGroup_error_iff (h : g.Arena) :
    (∃ c, g.checkGroup group = .error c) ↔
      ∃ i ∈ group, ∃ j ∈ group, i ≠ j ∧ ¬ g.Apart i j := by
  rw [checkGroup, checkNodes_error_iff]
  constructor
  · intro hp
    by_contra hno
    push Not at hno
    apply hp
    apply List.pairwise_of_forall_mem_list
    intro a ha b hb
    obtain ⟨i, hi, hia⟩ := mem_members.mp ha
    obtain ⟨j, hj, hjb⟩ := mem_members.mp hb
    by_cases he : i = j
    · subst he
      exact .inl (by rw [Option.some.inj (hia.symm.trans hjb)])
    · exact .inr (hno i hi j hj he a b hia hjb)
  · rintro ⟨i, hi, j, hj, hne, hs⟩ hp
    simp only [Apart, not_forall, not_not] at hs
    obtain ⟨a, b, ha, hb, r, hra, hrb⟩ := hs
    have hall := hp.forall_of_forall fun x _ => .inl rfl
    rcases hall (mem_members.mpr ⟨i, hi, ha⟩) (mem_members.mpr ⟨j, hj, hb⟩) with he | hd
    · rw [h.index_eq i a ha, h.index_eq j b hb] at he
      exact hne he
    · exact hd r hra hrb

theorem checkGroup_ok_of_apart (h : g.Arena)
    (ha : ∀ i ∈ group, ∀ j ∈ group, i ≠ j → g.Apart i j) : g.checkGroup group = .ok () := by
  cases hc : g.checkGroup group with
  | ok => rfl
  | error c =>
    obtain ⟨i, hi, j, hj, hne, hs⟩ := (checkGroup_error_iff h).mp ⟨c, hc⟩
    exact absurd (ha i hi j hj hne) hs

theorem apart_symm (h : g.Apart i j) : g.Apart j i := fun a b ha hb r hra hrb =>
  h b a hb ha r hrb hra

theorem apart_of_mem_partition (h : g.Arena) (hg : group ∈ (g.updateRegions source).partition)
    (hi : i ∈ group) (hj : j ∈ group) (hne : i ≠ j) : (g.updateRegions source).Apart i j := by
  have hsymm : Std.Symm (g.updateRegions source).Apart := ⟨fun _ _ => apart_symm⟩
  exact (pairwise_partition h group hg).forall hi hj hne

theorem checkGroup_partition (h : g.Arena) (hg : group ∈ (g.updateRegions source).partition) :
    (g.updateRegions source).checkGroup group = .ok () :=
  checkGroup_ok_of_apart (arena_updateRegions h) fun _ hi _ hj => apart_of_mem_partition h hg hi hj

end FixTrial.Graph
