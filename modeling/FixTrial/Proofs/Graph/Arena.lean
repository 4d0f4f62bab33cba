import FixTrial.Proofs.Graph.Owners

/-! Nodes are numbered by their places, and no two have one root, however a graph came about. -/
namespace FixTrial

variable {source : RegionSource} {fixes : List Fix} {r : Region}

/-- A region is impacted by fixes when the lookup of one of them names it. -/
theorem RegionSource.mem_ofFixes :
    r ∈ source.ofFixes fixes ↔ ∃ f ∈ fixes, r ∈ (source f.location).getD [] := by
  have h : r ∈ source.ofFixes fixes ↔ _ :=
    Keyed.mem_foldl_union (fun f => (source f.location).getD []) fixes []
  simpa using h

theorem RegionSource.nodup_ofFixes : (source.ofFixes fixes).Nodup := by
  have h : ((source.ofFixes fixes).map id).Nodup :=
    Keyed.nodup_keys_foldl_union (fun f : Fix => (source f.location).getD []) fixes List.nodup_nil
  simpa using h

namespace Graph

/-- The nodes are numbered in their order, and each has a root of its own. -/
structure Arena (g : Graph) : Prop where
  index_eq : ∀ (i : Nat) (n : Node), g.nodes[i]? = some n → n.index = i
  roots_nodup : (g.nodes.map fun n => n.root.key).Nodup

/-- The graphs that come about by entering roots, looking regions up, forming groups, and changing
nodes in any way that leaves their numbers and roots. -/
inductive Built : Graph → Prop
  | empty : Built .empty
  | insert {g : Graph} (root : Fix) (fixes : List Fix) (h : Built g) :
      Built (g.insert root fixes).1
  | update {g : Graph} (source : RegionSource) (h : Built g) : Built (g.updateRegions source)
  | regroup {g : Graph} (h : Built g) : Built g.findGroups
  | amend {g : Graph} (i : Nat) (f : Node → Node)
      (hf : ∀ n, (f n).index = n.index ∧ (f n).root = n.root) (h : Built g) :
      Built (g.modify i f)

variable {g h : Graph} {root : Fix} {i j : Nat} {n m : Node}

theorem modify_getElem? (f : Node → Node) :
    (g.modify i f).nodes[j]? = (g.nodes[j]?).map fun n => if i = j then f n else n := by
  rw [modify, List.getElem?_modify]
  rfl

/-- What a change leaves of a node, it leaves of all nodes. -/
theorem map_modify {β : Type} {p : Node → β} (f : Node → Node) (hf : ∀ n, p (f n) = p n) :
    (g.modify i f).nodes.map p = g.nodes.map p := by
  apply List.ext_getElem?
  intro j
  rw [List.getElem?_map, modify_getElem?, List.getElem?_map, Option.map_map]
  congr 1
  funext n
  by_cases hij : i = j <;> simp [hij, hf]

theorem arena_modify (f : Node → Node) (hf : ∀ n, (f n).index = n.index ∧ (f n).root = n.root)
    (h : g.Arena) : (g.modify i f).Arena := by
  constructor
  · intro j n hn
    rw [modify_getElem?] at hn
    obtain ⟨m, hm, rfl⟩ := Option.map_eq_some_iff.mp hn
    split
    · rw [(hf m).1, h.index_eq j m hm]
    · exact h.index_eq j m hm
  · rw [map_modify f fun n => congrArg Fix.key (hf n).2]
    exact h.roots_nodup

theorem find?_eq_none_iff :
    g.find? root = none ↔ root.key ∉ g.nodes.map fun n => n.root.key := by
  simp [find?]

theorem mem_of_find? (hn : g.find? root = some n) : n ∈ g.nodes ∧ n.root.key = root.key :=
  ⟨List.mem_of_find?_eq_some hn, by simpa using List.find?_some hn⟩

/-- The node of a root is found by it. -/
theorem find?_of_mem (h : g.Arena) (hn : n ∈ g.nodes) : g.find? n.root = some n := by
  cases hf : g.find? n.root with
  | none => exact absurd (List.mem_map_of_mem hn) (find?_eq_none_iff.mp hf)
  | some m =>
    obtain ⟨hm, hk⟩ := mem_of_find? hf
    rw [List.inj_on_of_nodup_map h.roots_nodup hm hn hk]

theorem arena_insert (h : g.Arena) : (g.insert root fixes).1.Arena := by
  unfold insert
  split
  next n hn => exact arena_modify _ (fun _ => ⟨rfl, rfl⟩) h
  next hn =>
    constructor
    · intro i n hi
      rcases Nat.lt_or_ge i g.nodes.length with hlt | hge
      · rw [List.getElem?_append_left hlt] at hi
        exact h.index_eq i n hi
      · rw [List.getElem?_append_right hge] at hi
        cases hk : i - g.nodes.length with
        | zero =>
          rw [hk, List.getElem?_cons_zero] at hi
          obtain rfl := Option.some.inj hi
          change g.nodes.length = i
          omega
        | succ k => simp [hk] at hi
    · rw [List.map_append, List.map_singleton]
      exact List.nodup_append_comm.mp
        (List.nodup_cons.mpr ⟨find?_eq_none_iff.mp hn, h.roots_nodup⟩)

theorem mem_roots_insert {k : FixKey} :
    k ∈ (g.insert root fixes).1.nodes.map (fun n => n.root.key) ↔
      k ∈ g.nodes.map (fun n => n.root.key) ∨ k = root.key := by
  unfold insert
  split
  next n hn =>
    obtain ⟨hmem, hkey⟩ := mem_of_find? hn
    rw [map_modify (fun m => m.addFixes fixes) fun _ => rfl]
    constructor
    · exact Or.inl
    · rintro (hk | rfl)
      · exact hk
      · exact List.mem_map.mpr ⟨n, hmem, hkey⟩
  next => simp [Node.start]

theorem updateRegions_nodes :
    (g.updateRegions source).nodes = g.nodes.map fun n =>
      { n with
        regions := source.ofFixes n.fixes
        conflicts := (Owners.ofNodes (lookUp source g.nodes)).beside n.index } := by
  simp [updateRegions, lookUp]

theorem arena_updateRegions (h : g.Arena) : (g.updateRegions source).Arena := by
  constructor
  · intro i n hi
    rw [updateRegions_nodes, List.getElem?_map] at hi
    obtain ⟨m, hm, rfl⟩ := Option.map_eq_some_iff.mp hi
    exact h.index_eq i m hm
  · rw [updateRegions_nodes, List.map_map]
    exact h.roots_nodup

theorem arena_of_built (h : g.Built) : g.Arena := by
  induction h with
  | empty => exact ⟨by simp [empty], by simp [empty]⟩
  | insert root fixes _ ih => exact arena_insert ih
  | update source _ ih => exact arena_updateRegions ih
  | regroup _ ih => exact ⟨ih.index_eq, ih.roots_nodup⟩
  | amend i f hf _ ih => exact arena_modify f hf ih

/-- After a lookup every node holds what its own fixes impact. -/
theorem regions_of_updateRegions (hn : n ∈ (g.updateRegions source).nodes) :
    n.regions = source.ofFixes n.fixes := by
  rw [updateRegions_nodes] at hn
  obtain ⟨m, _, rfl⟩ := List.mem_map.mp hn
  rfl

theorem Node.sharesRegion_iff {a b : Node} :
    a.sharesRegion b = true ↔ ∃ r ∈ a.regions, r ∈ b.regions := by
  simp [FixTrial.Node.sharesRegion]

theorem getElem?_of_mem (h : g.Arena) (hn : n ∈ g.nodes) : g.nodes[n.index]? = some n := by
  obtain ⟨i, hi⟩ := List.getElem?_of_mem hn
  rw [h.index_eq i n hi]
  exact hi

theorem index_inj (h : g.Arena) (hn : n ∈ g.nodes) (hm : m ∈ g.nodes)
    (he : n.index = m.index) : n = m := by
  have h1 := getElem?_of_mem h hn
  rw [he, getElem?_of_mem h hm] at h1
  exact (Option.some.inj h1).symm

/-- The numbers of a region are those of the nodes that impact it. -/
theorem lists_iff_of_updateRegions : Owners.Lists (.ofNodes (lookUp source g.nodes)) r j ↔
    ∃ m ∈ (g.updateRegions source).nodes, r ∈ m.regions ∧ j = m.index := by
  rw [Owners.lists_ofNodes, updateRegions_nodes, lookUp]
  simp only [List.mem_map, exists_exists_and_eq_and]

/-- The conflicts of a node are the other nodes that it shares a region with. -/
theorem mem_conflicts_of_updateRegions (h : g.Arena) (hn : n ∈ (g.updateRegions source).nodes) :
    j ∈ n.conflicts ↔
      ∃ m ∈ (g.updateRegions source).nodes, m.index = j ∧ j ≠ n.index ∧ n.sharesRegion m := by
  have hconflicts : n.conflicts = (Owners.ofNodes (lookUp source g.nodes)).beside n.index := by
    rw [updateRegions_nodes] at hn
    obtain ⟨a, _, rfl⟩ := List.mem_map.mp hn
    rfl
  rw [hconflicts, Owners.mem_beside_iff Owners.distinct_ofNodes]
  constructor
  · rintro ⟨hne, r, hown, hother⟩
    obtain ⟨a, ha, hra, hindex⟩ := lists_iff_of_updateRegions.mp hown
    obtain ⟨m, hm, hrm, rfl⟩ := lists_iff_of_updateRegions.mp hother
    obtain rfl : n = a := index_inj (arena_updateRegions h) hn ha hindex
    exact ⟨m, hm, rfl, hne, Node.sharesRegion_iff.mpr ⟨r, hra, hrm⟩⟩
  · rintro ⟨m, hm, rfl, hne, hshares⟩
    obtain ⟨r, hrn, hrm⟩ := Node.sharesRegion_iff.mp hshares
    exact ⟨hne, r, lists_iff_of_updateRegions.mpr ⟨n, hn, hrn, rfl⟩,
      lists_iff_of_updateRegions.mpr ⟨m, hm, hrm, rfl⟩⟩

theorem nodup_indices (h : g.Arena) : (g.nodes.map (·.index)).Nodup := by
  have hnodes : g.nodes.Nodup := List.Nodup.of_map _ h.roots_nodup
  exact hnodes.map_on fun n hn m hm he => index_inj h hn hm he

end Graph
end FixTrial
