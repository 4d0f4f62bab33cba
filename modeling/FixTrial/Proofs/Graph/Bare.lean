import FixTrial.Exploration.Pass
import FixTrial.Proofs.Graph.Groups

/-! What a pass leaves alone: of a node it changes the measurement, and nothing else. -/
namespace FixTrial
namespace Node
variable {m n : Node} {bank : Bank} {declared : Location → Bool}

/-- A node without its measurement. -/
def bare (n : Node) : Node :=
  { n with effect := none, failed := false, newDiagnostics := [], triggered := [] }

theorem index_of_bare_eq (h : m.bare = n.bare) : m.index = n.index := by
  change m.bare.index = n.bare.index
  rw [h]

theorem root_of_bare_eq (h : m.bare = n.bare) : m.root = n.root := by
  change m.bare.root = n.bare.root
  rw [h]

theorem fixes_of_bare_eq (h : m.bare = n.bare) : m.fixes = n.fixes := by
  change m.bare.fixes = n.bare.fixes
  rw [h]

end Node

namespace Graph
variable {g h : Graph} {f : Node → Node} {i j : Nat} {group : List Nat} {n : Node}
  {declared : Location → Bool} {bank : Bank} {ds : List Diagnostic}

/-- A graph without the measurements of its nodes. -/
def bare (g : Graph) : Graph := { g with nodes := g.nodes.map Node.bare }

theorem getElem?_bare : g.bare.nodes[i]? = (g.nodes[i]?).map Node.bare :=
  List.getElem?_map

theorem getElem?_of_bare_eq (hb : h.bare = g.bare) (hn : g.nodes[i]? = some n) :
    ∃ m, h.nodes[i]? = some m ∧ m.bare = n.bare := by
  have hbare : h.bare.nodes[i]? = some n.bare := by
    rw [hb, getElem?_bare, hn, Option.map_some]
  rw [getElem?_bare] at hbare
  exact Option.map_eq_some_iff.mp hbare

theorem roots_bare : (g.bare.nodes.map fun n => n.root.key) = g.nodes.map fun n => n.root.key := by
  rw [bare, List.map_map]
  rfl

/-- What is numbered and rooted well is so with any measurements. -/
theorem arena_of_bare_eq (he : h.bare = g.bare) (hg : g.Arena) : h.Arena := by
  constructor
  · intro i n hn
    obtain ⟨m, hm, hmn⟩ := getElem?_of_bare_eq he.symm hn
    rw [← Node.index_of_bare_eq hmn, hg.index_eq i m hm]
  · rw [← roots_bare, he, roots_bare]
    exact hg.roots_nodup

theorem bare_modify (hf : ∀ n, (f n).bare = n.bare) : (g.modify i f).bare = g.bare := by
  have hnodes : (g.modify i f).bare.nodes = g.bare.nodes := by
    apply List.ext_getElem?
    intro j
    rw [getElem?_bare, getElem?_bare, modify_getElem?, Option.map_map]
    congr 1
    funext n
    by_cases hij : i = j <;> simp [hij, hf]
  have hgroups : (g.modify i f).bare.groups = g.bare.groups := rfl
  cases hb : (g.modify i f).bare
  cases hg : g.bare
  simp_all

theorem bare_modifyGroup (hf : ∀ n, (f n).bare = n.bare) :
    (g.modifyGroup group f).bare = g.bare := by
  unfold modifyGroup
  induction group generalizing g with
  | nil => rfl
  | cons i group ih => rw [List.foldl_cons, ih, bare_modify hf]

theorem members_bare : g.bare.members group = (g.members group).map Node.bare := by
  unfold members
  rw [List.map_filterMap]
  congr 1
  funext i
  exact getElem?_bare

/-- The nodes of a group have their fixes with any measurements. -/
theorem map_fixes_of_bare_eq (hb : h.bare = g.bare) (group : List Nat) :
    (h.members group).map (·.fixes) = (g.members group).map (·.fixes) := by
  have hbare : ∀ k : Graph, (k.members group).map (·.fixes) =
      (k.bare.members group).map (·.fixes) := by
    intro k
    rw [members_bare, List.map_map]
    rfl
  rw [hbare h, hb, ← hbare g]

theorem checkGroup_ok_iff :
    g.checkGroup group = .ok () ↔ (g.members group).Pairwise Compatible := by
  constructor
  · intro hc
    by_contra hp
    obtain ⟨c, he⟩ := checkNodes_error_iff.mpr hp
    exact absurd (hc.symm.trans he) (by simp)
  · exact checkNodes_ok

/-- Whether a group is accepted does not depend on measurements. -/
theorem checkGroup_bare : g.bare.checkGroup group = .ok () ↔ g.checkGroup group = .ok () := by
  rw [checkGroup_ok_iff, checkGroup_ok_iff, members_bare, List.pairwise_map]
  rfl

theorem checkGroup_of_bare_eq (he : g.bare = h.bare) (hc : h.checkGroup group = .ok ()) :
    g.checkGroup group = .ok () := by
  rw [← checkGroup_bare, he, checkGroup_bare]
  exact hc

/-- A node alone is always accepted. -/
theorem checkGroup_singleton : g.checkGroup [i] = .ok () := by
  rw [checkGroup_ok_iff]
  cases hn : g.nodes[i]? <;> simp [members, hn]

theorem measureGroup_of_ok (hc : g.checkGroup group = .ok ()) :
    g.measureGroup group declared bank ds =
      (some (g.modifyGroup group (Node.measure (bank.save false ds) declared), bank.save false ds),
        .ok ()) := by
  unfold measureGroup
  rw [hc]

theorem bare_measureGroup {p : Graph × Bank}
    (hp : (g.measureGroup group declared bank ds).1 = some p) : p.1.bare = g.bare := by
  unfold measureGroup at hp
  split at hp
  · simp at hp
  · obtain rfl := Option.some.inj hp
    exact bare_modifyGroup fun _ => rfl

end Graph
end FixTrial
