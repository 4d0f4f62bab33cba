import FixTrial.Proofs.Graph.Arena
import FixTrial.RegionLookup
import Mathlib.Data.List.Induction

/-!
Histories of graphs. Roots are entered in any order, again and with further fixes; in between,
regions are looked up, groups are formed, and anything else about the nodes is stored. The places,
the roots and the fixes of the nodes follow from what is entered, and a lookup makes the regions and
the conflicts from nothing else.
-/
namespace FixTrial.Graph

/-- What is done to a graph. -/
inductive Step where
  | enter (root : Fix) (fixes : List Fix)
  /-- Anything stored in a node, beside its number, root and fixes. -/
  | store (index : Nat) (change : Node → Node)
  | lookUp (source : RegionSource)
  | regroup

/-- A node that is changed in all but its number, root and fixes. -/
def alter (change : Node → Node) (n : Node) : Node :=
  { change n with index := n.index, root := n.root, fixes := n.fixes }

def Step.apply (g : Graph) : Step → Graph
  | .enter root fixes => (g.insert root fixes).1
  | .store index change => g.modify index (alter change)
  | .lookUp source => g.updateRegions source
  | .regroup => g.findGroups

/-- The graph that a history leads to. -/
def after (steps : List Step) : Graph := steps.foldl Step.apply .empty

/-- The roots that are entered, each with the fixes that are supplied for it. -/
def entered (steps : List Step) : List (Fix × List Fix) :=
  steps.filterMap fun
    | .enter root fixes => some (root, fixes)
    | _ => none

/-- The fixes that are ever supplied for the root with a key. -/
def supplied (k : FixKey) (steps : List Step) : List Fix :=
  ((entered steps).filter fun call => call.1.key = k).flatMap Prod.snd

/-- The nodes are numbered in the order in which their roots are entered first, one for each root,
and hold the root together with every fix that is ever supplied for it. -/
structure Records (steps : List Step) (g : Graph) : Prop extends Arena g where
  roots : g.nodes.map (·.root) = Keyed.distinct Fix.key ((entered steps).map Prod.fst)
  fixes : ∀ n ∈ g.nodes, n.fixes = Keyed.distinct Fix.key (n.root :: supplied n.root.key steps)

/-- The roots of `g` have in `h` the numbers that they have in `g`. -/
def KeepsRoots (g h : Graph) : Prop :=
  ∀ (i : Nat) (n : Node), g.nodes[i]? = some n → ∃ m, h.nodes[i]? = some m ∧ m.root = n.root

/-- Each node has the regions that its fixes impact, and conflicts with the others that have one of
them. -/
structure Related (source : RegionSource) (g : Graph) : Prop where
  regions : ∀ n ∈ g.nodes, ∀ r, r ∈ n.regions ↔ ∃ f ∈ n.fixes, r ∈ (source f.location).getD []
  conflicts : ∀ (i : Nat) (n : Node), g.nodes[i]? = some n → ∀ j, j ∈ n.conflicts ↔
    j ≠ i ∧ ∃ m, g.nodes[j]? = some m ∧ ∃ r ∈ n.regions, r ∈ m.regions

variable {g h : Graph} {source : RegionSource} {steps later : List Step} {step : Step} {root : Fix}
  {fixes : List Fix} {n m : Node} {i : Nat} {k : FixKey}

theorem after_append : after (steps ++ later) = later.foldl Step.apply (after steps) :=
  List.foldl_append

theorem arena_apply (h : g.Arena) : (step.apply g).Arena := by
  cases step with
  | enter root fixes => exact arena_insert h
  | store index change => exact arena_modify _ (fun _ => ⟨rfl, rfl⟩) h
  | lookUp source => exact arena_updateRegions h
  | regroup => exact ⟨h.index_eq, h.roots_nodup⟩

theorem entered_append : entered (steps ++ later) = entered steps ++ entered later :=
  List.filterMap_append

theorem supplied_append : supplied k (steps ++ later) = supplied k steps ++ supplied k later := by
  simp [supplied, entered_append]

theorem supplied_of_not_entered (h : k ∉ (entered steps).map fun call => call.1.key) :
    supplied k steps = [] := by
  have hnone : (entered steps).filter (fun call => call.1.key = k) = [] := by
    rw [List.filter_eq_nil_iff]
    intro call hcall hkey
    exact h (List.mem_map.mpr ⟨call, hcall, by simpa using hkey⟩)
  rw [supplied, hnone, List.flatMap_nil]

theorem supplied_enter_same (h : root.key = k) :
    supplied k (steps ++ [.enter root fixes]) = supplied k steps ++ fixes := by
  rw [supplied_append]
  simp [supplied, entered, h]

theorem supplied_enter_other (h : root.key ≠ k) :
    supplied k (steps ++ [.enter root fixes]) = supplied k steps := by
  rw [supplied_append]
  simp [supplied, entered, h]

theorem roots_enter : (entered (steps ++ [.enter root fixes])).map Prod.fst =
    (entered steps).map Prod.fst ++ [root] := by
  rw [entered_append, List.map_append]
  rfl

/-- The keys of the nodes are the ones that are entered. -/
theorem Records.mem_keys (h : Records steps g) :
    k ∈ g.nodes.map (fun n => n.root.key) ↔ k ∈ (entered steps).map fun call => call.1.key := by
  have hnodes : (g.nodes.map (·.root)).map Fix.key = g.nodes.map fun n => n.root.key := List.map_map
  rw [← hnodes, h.roots, Keyed.mem_keys_distinct, List.map_map]
  rfl

/-- A step that enters nothing and leaves the roots and the fixes of the nodes. -/
theorem Records.of_same (h : Records steps g) (harena : (step.apply g).Arena)
    (hentered : entered [step] = [])
    (hsame : (step.apply g).nodes.map (fun n => (n.root, n.fixes)) =
      g.nodes.map fun n => (n.root, n.fixes)) : Records (steps ++ [step]) (step.apply g) where
  toArena := harena
  roots := by
    have hroots := congrArg (List.map Prod.fst) hsame
    rw [List.map_map, List.map_map] at hroots
    rw [entered_append, hentered, List.append_nil]
    exact Eq.trans hroots h.roots
  fixes n hn := by
    obtain ⟨m, hm, heq⟩ : ∃ m ∈ g.nodes, (m.root, m.fixes) = (n.root, n.fixes) :=
      List.mem_map.mp (hsame ▸ List.mem_map_of_mem hn)
    obtain ⟨hroot, hfixes⟩ := Prod.mk.inj heq
    have hsupplied : supplied n.root.key [step] = [] := by simp [supplied, hentered]
    rw [supplied_append, hsupplied, List.append_nil, ← hroot, ← hfixes]
    exact h.fixes m hm

/-- A root that is entered again gets the fixes that it does not have. -/
theorem Records.enter_known (h : Records steps g) (hn : g.find? root = some n) :
    Records (steps ++ [.enter root fixes]) (g.modify n.index (·.addFixes fixes)) where
  toArena := arena_modify _ (fun _ => ⟨rfl, rfl⟩) h.toArena
  roots := by
    have hmem : root.key ∈ ((entered steps).map Prod.fst).map Fix.key := by
      obtain ⟨hmem, hkey⟩ := mem_of_find? hn
      rw [List.map_map]
      exact h.mem_keys.mp (List.mem_map.mpr ⟨n, hmem, hkey⟩)
    rw [map_modify (fun m => m.addFixes fixes) fun _ => rfl, h.roots, roots_enter,
      Keyed.distinct_append_of_mem hmem]
  fixes a ha := by
    obtain ⟨hmem, hkey⟩ := mem_of_find? hn
    obtain ⟨j, hj⟩ := List.getElem?_of_mem ha
    rw [modify_getElem?] at hj
    obtain ⟨m, hm, rfl⟩ := Option.map_eq_some_iff.mp hj
    have hmnodes : m ∈ g.nodes := List.mem_of_getElem? hm
    have hmfixes := h.fixes m hmnodes
    -- only the node of the root has the number that is changed
    split
    next hindex =>
      obtain rfl : n = m := index_inj h.toArena hmem hmnodes (hindex.trans (h.index_eq j m hm).symm)
      change Keyed.union Fix.key n.fixes fixes =
        Keyed.distinct Fix.key (n.root :: supplied n.root.key _)
      rw [supplied_enter_same hkey.symm, ← List.cons_append, Keyed.distinct_append, hmfixes]
    next hindex =>
      have hother : root.key ≠ m.root.key := by
        intro hroot
        obtain rfl : n = m :=
          List.inj_on_of_nodup_map h.roots_nodup hmem hmnodes (hkey.trans hroot)
        exact hindex (h.index_eq j n hm)
      rw [supplied_enter_other hother, hmfixes]

/-- A root that is entered for the first time comes behind all others. -/
theorem Records.enter_new (h : Records steps g) (hn : g.find? root = none) :
    Records (steps ++ [.enter root fixes])
      { g with nodes := g.nodes ++ [.start g.size root fixes] } := by
  have hnew : root.key ∉ (entered steps).map fun call => call.1.key :=
    fun hmem => find?_eq_none_iff.mp hn (h.mem_keys.mpr hmem)
  have harena : (g.insert root fixes).1.Arena := arena_insert h.toArena
  rw [insert, hn] at harena
  refine ⟨harena, ?_, fun a ha => ?_⟩
  · rw [roots_enter, Keyed.distinct_append_of_new (by rwa [List.map_map]), List.map_append, h.roots]
    rfl
  · rcases List.mem_append.mp ha with hold | hstart
    · have hother : root.key ≠ a.root.key := fun hkey =>
        find?_eq_none_iff.mp hn (List.mem_map.mpr ⟨a, hold, hkey.symm⟩)
      rw [supplied_enter_other hother, h.fixes a hold]
    · obtain rfl := List.mem_singleton.mp hstart
      change Keyed.union Fix.key [root] fixes = Keyed.distinct Fix.key (root :: supplied root.key _)
      rw [supplied_enter_same rfl, supplied_of_not_entered hnew]
      rfl

theorem records_step (h : Records steps g) : Records (steps ++ [step]) (step.apply g) := by
  have harena : (step.apply g).Arena := arena_apply h.toArena
  cases step with
  | enter root fixes =>
    change Records _ (g.insert root fixes).1
    unfold insert
    split
    next n hn => exact h.enter_known hn
    next hn => exact h.enter_new hn
  | store index change => exact h.of_same harena rfl (map_modify (alter change) fun _ => rfl)
  | lookUp source =>
    refine h.of_same harena rfl ?_
    rw [Step.apply, updateRegions_nodes, List.map_map]
    rfl
  | regroup => exact h.of_same harena rfl rfl

/-- The last step comes after a history that is recorded already. -/
theorem records_after (steps : List Step) : Records steps (after steps) := by
  induction steps using List.reverseRecOn with
  | nil => exact ⟨arena_of_built .empty, rfl, fun n hn => absurd hn List.not_mem_nil⟩
  | append_singleton steps step ih =>
    rw [after_append]
    exact records_step ih

/-- A root keeps its number, whatever comes later. -/
theorem keepsRoots_after (steps later : List Step) :
    KeepsRoots (after steps) (after (steps ++ later)) := by
  have hprefix : (after steps).nodes.map (·.root) <+:
      (after (steps ++ later)).nodes.map (·.root) := by
    rw [(records_after steps).roots, (records_after (steps ++ later)).roots, entered_append,
      List.map_append, Keyed.distinct_append]
    exact Keyed.prefix_union _ _
  intro i n hi
  have hroot : ((after steps).nodes.map (·.root))[i]? = some n.root := by
    rw [List.getElem?_map, hi]
    rfl
  have hlater : ((after (steps ++ later)).nodes.map (·.root))[i]? = some n.root := by
    obtain ⟨rest, hrest⟩ := hprefix
    obtain ⟨hlt, -⟩ := List.getElem?_eq_some_iff.mp hroot
    rw [← hrest, List.getElem?_append_left hlt, hroot]
  rw [List.getElem?_map] at hlater
  exact Option.map_eq_some_iff.mp hlater

/-- The number that comes back is that of the node of the root. -/
theorem insert_number (h : g.Arena) (root : Fix) (fixes : List Fix) : ∃ n,
    (g.insert root fixes).1.nodes[(g.insert root fixes).2]? = some n ∧ n.root.key = root.key := by
  unfold insert
  split
  next n hn =>
    obtain ⟨hmem, hkey⟩ := mem_of_find? hn
    refine ⟨n.addFixes fixes, ?_, hkey⟩
    rw [modify_getElem?, getElem?_of_mem h hmem]
    simp
  next => exact ⟨.start g.size root fixes, by simp [size], rfl⟩

/-- Regions and conflicts come from the fixes of the nodes, whatever was there before. -/
theorem related_updateRegions (h : g.Arena) : Related source (g.updateRegions source) where
  regions n hn r := by rw [regions_of_updateRegions hn, RegionSource.mem_ofFixes]
  conflicts i n hi j := by
    have harena : (g.updateRegions source).Arena := arena_updateRegions h
    rw [mem_conflicts_of_updateRegions h (List.mem_of_getElem? hi), harena.index_eq i n hi]
    constructor
    · rintro ⟨m, hm, rfl, hne, hshares⟩
      exact ⟨hne, m, getElem?_of_mem harena hm, Node.sharesRegion_iff.mp hshares⟩
    · rintro ⟨hne, m, hm, hshares⟩
      exact ⟨m, List.mem_of_getElem? hm, harena.index_eq j m hm, hne,
        Node.sharesRegion_iff.mpr hshares⟩

/-- Whatever is done to a graph, its nodes record what was entered. A root keeps its number, which is
the one that comes back whenever it is entered. After a lookup, two nodes conflict exactly if the
lookup gives them a common region, whatever conflicts and regions were stored. -/
theorem records_of_history (steps later : List Step) (root : Fix) (fixes : List Fix)
    (source : RegionSource) :
    Records steps (after steps) ∧
    KeepsRoots (after steps) (after (steps ++ later)) ∧
    (∃ n, (after (steps ++ .enter root fixes :: later)).nodes[
      ((after steps).insert root fixes).2]? = some n ∧ n.root.key = root.key) ∧
    Related source (after (steps ++ [.lookUp source])) := by
  have harena : (after steps).Arena := (records_after steps).toArena
  refine ⟨records_after steps, keepsRoots_after steps later, ?_, ?_⟩
  · obtain ⟨n, hn, hkey⟩ := insert_number harena root fixes
    have hentered : after (steps ++ [.enter root fixes]) = ((after steps).insert root fixes).1 :=
      after_append
    rw [← hentered] at hn
    obtain ⟨m, hm, hroot⟩ := keepsRoots_after _ later _ _ hn
    rw [List.append_cons]
    exact ⟨m, hm, hroot ▸ hkey⟩
  · rw [after_append]
    exact related_updateRegions harena

/-- Conflicts that are none, stored between two entries of one field, are gone after the lookup. -/
example : (after [.enter (.ofField "A" "x") [], .enter (.ofField "A" "y") [],
    .store 1 fun n => { n with conflicts := [7] },
    .enter (.ofField "A" "x") [.ofField "B" "z"], .lookUp .own]).nodes.map
      (fun n => (n.fixes, n.conflicts)) =
    [([.ofField "A" "x", .ofField "B" "z"], [1]), ([.ofField "A" "y"], [0])] := by cbv

end FixTrial.Graph
