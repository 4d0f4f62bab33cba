import FixTrial.Proofs.Exploration.Faults
import FixTrial.Proofs.Exploration.Measured
import FixTrial.Proofs.Exploration.Regional
import FixTrial.Proofs.Snapshot.ByRegion

/-!
What one build shows is told apart by the nodes of its group. Where no two of them impact one region,
the changes in number that they say add up to the change over all their regions, and each new
diagnostic there is said by one of them. What comes up for a node are fixes of what is new for it,
except those that resolved something in the same region before.
-/
namespace FixTrial

namespace Snapshot
variable {s before after : Snapshot} {r : Region} {k : FixKey}

theorem mem_fixesIn : k ∈ (s.fixesIn r).map Fix.key ↔
    ∃ d ∈ s.diagnostics, d.region = r ∧ k ∈ d.fixes.map Fix.key := by
  rw [fixesIn, Diagnostic.mem_keys_fixesOf, inRegion]
  constructor
  · rintro ⟨_, hq, hk⟩
    obtain ⟨d, hd, rfl⟩ := List.mem_map.mp hq
    obtain ⟨hd, hr⟩ := List.mem_filter.mp hd
    exact ⟨d, hd, of_decide_eq_true hr, Diagnostic.mem_keys_fixes.mpr hk⟩
  · rintro ⟨d, hd, hr, hk⟩
    refine ⟨d.key, List.mem_map_of_mem (List.mem_filter.mpr ⟨hd, decide_eq_true hr⟩), ?_⟩
    exact Diagnostic.mem_keys_fixes.mp hk

/-- A fix that is new in a region resolves something new there, and nothing that was there before. -/
theorem mem_newFixesIn : k ∈ (before.newFixesIn after r).map Fix.key ↔
    (∃ q : DiagnosticKey, q.region = r ∧ k ∈ q.fixes ∧
      Diagnostic.occurrences q before.diagnostics < Diagnostic.occurrences q after.diagnostics) ∧
    ∀ d ∈ before.diagnostics, d.region = r → k ∉ d.fixes.map Fix.key := by
  have hnot : k ∉ (before.fixesIn r).map Fix.key ↔
      ∀ d ∈ before.diagnostics, d.region = r → k ∉ d.fixes.map Fix.key := by
    rw [mem_fixesIn]
    push Not
    rfl
  rw [newFixesIn, Keyed.mem_keys_without, hnot, mem_fixesIn]
  refine and_congr_left fun hbefore => ⟨?_, ?_⟩
  · rintro ⟨d, hd, hr, hk⟩
    have hafter : 0 < Diagnostic.occurrences d.key after.diagnostics :=
      Diagnostic.occurrences_pos_iff.mpr (List.mem_map_of_mem hd)
    have hnone : ¬ 0 < Diagnostic.occurrences d.key before.diagnostics := by
      rw [Diagnostic.occurrences_pos_iff]
      intro hmem
      obtain ⟨d', hd', hkey⟩ := List.mem_map.mp hmem
      refine hbefore d' hd' ((congrArg DiagnosticKey.region hkey).trans hr) ?_
      rw [Diagnostic.mem_keys_fixes, hkey]
      exact Diagnostic.mem_keys_fixes.mp hk
    exact ⟨d.key, hr, Diagnostic.mem_keys_fixes.mp hk, by omega⟩
  · rintro ⟨q, hr, hk, hlt⟩
    obtain ⟨d, hd, rfl⟩ := List.mem_map.mp (Diagnostic.occurrences_pos_iff.mp (Nat.zero_lt_of_lt hlt))
    exact ⟨d, hd, hr, Diagnostic.mem_keys_fixes.mpr hk⟩

end Snapshot

/-- Whatever occurs more or less often than before lies in one of some regions. -/
def Bank.ChangesIn (bank : Bank) (regions : List Region) : Prop :=
  ∀ k, Diagnostic.occurrences k bank.before.diagnostics ≠
    Diagnostic.occurrences k bank.after.diagnostics → k.region ∈ regions

namespace Node
variable {ns : List Node} {bank : Bank} {declared : Location → Bool}

/-- The regions that one of some nodes impacts. -/
def impacted (ns : List Node) : List Region := ns.flatMap (·.regions)

/-- What a build shows in the regions of some nodes, told apart by these: the changes in number that
they say add up to the change there, and what occurs more often there is said by one node each. -/
structure Decompose (ns : List Node) (bank : Bank) : Prop where
  effects : ∃ effects : List Int, ns.map (·.effect) = effects.map some ∧ effects.sum =
    Diagnostic.changeIn bank.before.diagnostics bank.after.diagnostics (impacted ns)
  apart : ns.Pairwise fun a b =>
    (a.newDiagnostics.map Diagnostic.key).Disjoint (b.newDiagnostics.map Diagnostic.key)
  once : ∀ n ∈ ns, (n.newDiagnostics.map Diagnostic.key).Nodup
  added : ∀ k, (∃ n ∈ ns, k ∈ n.newDiagnostics.map Diagnostic.key) ↔ k.region ∈ impacted ns ∧
    Diagnostic.occurrences k bank.before.diagnostics <
      Diagnostic.occurrences k bank.after.diagnostics

/-- The same for all that a build shows, wherever it lies. -/
structure DecomposeAll (ns : List Node) (bank : Bank) : Prop where
  effects : ∃ effects : List Int, ns.map (·.effect) = effects.map some ∧
    effects.sum = bank.compare.effect
  added : ∀ k, (∃ n ∈ ns, k ∈ n.newDiagnostics.map Diagnostic.key) ↔
    k ∈ bank.newDiagnostics.map Diagnostic.key

theorem impacted_measure : impacted (ns.map (Node.measure bank declared)) = impacted ns := by
  rw [impacted, List.flatMap_map]
  rfl

/-- The changes that nodes say count no region twice. -/
theorem sum_effect (hapart : ns.Pairwise fun a b => a.regions.Disjoint b.regions) :
    (ns.map fun n => ∑ r ∈ n.regions.toFinset,
        Diagnostic.change bank.before.diagnostics bank.after.diagnostics r).sum =
      Diagnostic.changeIn bank.before.diagnostics bank.after.diagnostics (impacted ns) := by
  induction ns with
  | nil => simp [impacted, Diagnostic.changeIn]
  | cons n ns ih =>
    rw [List.pairwise_cons] at hapart
    have hrest : n.regions.Disjoint (impacted ns) := by
      intro r hr hrest
      obtain ⟨m, hm, hrm⟩ := List.mem_flatMap.mp hrest
      exact hapart.1 m hm hr hrm
    rw [List.map_cons, List.sum_cons, ih hapart.2, Diagnostic.sum_change,
      ← Diagnostic.changeIn_append hrest]
    rfl

theorem mem_newDiagnostics_measure {n : Node} {k : DiagnosticKey} :
    k ∈ (n.measure bank declared).newDiagnostics.map Diagnostic.key ↔ k.region ∈ n.regions ∧
      Diagnostic.occurrences k bank.before.diagnostics <
        Diagnostic.occurrences k bank.after.diagnostics :=
  Bank.mem_newDiagnosticsIn

theorem decompose_measure (hapart : ns.Pairwise fun a b => a.regions.Disjoint b.regions)
    (hset : ∀ n ∈ ns, n.regions.Nodup) :
    Decompose (ns.map (Node.measure bank declared)) bank := by
  refine ⟨⟨_, ?_, (sum_effect hapart).trans (by rw [impacted_measure])⟩, ?_, ?_, fun k => ?_⟩
  · rw [List.map_map, List.map_map]
    exact List.map_congr_left fun n hn => effect_measure (hset n hn)
  · rw [List.pairwise_map]
    refine hapart.imp fun hdisjoint k hk hk' => ?_
    exact hdisjoint (mem_newDiagnostics_measure.mp hk).1 (mem_newDiagnostics_measure.mp hk').1
  · rintro _ hm
    obtain ⟨n, -, rfl⟩ := List.mem_map.mp hm
    exact Bank.nodup_newDiagnosticsIn
  · rw [impacted_measure, impacted, List.mem_flatMap]
    constructor
    · rintro ⟨m, hm, hk⟩
      obtain ⟨n, hn, rfl⟩ := List.mem_map.mp hm
      obtain ⟨hr, hlt⟩ := mem_newDiagnostics_measure.mp hk
      exact ⟨⟨n, hn, hr⟩, hlt⟩
    · rintro ⟨⟨n, hn, hr⟩, hlt⟩
      exact ⟨_, List.mem_map_of_mem hn, mem_newDiagnostics_measure.mpr ⟨hr, hlt⟩⟩

/-- Where the nodes' regions hold whatever changes, nothing is lost. -/
theorem Decompose.all (h : Decompose ns bank) (hin : bank.ChangesIn (impacted ns)) :
    DecomposeAll ns bank := by
  obtain ⟨effects, heffects, hsum⟩ := h.effects
  refine ⟨⟨effects, heffects, ?_⟩, fun k => ?_⟩
  · rw [hsum, Diagnostic.changeIn_of_unchanged fun k hk => not_imp_comm.mp (hin k) hk]
    rfl
  · rw [h.added]
    change _ ↔ k ∈ (Diagnostic.surplusOver _ _).map Diagnostic.key
    rw [Diagnostic.mem_surplusOver, and_iff_right_iff_imp]
    exact fun hlt => hin k hlt.ne

end Node

namespace Graph
variable {g h : Graph} {f : Node → Node} {group : List Nat} {j : Nat} {n : Node} {bank : Bank}
  {declared : Location → Bool} {ds : List Diagnostic} {source : RegionSource}

/-- A change that comes to the same when it is made again is made to a group as a whole. -/
theorem modifyGroup_getElem?_of_idem (hf : ∀ n, f (f n) = f n) :
    (g.modifyGroup group f).nodes[j]? =
      (g.nodes[j]?).map fun n => if j ∈ group then f n else n := by
  unfold modifyGroup
  induction group generalizing g with
  | nil => simp
  | cons i group ih =>
    rw [List.foldl_cons, ih, modify_getElem?, Option.map_map]
    congr 1
    funext n
    by_cases hij : i = j
    · by_cases hj : j ∈ group <;> simp [hij, hj, hf]
    · simp [hij, Ne.symm hij]

theorem members_modifyGroup (hf : ∀ n, f (f n) = f n) :
    (g.modifyGroup group f).members group = (g.members group).map f := by
  unfold members
  rw [List.map_filterMap]
  refine List.filterMap_congr fun i hi => ?_
  rw [modifyGroup_getElem?_of_idem hf]
  simp only [hi, if_true]

/-- What a measurement leaves is the nodes of the group, each measured. -/
theorem members_measureGroup {p : Graph × Bank}
    (hp : (g.measureGroup group declared bank ds).1 = some p) :
    p.2 = bank.save false ds ∧ p.1.members group =
      (g.members group).map (Node.measure (bank.save false ds) declared) := by
  unfold measureGroup at hp
  split at hp
  · simp at hp
  · obtain rfl := Option.some.inj hp
    exact ⟨rfl, members_modifyGroup fun _ => rfl⟩

/-- No two nodes of a group of a pass impact one region. -/
theorem disjoint_of_mem_partition (hg : g.Arena)
    (hgroup : group ∈ (g.updateRegions source).partition) :
    ((g.updateRegions source).members group).Pairwise (fun a b => a.regions.Disjoint b.regions) ∧
      ∀ n ∈ (g.updateRegions source).members group, n.regions.Nodup := by
  constructor
  · refine List.Pairwise.filterMap _ ?_ (pairwise_partition hg group hgroup)
    intro i j hapart a ha b hb r hra hrb
    exact hapart a b ha hb r hra hrb
  · intro n hn
    obtain ⟨i, -, hi⟩ := mem_members.mp hn
    rw [regions_of_updateRegions (List.mem_of_getElem? hi)]
    exact RegionSource.nodup_ofFixes

end Graph

namespace Exploration
open FixTrial.Graph
variable {g h : Graph} {group : List Nat} {n : Node} {bank bank' : Bank} {ds : List Diagnostic}
  {declared : Location → Bool}

/-- A group of nodes that impact different regions is measured, whatever the build shows and whatever
it is compared with, and its nodes decompose what changed in their regions. If nothing changed
outside of these, they decompose all that changed. -/
theorem measurement_decomposes
    (hapart : (g.members group).Pairwise fun a b => a.regions.Disjoint b.regions)
    (hset : ∀ n ∈ g.members group, n.regions.Nodup) :
    ∃ h, g.measureGroup group declared bank ds = (some (h, bank.save false ds), .ok ()) ∧
      h.bare = g.bare ∧ Node.Decompose (h.members group) (bank.save false ds) ∧
      ((bank.save false ds).ChangesIn (Node.impacted (h.members group)) →
        Node.DecomposeAll (h.members group) (bank.save false ds)) := by
  have hok : g.checkGroup group = .ok () :=
    checkGroup_ok_iff.mpr (hapart.imp fun hdisjoint => .inr hdisjoint)
  have hmeasured : g.measureGroup group declared bank ds = (some (g.modifyGroup group
      (Node.measure (bank.save false ds) declared), bank.save false ds), .ok ()) :=
    measureGroup_of_ok hok
  have hfst := congrArg Prod.fst hmeasured
  have hall : Node.Decompose ((g.modifyGroup group
      (Node.measure (bank.save false ds) declared)).members group) (bank.save false ds) := by
    rw [(members_measureGroup hfst).2]
    exact Node.decompose_measure hapart hset
  exact ⟨_, hmeasured, bare_measureGroup hfst, hall, hall.all⟩

/-- One diagnostic of a class, which a fix elsewhere resolves. -/
def showing : List Diagnostic := [⟨"null", "p", .ofType "A", [.ofField "C" "u"]⟩]

/-- Two more of that class, one of them resolved by the same fix, and one of another class. -/
def showingMore : List Diagnostic := showing ++
  [⟨"null", "q", .ofType "A", [.ofField "C" "u"]⟩, ⟨"null", "r", .ofType "A", [.ofField "C" "v"]⟩,
    ⟨"null", "s", .ofType "B", []⟩]

/-- Two fields of different classes, measured by what a build shows beyond the baseline. -/
def shown : Graph := (threeFields.updateRegions .own).modifyGroup [0, 2]
  (Node.measure ⟨⟨showing⟩, ⟨showingMore⟩⟩ fun _ => true)

theorem measureGroup_showing : (threeFields.updateRegions .own).measureGroup [0, 2]
    (fun _ => true) (.baseline showing) showingMore =
      (some (shown, ⟨⟨showing⟩, ⟨showingMore⟩⟩), .ok ()) := rfl

theorem measurement_decomposes_showing :
    (shown.members [0, 2]).map (·.effect) = [some 2, some 1] ∧
    Node.DecomposeAll (shown.members [0, 2]) ⟨⟨showing⟩, ⟨showingMore⟩⟩ := by
  have hgroup : [0, 2] ∈ (threeFields.updateRegions .own).partition := by decide
  obtain ⟨hapart, hset⟩ := disjoint_of_mem_partition (arena_of_built built_threeFields) hgroup
  obtain ⟨h, hmeasured, -, -, hall⟩ := @measurement_decomposes _ _ (.baseline showing) showingMore
    (fun _ => true) hapart hset
  obtain rfl : shown = h := by
    rw [measureGroup_showing] at hmeasured
    exact congrArg Prod.fst (Option.some.inj (congrArg Prod.fst hmeasured))
  refine ⟨by decide, hall fun k hk => ?_⟩
  -- what occurs at all lies in one of the two classes
  have hregions : ∀ d ∈ showing ++ showingMore,
      d.region ∈ Node.impacted (shown.members [0, 2]) := by decide
  have hoccurs : 0 < Diagnostic.occurrences k (showing ++ showingMore) := by
    rw [Diagnostic.occurrences, List.countP_append]
    exact Nat.pos_of_ne_zero fun h0 => hk ((Nat.add_eq_zero_iff.mp h0).1.trans
      (Nat.add_eq_zero_iff.mp h0).2.symm)
  obtain ⟨d, hd, rfl⟩ := List.mem_map.mp (Diagnostic.occurrences_pos_iff.mp hoccurs)
  exact hregions d hd

/-- What comes up for a measured node are the declared fixes, not tried with it yet, that resolve
something new for it, and nothing that was there before in the same region. -/
theorem triggered_of_new (hplace : ByPlace declared)
    (hm : (g.measureGroup group declared bank ds).1 = some (h, bank')) (hn : n ∈ h.members group)
    (f : Fix) :
    f.key ∈ n.triggered.map Fix.key ↔
      f.key ∉ n.fixes.map Fix.key ∧ declared f.location = true ∧
        ∃ d ∈ n.newDiagnostics, f.key ∈ d.fixes.map Fix.key ∧
          ∀ d' ∈ bank.before.diagnostics, d'.region = d.region → f.key ∉ d'.fixes.map Fix.key := by
  obtain ⟨-, hmembers⟩ := members_measureGroup hm
  obtain ⟨m, -, rfl⟩ := List.mem_map.mp (hmembers ▸ hn)
  rw [Node.mem_triggered_measure hplace, hplace ⟨f.key.place, ""⟩ f.location rfl, and_assoc]
  refine and_congr_right fun _ => and_congr_right fun _ => ?_
  constructor
  · rintro ⟨r, hr, hk⟩
    obtain ⟨⟨q, rfl, hkq, hlt⟩, hbefore⟩ := Snapshot.mem_newFixesIn.mp hk
    have hnew : q ∈ (m.measure (bank.save false ds) declared).newDiagnostics.map Diagnostic.key :=
      Node.mem_newDiagnostics_measure.mpr ⟨hr, hlt⟩
    obtain ⟨d, hd, rfl⟩ := List.mem_map.mp hnew
    exact ⟨d, hd, Diagnostic.mem_keys_fixes.mpr hkq, hbefore⟩
  · rintro ⟨d, hd, hk, hbefore⟩
    obtain ⟨hr, hlt⟩ := Node.mem_newDiagnostics_measure.mp (List.mem_map_of_mem hd)
    refine ⟨d.region, hr, Snapshot.mem_newFixesIn.mpr ⟨⟨d.key, rfl, ?_, hlt⟩, hbefore⟩⟩
    exact Diagnostic.mem_keys_fixes.mp hk

theorem triggered_of_new_showing : ∃ n ∈ shown.members [0, 2],
    (Fix.ofField "C" "v").key ∈ n.triggered.map Fix.key ∧
    (Fix.ofField "C" "u").key ∉ n.triggered.map Fix.key := by
  have hplace : ByPlace fun _ => true := fun _ _ _ => rfl
  have hm := congrArg Prod.fst measureGroup_showing
  have hn : (shown.members [0, 2])[0] ∈ shown.members [0, 2] := List.getElem_mem _
  refine ⟨_, hn, ?_, ?_⟩
  · rw [triggered_of_new hplace hm hn]
    decide +kernel
  · rw [triggered_of_new hplace hm hn]
    decide +kernel

/-- What was resolved by a fix before, in the same region, keeps it from coming up for something new
that it resolves. -/
theorem resolving_not_triggered : ∃ declared, ByPlace declared ∧ ∃ h bank' n,
    ((threeFields.updateRegions .own).measureGroup [0, 2] declared (.baseline showing)
      showingMore).1 = some (h, bank') ∧ n ∈ h.members [0, 2] ∧
    ¬ ∀ f : Fix, f.key ∈ n.triggered.map Fix.key ↔
      f.key ∉ n.fixes.map Fix.key ∧ declared f.location = true ∧
        ∃ d ∈ n.newDiagnostics, f.key ∈ d.fixes.map Fix.key := by
  refine ⟨fun _ => true, fun _ _ _ => rfl, _, _, _, rfl, List.mem_cons_self, fun hall => ?_⟩
  exact absurd ((hall (.ofField "C" "u")).mpr (by decide +kernel)) (by decide +kernel)

end Exploration
end FixTrial
