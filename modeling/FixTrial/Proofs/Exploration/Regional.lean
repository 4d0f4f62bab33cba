import FixTrial.Exploration.Indexed
import FixTrial.Proofs.Exploration.Tried
import FixTrial.Proofs.Snapshot
import FixTrial.Proofs.Workspace.Functional

/-!
Regional builds: what is reported in a region depends on the fixes that impact it. There a node of a
group measures what it would measure alone.
-/
namespace FixTrial
open Diagnostic

variable {source : RegionSource} {declared : Location → Bool}
  {V : Finset FixKey → List Diagnostic} {failing : Set FixKey} {fixes fixes' : List Fix}
  {r : Region} {before : Snapshot} {again : Bool}

/-- Locations that are equal but for the file they were found in are declared alike. -/
def ByPlace (declared : Location → Bool) : Prop :=
  ∀ l l' : Location, l.toPlace = l'.toPlace → declared l = declared l'

/-- What an index declares, it declares by place. -/
theorem byPlace_indexed {ω : Type} (ctx : Context ω) (x : ProgramIndex) (lookup : RegionLookup)
    (linking : Bool) : ByPlace (ctx.indexed x lookup linking).declared := by
  intro l l' h
  exact congrArg x.declares h

/-- The fixes that impact a region. -/
def touching (source : RegionSource) (r : Region) (fixes : List Fix) : List Fix :=
  fixes.filter fun f => r ∈ (source f.location).getD []

/-- Where a build succeeds, what it reports in a region is, up to the order, what the fixes that
impact the region make it report there. -/
def Regional (source : RegionSource) (V : Finset FixKey → List Diagnostic)
    (failing : Set FixKey) : Prop :=
  ∀ fixes r, ¬ Meets failing (Fix.keys fixes) →
    Alike ((Snapshot.mk (V (Fix.keys fixes))).inRegion r)
      ((Snapshot.mk (V (Fix.keys (touching source r fixes)))).inRegion r)

theorem mem_keys_touching {k : FixKey} : k ∈ Fix.keys (touching source r fixes) ↔
    ∃ f ∈ fixes, r ∈ (source f.location).getD [] ∧ f.key = k := by
  simp [Fix.mem_keys, touching, and_assoc]

theorem Regional.alike (h : Regional source V failing) (hs : ¬ Meets failing (Fix.keys fixes))
    (hs' : ¬ Meets failing (Fix.keys fixes'))
    (he : Fix.keys (touching source r fixes) = Fix.keys (touching source r fixes')) :
    Alike ((Snapshot.mk (V (Fix.keys fixes))).inRegion r)
      ((Snapshot.mk (V (Fix.keys fixes'))).inRegion r) := by
  have hfixes := h fixes r hs
  rw [he] at hfixes
  exact hfixes.trans (h fixes' r hs').symm

namespace Node
variable {n m k : Node}

/-- Two nodes that say the same: the same fixes tried, with the same effect, and in whatever order
the same diagnostics added and fixes brought up. -/
structure Agrees (n m : Node) : Prop where
  fixes : n.fixes = m.fixes
  failed : n.failed = m.failed
  effect : n.effect = m.effect
  added : Keyed.Same Diagnostic.key n.newDiagnostics m.newDiagnostics
  triggered : Keyed.Same Fix.key n.triggered m.triggered

theorem Agrees.refl (n : Node) : n.Agrees n := ⟨rfl, rfl, rfl, .refl _, .refl _⟩

theorem Agrees.trans (h : n.Agrees m) (h' : m.Agrees k) : n.Agrees k :=
  ⟨h.fixes.trans h'.fixes, h.failed.trans h'.failed, h.effect.trans h'.effect,
    h.added.trans h'.added, h.triggered.trans h'.triggered⟩

/-- What comes up for a node is declared, not tried with it yet, and resolves something new in one of
its regions. -/
theorem mem_triggered_measure {bank : Bank} {k : FixKey} (hplace : ByPlace declared) :
    k ∈ (n.measure bank declared).triggered.map Fix.key ↔
      (k ∉ n.fixes.map Fix.key ∧ declared ⟨k.place, ""⟩ = true) ∧
        ∃ r ∈ n.regions, k ∈ (bank.newFixesIn r).map Fix.key := by
  have hkey : ∀ f : Fix, (!Keyed.has Fix.key f.key n.fixes && declared f.location) =
      (!Keyed.has Fix.key f.key n.fixes && declared ⟨f.key.place, ""⟩) := by
    intro f
    rw [hplace ⟨f.key.place, ""⟩ f.location rfl]
  change k ∈ (List.filter _ (List.foldl _ [] n.regions)).map Fix.key ↔ _
  rw [Keyed.mem_keys_filter Fix.key
      (fun k => !Keyed.has Fix.key k n.fixes && declared ⟨k.place, ""⟩) hkey,
    Keyed.mem_keys_foldl_union, List.map_nil, and_comm, Bool.and_eq_true, Bool.not_eq_true',
    Keyed.has_eq_false_iff]
  simp only [List.not_mem_nil, false_or]

/-- A measurement looks at the regions that the node impacts, and there at no order. -/
theorem measure_agrees {ds ds' : List Diagnostic} (hplace : ByPlace declared)
    (h : ∀ r ∈ n.regions, Alike ((Snapshot.mk ds).inRegion r) ((Snapshot.mk ds').inRegion r)) :
    (n.measure ⟨before, ⟨ds⟩⟩ declared).Agrees (n.measure ⟨before, ⟨ds'⟩⟩ declared) := by
  refine ⟨rfl, rfl, congrArg some ?_, fun k => ?_, fun k => ?_⟩
  · refine List.foldl_ext _ _ _ fun sum r hr => ?_
    exact congrArg (sum + ·) (Snapshot.effect_of_alike (h r hr))
  · change k ∈ (List.foldl _ [] n.regions).map Diagnostic.key ↔
      k ∈ (List.foldl _ [] n.regions).map Diagnostic.key
    rw [Keyed.mem_keys_foldl_union, Keyed.mem_keys_foldl_union]
    refine or_congr_right (exists_congr fun r => and_congr_right fun hr => ?_)
    exact Snapshot.added_of_alike (h r hr) k
  · rw [mem_triggered_measure hplace, mem_triggered_measure hplace]
    refine and_congr_right fun _ => exists_congr fun r => and_congr_right fun hr => ?_
    exact Snapshot.newFixesIn_of_alike (h r hr) k

/-- A node of a group that impacts no region of it but through its own fixes says what it says when
it is built alone. -/
theorem inGroup_agrees (hplace : ByPlace declared) (hlocal : Regional source V failing)
    (hsub : n.keys ⊆ Fix.keys fixes)
    (hown : ∀ r ∈ n.regions,
      Fix.keys (touching source r fixes) = Fix.keys (touching source r n.fixes))
    (hagain : again = true ∨ Fix.keys fixes = n.keys) :
    (n.inGroup (outcome V failing) before declared again (Fix.keys fixes)).Agrees
      (n.tried (outcome V failing) before declared n.keys) := by
  unfold inGroup
  cases hS : outcome V failing (Fix.keys fixes) with
  | none =>
    -- the group failed, perhaps through another node, and this one is built again
    rcases hagain with rfl | hsame
    · exact .refl _
    · rw [hsame, ite_self]
      exact .refl _
  | some ds =>
    obtain ⟨hnot, rfl⟩ := outcome_eq_some.mp hS
    have hnot' : ¬ Meets failing n.keys := fun hm => hnot (hm.mono hsub)
    have hown' : outcome V failing n.keys = some (V n.keys) := outcome_eq_some.mpr ⟨hnot', rfl⟩
    simp only [Option.isNone_some, Bool.false_and, Bool.false_eq_true, if_false, tried, hS, hown']
    exact measure_agrees hplace fun r hr => hlocal.alike hnot hnot' (hown r hr)

end Node

namespace Graph
variable {g : Graph} {group : List Nat} {i : Nat} {n : Node}

theorem keys_subset (hi : i ∈ group) (hn : g.nodes[i]? = some n) : n.keys ⊆ g.keys group := by
  intro k hk
  exact mem_keys.mpr ⟨n, mem_members.mpr ⟨i, hi, hn⟩, hk⟩

/-- In a group of nodes apart, what impacts a region of one of them is its own. -/
theorem touching_members (hregions : ∀ m ∈ g.nodes, m.regions = source.ofFixes m.fixes)
    (hapart : ∀ j ∈ group, i ≠ j → g.Apart i j) (hi : i ∈ group) (hn : g.nodes[i]? = some n)
    (hr : r ∈ n.regions) :
    Fix.keys (touching source r ((g.members group).flatMap (·.fixes))) =
      Fix.keys (touching source r n.fixes) := by
  ext k
  rw [mem_keys_touching, mem_keys_touching]
  constructor
  · rintro ⟨f, hf, himpact, hkey⟩
    obtain ⟨m, hm, hfm⟩ := List.mem_flatMap.mp hf
    obtain ⟨j, hj, hjm⟩ := mem_members.mp hm
    by_cases hij : i = j
    · subst hij
      rw [hn] at hjm
      obtain rfl := Option.some.inj hjm
      exact ⟨f, hfm, himpact, hkey⟩
    · -- a fix of another node that impacts the region would make the two nodes conflict
      have hrm : r ∈ m.regions := by
        rw [hregions m (List.mem_of_getElem? hjm), RegionSource.mem_ofFixes]
        exact ⟨f, hfm, himpact⟩
      exact absurd hrm (hapart j hj hij n m hn hjm r hr)
  · rintro ⟨f, hf, hfr⟩
    exact ⟨f, List.mem_flatMap.mpr ⟨n, mem_members.mpr ⟨i, hi, hn⟩, hf⟩, hfr⟩

end Graph
end FixTrial
