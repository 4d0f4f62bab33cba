import FixTrial.Proofs.Graph.Groups
import FixTrial.Proofs.RegionLookup
import FixTrial.Proofs.Suggestions

/-!
Groups of candidates in an indexed program. Candidates of one group have no fix in common, stay out
of the regions that the others impact, and share no override family.
-/
namespace FixTrial

/-- Two candidates that may be measured together: the first is in no region that the second impacts,
and no fix of the first is in one family with a fix of the second, be it as the two counterparts of a
third member that is declared. -/
structure Node.Unrelated (x : ProgramIndex) (lookup : RegionLookup) (a b : Node) : Prop where
  disjoint : ∀ f ∈ a.fixes, ∀ g ∈ b.fixes, f.key ≠ g.key
  outside : ∀ f ∈ a.fixes, ∀ g ∈ b.fixes, f.location.region ∉ lookup.regions g.location
  unlinked : ∀ f ∈ a.fixes, ∀ g ∈ b.fixes, x.declares f.location.toPlace = true →
    ∀ m ∈ x.family f.location, m.toPlace ≠ g.location.toPlace
  families : ∀ l : Location, x.declares l.toPlace = true → ∀ f ∈ a.fixes, ∀ g ∈ b.fixes,
    ¬ (x.InFamily l f.location.toPlace ∧ x.InFamily l g.location.toPlace)

namespace Graph
variable {x : ProgramIndex} {table : Option RegionTable} {detectors : List String}
  {lookup : RegionLookup} {g : Graph} {group : List Nat} {i j : Nat} {a b : Node}

/-- Fixes that impact a common region are not of two nodes that are apart. -/
theorem not_impacted_of_apart (hapart : (g.updateRegions lookup.source).Apart i j)
    (ha : (g.updateRegions lookup.source).nodes[i]? = some a)
    (hb : (g.updateRegions lookup.source).nodes[j]? = some b) {f f' : Fix} {r : Region}
    (hf : f ∈ a.fixes) (hf' : f' ∈ b.fixes) (hr : r ∈ lookup.regions f.location) :
    r ∉ lookup.regions f'.location := by
  intro hr'
  have hin : r ∈ a.regions := by
    rw [regions_of_updateRegions (List.mem_of_getElem? ha)]
    exact RegionSource.mem_ofFixes.mpr ⟨f, hf, hr⟩
  have hin' : r ∈ b.regions := by
    rw [regions_of_updateRegions (List.mem_of_getElem? hb)]
    exact RegionSource.mem_ofFixes.mpr ⟨f', hf', hr'⟩
  exact hapart a b ha hb r hin hin'

/-- Whatever a program declares, whatever table and generated code its lookup takes into account,
and whatever candidates there are: two of one group are unrelated. So no override family is ever
measured for two candidates at a time. -/
theorem groups_unrelated (hg : g.Built)
    (hbuild : RegionLookup.build x table detectors = .ok lookup)
    (hgroup : group ∈ (g.updateRegions lookup.source).findGroups.groups)
    (hi : i ∈ group) (hj : j ∈ group) (hne : i ≠ j)
    (ha : (g.updateRegions lookup.source).findGroups.nodes[i]? = some a)
    (hb : (g.updateRegions lookup.source).findGroups.nodes[j]? = some b) :
    a.Unrelated x lookup b := by
  have hapart : (g.updateRegions lookup.source).Apart i j :=
    apart_of_mem_partition (arena_of_built hg) hgroup hi hj hne
  have hown : ∀ l, l.region ∈ lookup.regions l := RegionLookup.own_mem_regions hbuild
  have houtside : ∀ f ∈ a.fixes, ∀ f' ∈ b.fixes, f.location.region ∉ lookup.regions f'.location :=
    fun f hf f' hf' => not_impacted_of_apart hapart ha hb hf hf' (hown f.location)
  have hfamilies : ∀ l : Location, x.declares l.toPlace = true → ∀ f ∈ a.fixes, ∀ f' ∈ b.fixes,
      ¬ (x.InFamily l f.location.toPlace ∧ x.InFamily l f'.location.toPlace) := by
    rintro l hl f hf f' hf' ⟨hin, hin'⟩
    exact not_impacted_of_apart hapart ha hb hf hf'
      (RegionLookup.region_mem_regions_of_inFamily hbuild hl hin)
      (RegionLookup.region_mem_regions_of_inFamily hbuild hl hin')
  refine ⟨fun f hf f' hf' hkey => ?_, houtside, fun f hf f' hf' hl m hm hplace => ?_, hfamilies⟩
  · have hplace : f.location.toPlace = f'.location.toPlace := congrArg FixKey.place hkey
    refine houtside f hf f' hf' ?_
    rw [hplace]
    exact hown f'.location
  · exact hfamilies f.location hl f hf f' hf' ⟨.inl rfl, .inr ⟨m, hm, hplace⟩⟩

/-- The lookup of a program in which one method overrides another, with accessors. -/
def overriddenLookup : RegionLookup :=
  ⟨[.own, .ofIndex overridden], [(Accessors.ofIndex overridden).extend overridden]⟩

/-- The parameter of an overridden method, that of the overriding one, and a field. -/
def overriddenFixes : Graph :=
  (((Graph.empty.insert (putValue "m.Base" "stored" none) []).1.insert
    (putValue "m.Sub" "stored" none) []).1.insert (.ofField "m.Base" "size") []).1

/-- The two parameters are measured one after the other, and the field along with the first. -/
theorem groups_unrelated_overridden :
    RegionLookup.build overridden none ["accessors"] = .ok overriddenLookup ∧
    (overriddenFixes.updateRegions overriddenLookup.source).findGroups.groups = [[0, 2], [1]] ∧
    ∃ a b, (overriddenFixes.updateRegions overriddenLookup.source).findGroups.nodes[0]? = some a ∧
      (overriddenFixes.updateRegions overriddenLookup.source).findGroups.nodes[2]? = some b ∧
      a.Unrelated overridden overriddenLookup b := by
  have hgroups : (overriddenFixes.updateRegions overriddenLookup.source).findGroups.groups =
      [[0, 2], [1]] := by
    decide +kernel
  have hbuilt : overriddenFixes.Built := ((Built.empty.insert _ _).insert _ _).insert _ _
  have hbuild : RegionLookup.build overridden none ["accessors"] = .ok overriddenLookup := rfl
  have hgroup : [0, 2] ∈
      (overriddenFixes.updateRegions overriddenLookup.source).findGroups.groups := by
    simp [hgroups]
  exact ⟨hbuild, hgroups, _, _, rfl, rfl, groups_unrelated hbuilt hbuild hgroup (i := 0) (j := 2)
    (by simp) (by simp) (by decide) rfl rfl⟩

end Graph
end FixTrial
