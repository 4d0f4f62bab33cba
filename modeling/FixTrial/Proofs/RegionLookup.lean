import FixTrial.Proofs.Exploration.ByKey
import FixTrial.Proofs.Program.Families

/-!
What the lookup of an indexed program impacts at least: the region of the place itself, and, for a
declared member, the regions of its override family.
-/
namespace FixTrial.RegionLookup
variable {x : ProgramIndex} {table : Option RegionTable} {detectors : List String}
  {lookup : RegionLookup} {l m : Location} {r : Region} {p : Place}

/-- Extensions leave in what sources have found. -/
theorem mem_foldl_extend {extensions : List (List Region → List Region)} {found : List Region}
    (h : r ∈ found) :
    r ∈ extensions.foldl (fun rs extend => Keyed.union id rs (extend rs)) found := by
  induction extensions generalizing found with
  | nil => exact h
  | cons extend rest ih => exact ih ((Keyed.mem_union found (extend found)).mpr (.inl h))

theorem mem_regions_of_source {source : RegionSource} (hs : source ∈ lookup.sources)
    (hr : r ∈ (source l).getD []) : r ∈ lookup.regions l := by
  refine mem_foldl_extend ?_
  exact (Keyed.mem_foldl_union (fun source : RegionSource => (source l).getD []) _ _).mpr
    (.inr ⟨source, hs, hr⟩)

variable (hb : build x table detectors = .ok lookup)
include hb

/-- A place impacts the region that it is in. -/
theorem own_mem_regions (l : Location) : l.region ∈ lookup.regions l := by
  have hown : RegionSource.own ∈ lookup.sources := by simp [sources_of_build hb]
  exact mem_regions_of_source hown (List.mem_singleton_self _)

/-- A declared member impacts the regions of its family. -/
theorem family_mem_regions (hl : x.declares l.toPlace = true) (hm : m ∈ x.family l) :
    m.region ∈ lookup.regions l := by
  have hindex : RegionSource.ofIndex x ∈ lookup.sources := by simp [sources_of_build hb]
  refine mem_regions_of_source hindex ?_
  have hkind : l.kind ≠ .field := (ProgramIndex.mem_family.mp hm).1
  have hfamily : m.region ∈ (x.family l).map fun m => m.region := List.mem_map_of_mem hm
  have hunion : m.region ∈ Keyed.union id (x.callers l.callableName)
      ((x.family l).map fun m => m.region) := (Keyed.mem_union _ _).mpr (.inr hfamily)
  simpa [RegionSource.ofIndex, hl, hkind] using hunion

/-- Whatever is in the family of a declared member impacts the region of that member. -/
theorem region_mem_regions_of_inFamily (hl : x.declares l.toPlace = true)
    (hp : x.InFamily l m.toPlace) : l.region ∈ lookup.regions m := by
  rcases hp with hsame | ⟨m', hm', hplace⟩
  · rw [← hsame]
    exact own_mem_regions hb m
  · obtain ⟨l', hl', hback⟩ := ProgramIndex.family_symm hl hm'
    have hdeclared : x.declares m'.toPlace = true := (ProgramIndex.mem_family.mp hm').2.2
    rw [← hback, ← regions_congr hb hplace]
    exact family_mem_regions hb hdeclared hl'

end FixTrial.RegionLookup
