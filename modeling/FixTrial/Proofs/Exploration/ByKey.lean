import FixTrial.Proofs.Except
import FixTrial.Proofs.Exploration.Regional
import FixTrial.Proofs.Program.Destructive

/-!
Contexts that know a fix by its key: nothing that they are asked about a fix depends on the file
that it was found in, on its reasons or on its patch. An indexed program gives such a context.
-/
namespace FixTrial

theorem Fix.keys_congr {fs fs' : List Fix} (h : Keyed.Same Fix.key fs fs') :
    Fix.keys fs = Fix.keys fs' := by
  ext k
  rw [Fix.mem_keys, Fix.mem_keys]
  exact h k

theorem Fix.keys_eq_empty_iff {fs : List Fix} : Fix.keys fs = ∅ ↔ fs = [] := by
  rw [Fix.keys, List.toFinset_eq_empty_iff, List.map_eq_nil_iff]

/-- What is asked about a fix is answered by its key alone. -/
structure Context.ByKey {ω : Type} (ctx : Context ω) : Prop where
  regions : ∀ l l' : Location, l.toPlace = l'.toPlace →
    ∀ r, r ∈ (ctx.regions l).getD [] ↔ r ∈ (ctx.regions l').getD []
  declared : ByPlace ctx.declared
  link : ∀ baseline f f', f.key = f'.key →
    Fix.keys (ctx.link baseline f) = Fix.keys (ctx.link baseline f')
  destructive : ∀ fs fs', Fix.keys fs = Fix.keys fs' → ctx.destructive fs = ctx.destructive fs'

namespace RegionLookup
variable {x : ProgramIndex} {table : Option RegionTable} {detectors : List String}
  {lookup : RegionLookup} {l l' : Location}

theorem sources_of_build (h : build x table detectors = .ok lookup) :
    lookup.sources = [.own] ++ table.toList.map RegionSource.ofTable ++ [.ofIndex x] := by
  unfold build at h
  obtain ⟨extensions, -, h⟩ := bind_eq_ok_iff.mp h
  cases h
  rfl

/-- The regions that a change at a place impacts do not depend on its file. -/
theorem regions_congr (hb : build x table detectors = .ok lookup) (h : l.toPlace = l'.toPlace) :
    lookup.regions l = lookup.regions l' := by
  have hsource : ∀ source ∈ lookup.sources, source l = source l' := by
    rw [sources_of_build hb]
    intro source hs
    simp only [List.mem_append, List.mem_singleton, List.mem_map] at hs
    rcases hs with (rfl | ⟨entries, -, rfl⟩) | rfl
    · simp only [RegionSource.own, h]
    · simp only [RegionSource.ofTable, h]
    · simp only [RegionSource.ofIndex, h, x.family_congr h]
  unfold regions
  have hfound : lookup.sources.foldl (fun rs source => Keyed.union id rs ((source l).getD [])) [] =
      lookup.sources.foldl (fun rs source => Keyed.union id rs ((source l').getD [])) [] :=
    List.foldl_ext _ _ _ fun rs source hs => by rw [hsource source hs]
  rw [hfound]

end RegionLookup

/-- An indexed program knows fixes by their keys. -/
theorem byKey_indexed {ω : Type} (ctx : Context ω) {x : ProgramIndex}
    {table : Option RegionTable} {detectors : List String} {lookup : RegionLookup}
    (hb : RegionLookup.build x table detectors = .ok lookup) (linking : Bool) :
    (ctx.indexed x lookup linking).ByKey := by
  refine ⟨fun l l' h r => ?_, byPlace_indexed ctx x lookup linking, fun baseline f f' h => ?_,
    fun fs fs' h => ProgramIndex.isDestructive_congr h⟩
  · change r ∈ lookup.regions l ↔ r ∈ lookup.regions l'
    rw [RegionLookup.regions_congr hb h]
  · change Fix.keys (if linking then _ else [f]) = Fix.keys (if linking then _ else [f'])
    split
    · exact x.keys_linked (some baseline.fixes) h
    · simp [Fix.keys, h]

end FixTrial
