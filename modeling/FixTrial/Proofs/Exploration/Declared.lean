import FixTrial.Proofs.Exploration.Handed
import FixTrial.Proofs.Exploration.Regional
import FixTrial.Proofs.Program.Linked

/-!
An exploration of an indexed program stays inside it: whatever comes to be tried, as a root, along
with one, or because a build brought it up, is declared there.
-/
namespace FixTrial

namespace ProgramIndex
variable {x : ProgramIndex} {f : Fix} {k : FixKey} {suggested : Option (List Fix)}

/-- What has to go in with a declared fix is declared. -/
theorem declares_of_mem_linked (hf : x.declares f.location.toPlace = true)
    (hk : k ∈ (x.linked suggested f).map Fix.key) : x.declares k.place = true := by
  rcases mem_keys_linked.mp (Fix.mem_keys.mpr hk) with rfl | ⟨hover, -⟩
  · exact hf
  · exact (mem_overridingKeys.mp hover).2.2.2

end ProgramIndex

/-- What goes in with declared fixes is declared, by place. -/
structure Context.Confined {ω : Type} (ctx : Context ω) : Prop where
  place : ByPlace ctx.declared
  link : ∀ baseline f, ctx.declared f.location = true →
    ∀ k ∈ (ctx.link baseline f).map Fix.key, ctx.declared ⟨k.place, ""⟩ = true

theorem confined_indexed {ω : Type} (ctx : Context ω) (x : ProgramIndex) (lookup : RegionLookup)
    (linking : Bool) : (ctx.indexed x lookup linking).Confined := by
  refine ⟨byPlace_indexed ctx x lookup linking, fun baseline f hf k hk => ?_⟩
  change k ∈ (if linking then x.linked (some baseline.fixes) f else [f]).map Fix.key at hk
  split at hk
  · exact ProgramIndex.declares_of_mem_linked hf hk
  · obtain rfl := List.mem_singleton.mp hk
    exact hf

namespace Exploration
open FixTrial.Graph
variable {ω : Type} {ctx : Context ω} {t : Trial ω} {base : List Diagnostic} {depth : Nat}
  {g : Graph} {root f : Fix} {k : FixKey} {batch : List Fix}

/-- Roots that were not given are fixes of the target. -/
theorem declared_of_mem_roots {baseline : Snapshot} :
    ∀ f ∈ roots ctx baseline none, ctx.declared f.location = true := by
  refine Fix.forall_mem_dedupe (fun _ _ hg _ => hg) fun f hf => ?_
  obtain ⟨d, hd, hfd⟩ := List.mem_flatMap.mp hf
  have hfixable := (List.mem_filter.mp hd).2
  rw [Diagnostic.isFixable, Bool.and_eq_true] at hfixable
  exact List.all_eq_true.mp hfixable.2 f (List.mem_mergeSort.mp hfd)

theorem declared_of_warranted {fixes : Option (List Fix)} (hctx : ctx.Confined)
    (hroot : ctx.declared root.location = true)
    (hk : Warranted ctx fixes t base root depth k) : ctx.declared ⟨k.place, ""⟩ = true := by
  cases hk with
  | root => rwa [hctx.place ⟨root.key.place, ""⟩ root.location rfl]
  | linked h => exact hctx.link _ root hroot k h
  | @followed _ f _ _ _ _ _ _ _ _ _ hf h =>
    obtain ⟨b, -, -, hup⟩ := hf.source
    exact hctx.link _ f hup.declared k h

theorem declared_of_batches (hctx : ctx.Confined) (hg : Grounded ctx none t base depth g)
    (hb : g.Batches batch) (hf : f ∈ batch) : ctx.declared f.location = true := by
  obtain ⟨root, hroot, hwarranted⟩ := warranted_of_batches hb hg hf
  have hdeclared := declared_of_warranted hctx (declared_of_mem_roots _ hroot) hwarranted
  rwa [hctx.place f.location ⟨f.key.place, ""⟩ rfl]

/-- Whatever its builds report and whichever of them fail, an exploration of the fixable diagnostics
of an indexed program hands its workspace only fixes that the program declares: it ends the same with
a note of all that it hands over, and nothing else is in that. -/
theorem handed_declared (ctx : Context ω) (x : ProgramIndex) (lookup : RegionLookup)
    (linking : Bool) (t : Trial ω) :
    ∃ t', EndsNoted (ctx.indexed x lookup linking) none t t' ∧
      ∀ batch ∈ t'.handed, ∀ f ∈ batch, x.declares f.location.toPlace = true := by
  obtain ⟨t', hends, parts, hparts⟩ := parted_explore (ctx.indexed x lookup linking) none t
  refine ⟨t', hends, fun batch hbatch f hf => ?_⟩
  have hctx : (ctx.indexed x lookup linking).noted.Confined :=
    confined_indexed ctx.noted x lookup linking
  obtain ⟨d, -, base, g, rs, bs, s₀, -, hgrounded, hlevel⟩ := hparts.of_mem_handed hbatch
  exact declared_of_batches hctx hgrounded hlevel hf

end Exploration
end FixTrial
