import FixTrial.Proofs.Exploration.Measured

/-!
How many builds an exploration may make: in each pass every node is built with its group, and at most
once more alone.
-/
namespace FixTrial
open Act

/-- How often a node may be built in one pass. -/
def Context.tries {ω : Type} (ctx : Context ω) : Nat := if ctx.retry then 2 else 1

namespace Exploration
open FixTrial.Graph
variable {ω : Type} {ctx : Context ω} {g h : Graph} {group : List Nat} {groups : List (List Nat)}
  {depth number : Nat} {bs : List (GroupBuild ω)} {t t' : Trial ω}

/-- A group is built once, and its nodes are built again only if there are several. -/
theorem length_groupBuilds (hne : group ≠ [])
    (hb : groupBuilds ctx g group depth number t = .ok (bs, h) t') :
    bs.length ≤ ctx.tries * group.length := by
  have hpos : 0 < group.length := List.length_pos_iff.mpr hne
  unfold Context.tries
  obtain ⟨b, t₁, -, ⟨-, hretry, -, cs, t₂, -, hbuilds, rfl⟩ | ⟨-, rfl, -⟩⟩ := groupBuilds_cases hb
  · have hlength : cs.length = group.length := by
      simpa using congrArg List.length (groups_of_retryBuilds hbuilds)
    rw [if_pos hretry, List.length_cons, hlength]
    omega
  · rw [List.length_singleton]
    split <;> omega

theorem length_groupsBuilds (hne : [] ∉ groups)
    (hb : groupsBuilds ctx depth number g groups t = .ok (bs, h) t') :
    bs.length ≤ ctx.tries * groups.flatten.length := by
  induction groups generalizing number g t bs with
  | nil =>
    cases hb
    rfl
  | cons first rest ih =>
    rw [List.mem_cons, not_or] at hne
    unfold groupsBuilds at hb
    obtain ⟨⟨cs, k⟩, t₁, hfirst, hb⟩ := bind_eq_ok.mp hb
    obtain ⟨⟨ds, l⟩, t₂, hrest, hb⟩ := bind_eq_ok.mp hb
    cases hb
    rw [List.length_append, List.flatten_cons, List.length_append, Nat.mul_add]
    exact Nat.add_le_add (length_groupBuilds (Ne.symm hne.1) hfirst) (ih hne.2 hrest)

theorem length_passBuilds (hg : g.Arena) (hp : passBuilds ctx g depth t = .ok (bs, h) t') :
    bs.length ≤ ctx.tries * g.size := by
  have hupdated : (g.updateRegions ctx.regions).Arena := arena_updateRegions hg
  have hnodes : (g.updateRegions ctx.regions).nodes.length = g.size := by
    rw [updateRegions_nodes, List.length_map]
    rfl
  have hpending : (prepared ctx.regions g).groups.flatten.length ≤ g.size := by
    rw [← hnodes]
    change (g.updateRegions ctx.regions).partition.flatten.length ≤ _
    rw [partition_perm.length_eq, List.length_map]
    exact List.length_filter_le _ _
  unfold passBuilds at hp
  rw [log_bind, log_bind] at hp
  exact (length_groupsBuilds (partitions_findGroups hupdated).nonempty hp).trans
    (Nat.mul_le_mul_left _ hpending)

/-- A pass over new nodes makes no more builds than there are tries for them. -/
theorem builds_le_of_pass (hg : g.Arena) (hentered : Entered g)
    (hp : pass ctx g depth t = .ok h t') : t'.builds ≤ t.builds + ctx.tries * g.size := by
  obtain ⟨bs, hbs⟩ := (pass_ok_iff ctx).mp hp
  obtain ⟨htrail, -⟩ := trail_of_passBuilds hg (fun n hn => (hentered n hn).2) hbs
  rw [htrail.counts.1]
  exact Nat.add_le_add_left (length_passBuilds hg hbs) _

end Exploration
end FixTrial
