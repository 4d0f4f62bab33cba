import FixTrial.Proofs.Exploration.Faults
import FixTrial.Proofs.Exploration.Measured
import FixTrial.Proofs.Workspace.Predictable
import Mathlib.Algebra.GroupWithZero.Nat

/-!
Which builds a pass attempts where failures are predictable, and which nodes fail: those that fail
with their group and, where the nodes of a failed group are built one by one, alone as well.
-/
namespace FixTrial
open Act

/-- The group that was built, and whether that succeeded. -/
def GroupBuild.attempt {ω : Type} (b : GroupBuild ω) : List Nat × Bool := (b.group, b.ok)

namespace Exploration
open FixTrial.Graph
variable {ω : Type} {ctx : Context ω} {clean : ω → Prop} {crash : Finset FixKey → Bool}
  {g h : Graph} {group : List Nat} {groups : List (List Nat)} {depth number : Nat} {t t' : Trial ω}
  {i j : Nat} {b : GroupBuild ω} {bs : List (GroupBuild ω)} {retry : Bool}
  {as : List (List Nat × Bool)}

/-- Whether the nodes of a group are built one by one after it. -/
def isRetried (retry : Bool) (crash : Finset FixKey → Bool) (g : Graph) (group : List Nat) : Bool :=
  crash (g.keys group) && retry && decide (1 < group.length)

/-- A build of each node of a group. -/
def singles (crash : Finset FixKey → Bool) (g : Graph) (group : List Nat) :
    List (List Nat × Bool) :=
  group.map fun i => ([i], !crash (g.keys [i]))

/-- The builds that a group takes, and which of them succeed. -/
def attempts (retry : Bool) (crash : Finset FixKey → Bool) (g : Graph) (group : List Nat) :
    List (List Nat × Bool) :=
  (group, !crash (g.keys group)) ::
    if isRetried retry crash g group then singles crash g group else []

theorem attempts_of_bare_eq (hb : h.bare = g.bare) :
    attempts retry crash h = attempts retry crash g := by
  have hkeys : h.keys = g.keys := funext fun _ => keys_of_bare_eq hb
  unfold attempts isRetried singles
  rw [hkeys]

section Runs
variable (hw : ctx.workspace.Predictable clean crash)
include hw

theorem build_attempted (depth number : Nat) (ht : clean t.site.world)
    (hc : g.checkGroup group = .ok ()) (hn : group.Nodup) :
    ∃ b t', buildKept ctx g group depth number t = .ok b t' ∧ clean t'.site.world ∧
      b.after.bare = g.bare ∧ b.attempt = (group, !crash (g.keys group)) := by
  have hbuild : ∃ h t', buildGroup ctx g group depth number t =
      .ok (h, !crash (g.keys group)) t' ∧ clean t'.site.world := by
    unfold buildGroup
    rw [log_bind, modify_bind, get_bind]
    dsimp only
    generalize hstart : Trial.mk _ _ _ _ _ _ = started
    have hstarted : clean started.site.world := hstart ▸ ht
    cases hcrash : crash (g.keys group) with
    | false =>
      rw [keys, ← Fix.keys_dedupe] at hcrash
      obtain ⟨ds, s₁, s₂, hb, hr, hclean⟩ := hw.builds _ _ hstarted hcrash
      have hm : (g.measureGroup group ctx.declared t.bank ds).2 = .ok () := by
        rw [measureGroup_of_ok hc]
      rw [bind_of_ok (batch_of_build hb hr (fun ds => g.measureGroup group ctx.declared t.bank ds) hm)]
      exact ⟨_, _, rfl, hclean⟩
    | true =>
      rw [keys, ← Fix.keys_dedupe] at hcrash
      obtain ⟨e, s₁, s₂, hb, hr, hclean⟩ := hw.fails _ _ hstarted hcrash
      rw [bind_of_ok (batch_of_failure hb hr fun ds => g.measureGroup group ctx.declared t.bank ds)]
      exact ⟨_, _, rfl, hclean⟩
  obtain ⟨h, t', hb, hclean⟩ := hbuild
  obtain ⟨_, hcame⟩ := came_of_buildGroup hc hn hb
  refine ⟨{ depth, number, group, before := g, start := t, after := h, finish := t', ok := _ }, t',
    ?_, hclean, hcame.bare, rfl⟩
  unfold buildKept
  rw [get_bind, bind_of_ok hb]
  rfl

theorem retry_attempted (depth number : Nat) (group : List Nat) (ht : clean t.site.world) :
    ∃ bs h t', retryBuilds ctx depth number g group t = .ok (bs, h) t' ∧ clean t'.site.world ∧
      h.bare = g.bare ∧ bs.map GroupBuild.attempt = singles crash g group := by
  induction group generalizing g t with
  | nil => exact ⟨[], g, t, rfl, ht, rfl, rfl⟩
  | cons i rest ih =>
    have hcleared : (g.modify i fun n => { n with failed := false }).bare = g.bare :=
      bare_modify fun _ => rfl
    obtain ⟨b, t₁, hb, ht₁, hbare, hattempt⟩ := build_attempted hw depth number ht
      (g := g.modify i fun n => { n with failed := false }) checkGroup_singleton
      (List.nodup_singleton i)
    obtain ⟨bs, h, t', hrest, ht', hbare', hattempts⟩ := ih (g := b.after) ht₁
    have hsame : b.after.bare = g.bare := hbare.trans hcleared
    refine ⟨b :: bs, h, t', ?_, ht', hbare'.trans hsame, ?_⟩
    · unfold retryBuilds
      rw [bind_of_ok hb, bind_of_ok hrest]
      rfl
    · rw [List.map_cons, hattempt, hattempts, singles, singles, List.map_cons,
        keys_of_bare_eq hcleared]
      simp only [keys_of_bare_eq hsame]

theorem group_attempted (depth number : Nat) (ht : clean t.site.world)
    (hc : g.checkGroup group = .ok ()) (hn : group.Nodup) :
    ∃ bs h t', groupBuilds ctx g group depth number t = .ok (bs, h) t' ∧ clean t'.site.world ∧
      h.bare = g.bare ∧ bs.map GroupBuild.attempt = attempts ctx.retry crash g group := by
  obtain ⟨b, t₁, hb, ht₁, hbare, hattempt⟩ := build_attempted hw depth number ht hc hn
  have hok : b.ok = !crash (g.keys group) := congrArg Prod.snd hattempt
  have hagain : (!b.ok && ctx.retry && decide (1 < group.length)) =
      isRetried ctx.retry crash g group := by
    rw [hok, Bool.not_not, isRetried]
  unfold groupBuilds
  rw [bind_of_ok hb, hagain]
  unfold attempts
  cases isRetried ctx.retry crash g group with
  | false => exact ⟨[b], b.after, t₁, rfl, ht₁, hbare, by simp [hattempt]⟩
  | true =>
    rw [if_pos rfl, log_bind]
    obtain ⟨bs, h, t', hr, ht', hbare', hattempts⟩ := retry_attempted hw depth number group
      (t := { t₁ with journal := t₁.journal ++ [.batchRetried depth number group.length] })
      (g := b.after) ht₁
    rw [bind_of_ok hr]
    refine ⟨b :: bs, h, t', rfl, ht', hbare'.trans hbare, ?_⟩
    rw [List.map_cons, hattempt, hattempts]
    simp only [singles, keys_of_bare_eq hbare, if_true]

theorem groups_attempted (depth number : Nat) (ht : clean t.site.world)
    (hc : ∀ group ∈ groups, g.checkGroup group = .ok ()) (hn : ∀ group ∈ groups, group.Nodup) :
    ∃ bs h t', groupsBuilds ctx depth number g groups t = .ok (bs, h) t' ∧
      bs.map GroupBuild.attempt = groups.flatMap (attempts ctx.retry crash g) := by
  induction groups generalizing number g t with
  | nil => exact ⟨[], g, t, rfl, rfl⟩
  | cons first rest ih =>
    rw [List.forall_mem_cons] at hc hn
    obtain ⟨bs, h, t₁, hfirst, ht₁, hbare, hattempts⟩ :=
      group_attempted hw depth number ht hc.1 hn.1
    obtain ⟨cs, k, t', hrest, hothers⟩ := ih (number + 1) ht₁
      (fun group hgroup => checkGroup_of_bare_eq hbare (hc.2 group hgroup)) hn.2
    refine ⟨bs ++ cs, k, t', ?_, ?_⟩
    · unfold groupsBuilds
      rw [bind_of_ok hfirst]
      dsimp only
      rw [bind_of_ok hrest]
      rfl
    · rw [List.map_append, hattempts, hothers, List.flatMap_cons, attempts_of_bare_eq hbare]

end Runs

/-- The last attempt that a node took part in. -/
def lastAttempt (as : List (List Nat × Bool)) (j : Nat) : Option (List Nat × Bool) :=
  (as.filter fun a => j ∈ a.1).getLast?

theorem attempt_lastBuild (bs : List (GroupBuild ω)) (j : Nat) :
    (lastBuild bs j).map GroupBuild.attempt = lastAttempt (bs.map GroupBuild.attempt) j := by
  unfold lastBuild lastAttempt
  rw [List.filter_map, List.getLast?_map]
  rfl

theorem subset_of_mem_attempts {a : List Nat × Bool} (ha : a ∈ attempts retry crash g group) :
    a.1 ⊆ group := by
  unfold attempts at ha
  rcases List.mem_cons.mp ha with rfl | ha
  · exact List.Subset.refl group
  · split at ha
    · obtain ⟨i, hi, rfl⟩ := List.mem_map.mp ha
      exact List.cons_subset.mpr ⟨hi, List.nil_subset group⟩
    · exact absurd ha List.not_mem_nil

theorem lastAttempt_attempts (hj : j ∈ group) (hn : group.Nodup) :
    lastAttempt (attempts retry crash g group) j =
      if isRetried retry crash g group then some ([j], !crash (g.keys [j]))
      else some (group, !crash (g.keys group)) := by
  have hsingle : (singles crash g group).filter (fun a => j ∈ a.1) = [([j], !crash (g.keys [j]))] := by
    have hfilter : group.filter (fun i => j ∈ [i]) = [j] := by
      have heq : (fun i => decide (j ∈ [i])) = fun i => decide (i = j) := by
        funext i
        simp [eq_comm]
      rw [heq, List.filter_eq, List.count_eq_one_of_mem hn hj]
      rfl
    unfold singles
    rw [List.filter_map]
    change (group.filter fun i => j ∈ [i]).map _ = _
    rw [hfilter]
    rfl
  unfold lastAttempt attempts
  rw [List.filter_cons_of_pos (by simpa using hj)]
  split
  · rw [hsingle]
    rfl
  · rfl

/-- Groups without common nodes: the last attempt of a node is one of its own group. -/
theorem lastAttempt_flatMap (hgroup : group ∈ groups) (hj : j ∈ group) (hn : groups.flatten.Nodup) :
    lastAttempt (groups.flatMap (attempts retry crash g)) j =
      lastAttempt (attempts retry crash g group) j := by
  have hnone : ∀ k, j ∉ k → (attempts retry crash g k).filter (fun a => j ∈ a.1) = [] := by
    intro k hk
    rw [List.filter_eq_nil_iff]
    intro a ha
    simpa using fun hja => hk (subset_of_mem_attempts ha hja)
  unfold lastAttempt
  congr 1
  induction groups with
  | nil => exact absurd hgroup List.not_mem_nil
  | cons first rest ih =>
    rw [List.flatten_cons, List.nodup_append] at hn
    obtain ⟨-, hnrest, hapart⟩ := hn
    rw [List.flatMap_cons, List.filter_append]
    rcases List.mem_cons.mp hgroup with rfl | hrest
    · have hothers : (rest.flatMap (attempts retry crash g)).filter (fun a => j ∈ a.1) = [] := by
        rw [List.filter_flatMap, List.flatMap_eq_nil_iff]
        intro k hk
        exact hnone k fun hjk => hapart j hj j (List.mem_flatten.mpr ⟨k, hk, hjk⟩) rfl
      rw [hothers, List.append_nil]
    · have hfirst : j ∉ first := fun hjf =>
        hapart j hjf j (List.mem_flatten.mpr ⟨group, hrest, hj⟩) rfl
      rw [hnone first hfirst, List.nil_append, ih hrest hnrest]

theorem length_attempts : (attempts retry crash g group).length =
    1 + if isRetried retry crash g group then group.length else 0 := by
  unfold attempts
  split <;> simp [singles, add_comm]

theorem countP_attempts : (attempts retry crash g group).countP (!·.2) =
    (if crash (g.keys group) then 1 else 0) +
      if isRetried retry crash g group then group.countP fun i => crash (g.keys [i]) else 0 := by
  unfold attempts
  rw [List.countP_cons, add_comm]
  congr 1
  · simp
  · split
    · rw [singles, List.countP_map]
      simp [Function.comp_def]
    · rfl

theorem sum_map_filter (p : List Nat → Bool) (f : List Nat → Nat) (groups : List (List Nat)) :
    (groups.map fun group => if p group then f group else 0).sum = ((groups.filter p).map f).sum := by
  induction groups with
  | nil => rfl
  | cons group rest ih => cases hp : p group <;> simp [hp, ih]

/-- One build of each group, and one of each node of the groups that are retried. -/
theorem length_flatMap_attempts : (groups.flatMap (attempts retry crash g)).length =
    groups.length + ((groups.filter (isRetried retry crash g)).map List.length).sum := by
  rw [← sum_map_filter]
  induction groups with
  | nil => rfl
  | cons group rest ih =>
    rw [List.flatMap_cons, List.length_append, ih, length_attempts, List.length_cons, List.map_cons,
      List.sum_cons]
    omega

theorem countP_flatMap_attempts : (groups.flatMap (attempts retry crash g)).countP (!·.2) =
    groups.countP (fun group => crash (g.keys group)) +
      ((groups.filter (isRetried retry crash g)).map fun group =>
        group.countP fun i => crash (g.keys [i])).sum := by
  rw [← sum_map_filter]
  induction groups with
  | nil => rfl
  | cons group rest ih =>
    rw [List.flatMap_cons, List.countP_append, ih, countP_attempts, List.countP_cons, List.map_cons,
      List.sum_cons]
    omega

theorem pass_attempted (hw : ctx.workspace.Predictable clean crash) (hg : g.Arena) (depth : Nat)
    (ht : clean t.site.world) :
    ∃ bs h t', passBuilds ctx g depth t = .ok (bs, h) t' ∧ bs.map GroupBuild.attempt =
      (prepared ctx.regions g).groups.flatMap
        (attempts ctx.retry crash (prepared ctx.regions g)) := by
  have hparts : (prepared ctx.regions g).Partitions (prepared ctx.regions g).groups :=
    partitions_findGroups (arena_updateRegions hg)
  have hc : ∀ group ∈ (prepared ctx.regions g).groups,
      (prepared ctx.regions g).checkGroup group = .ok () :=
    fun group hgroup => checkGroup_partition hg hgroup
  have hn : ∀ group ∈ (prepared ctx.regions g).groups, group.Nodup :=
    (List.nodup_flatten.mp hparts.once).1
  unfold passBuilds
  rw [log_bind, log_bind]
  exact groups_attempted hw depth 0 ht hc hn

/-- A node of a group that is not built again on its own fails with the group. -/
theorem crash_iff_of_last (retry : Bool) (crash : Finset FixKey → Bool) {n : Node}
    (hj : j ∈ group) (hnode : g.nodes[j]? = some n) :
    (if isRetried retry crash g group then !crash (g.keys [j]) else !crash (g.keys group)) = false ↔
      crash (g.keys group) = true ∧ (retry = true → crash n.keys = true) := by
  have hsingle : ¬ 1 < group.length → g.keys group = n.keys := by
    intro hlength
    obtain ⟨i, rfl⟩ := List.length_eq_one_iff.mp
      (Nat.le_antisymm (Nat.not_lt.mp hlength) (List.length_pos_of_mem hj))
    obtain rfl := List.mem_singleton.mp hj
    exact keys_singleton hnode
  rw [keys_singleton hnode]
  unfold isRetried
  by_cases hlength : 1 < group.length
  · cases crash (g.keys group) <;> cases retry <;> simp [hlength]
  · rw [hsingle hlength]
    cases crash n.keys <;> simp [hlength]

/-- What a pass makes of a pending node: it fails if its group does and, where retries are on, it
does so alone as well, and then it says nothing. Otherwise its last build measured it. -/
structure Localised (ctx : Context ω) (crash : Finset FixKey → Bool) (before : Snapshot) (g : Graph)
    (bs : List (GroupBuild ω)) (group : List Nat) (i : Nat) (n m : Node) : Prop where
  failed_iff : m.failed = true ↔
    crash (g.keys group) = true ∧ (ctx.retry = true → crash n.keys = true)
  blank : m.failed = true → m.effect = none ∧ m.newDiagnostics = [] ∧ m.triggered = []
  measured : m.failed = false → ∃ b ds, lastBuild bs i = some b ∧ b.Succeeds ctx.workspace ds ∧
    m = n.measure ⟨before, ⟨ds⟩⟩ ctx.declared ∧
    m.effect = some (∑ region ∈ n.regions.toFinset, Diagnostic.change before.diagnostics ds region)

theorem localised_of_pass {n : Node} (hg : g.Arena) (hfresh : ∀ n ∈ g.nodes, n.failed = false)
    (hp : passBuilds ctx g depth t = .ok (bs, h) t')
    (hattempts : bs.map GroupBuild.attempt = (prepared ctx.regions g).groups.flatMap
      (attempts ctx.retry crash (prepared ctx.regions g)))
    (hgroup : group ∈ (prepared ctx.regions g).groups) (hi : i ∈ group)
    (hn : (prepared ctx.regions g).nodes[i]? = some n) :
    ∃ m, h.nodes[i]? = some m ∧
      Localised ctx crash t.bank.before (prepared ctx.regions g) bs group i n m := by
  obtain ⟨htrail, hall⟩ := trail_of_passBuilds hg hfresh hp
  have hparts : (prepared ctx.regions g).Partitions (prepared ctx.regions g).groups :=
    partitions_findGroups (arena_updateRegions hg)
  have hnmem := List.mem_of_getElem? hn
  have hnf : n.failed = false := fresh_prepared hfresh n hnmem
  have hregions : n.regions.Nodup := by
    rw [regions_of_updateRegions hnmem]
    exact RegionSource.nodup_ofFixes
  obtain ⟨c, hc, rfl⟩ := hall group hgroup
  obtain ⟨b, hlast⟩ := lastBuild_isSome hc hi
  obtain ⟨report, hcame, hlearned⟩ := htrail.learned hlast hn hnf
  have hok : b.ok = if isRetried ctx.retry crash (prepared ctx.regions g) c.group
      then !crash ((prepared ctx.regions g).keys [i])
      else !crash ((prepared ctx.regions g).keys c.group) := by
    have hattempt := attempt_lastBuild bs i
    rw [hlast, hattempts, lastAttempt_flatMap hgroup hi hparts.once,
      lastAttempt_attempts hi ((List.nodup_flatten.mp hparts.once).1 _ hgroup)] at hattempt
    split at hattempt
    next hretried =>
      rw [if_pos hretried]
      exact congrArg Prod.snd (Option.some.inj hattempt)
    next hretried =>
      rw [if_neg hretried]
      exact congrArg Prod.snd (Option.some.inj hattempt)
  have hcrash := crash_iff_of_last ctx.retry crash hi hn
  rw [← hok] at hcrash
  refine ⟨_, hlearned, ?_⟩
  cases report with
  | none =>
    have hnot : b.ok = false := hcame.ok_eq
    exact ⟨⟨fun _ => hcrash.mp hnot, fun _ => rfl⟩, fun _ => ⟨rfl, rfl, rfl⟩, nofun⟩
  | some ds =>
    have hdone : b.ok = true := hcame.ok_eq
    have hmf : (n.learn t.bank.before ctx.declared (some ds)).failed = false := hnf
    refine ⟨?_, fun hf => ?_, fun _ =>
      ⟨b, ds, hlast, succeeds_of_came hcame rfl, rfl, ?_⟩⟩
    · rw [← hcrash, hmf, hdone]
      simp
    · rw [hmf] at hf
      cases hf
    · exact Node.effect_measure hregions

/-- Where failures are predictable, a pass over nodes that have not failed returns. Every pending
node fails exactly if its group does and, with retries, its own fixes do too; it has an effect unless
it fails. There is one build for each group, and one for each node of the groups that are retried;
each that fails is counted. -/
theorem failures_localised (hw : ctx.workspace.Predictable clean crash) (hg : g.Built)
    (hfresh : ∀ n ∈ g.nodes, n.failed = false) (ht : clean t.site.world) (depth : Nat) :
    ∃ bs h t', passBuilds ctx g depth t = .ok (bs, h) t' ∧ pass ctx g depth t = .ok h t' ∧
      (∀ (i : Nat) n, (prepared ctx.regions g).nodes[i]? = some n → n.status = .pending →
        ∃ group ∈ (prepared ctx.regions g).groups, i ∈ group ∧ ∃ m, h.nodes[i]? = some m ∧
          Localised ctx crash t.bank.before (prepared ctx.regions g) bs group i n m) ∧
      bs.length = (prepared ctx.regions g).groups.length +
        (((prepared ctx.regions g).groups.filter
          (isRetried ctx.retry crash (prepared ctx.regions g))).map List.length).sum ∧
      t'.builds = t.builds + bs.length ∧
      t'.failedGroups = t.failedGroups +
        (prepared ctx.regions g).groups.countP
          (fun group => crash ((prepared ctx.regions g).keys group)) +
        (((prepared ctx.regions g).groups.filter
          (isRetried ctx.retry crash (prepared ctx.regions g))).map fun group =>
            group.countP fun i => crash ((prepared ctx.regions g).keys [i])).sum := by
  have ha : g.Arena := arena_of_built hg
  have hparts : (prepared ctx.regions g).Partitions (prepared ctx.regions g).groups :=
    partitions_findGroups (arena_updateRegions ha)
  obtain ⟨bs, h, t', hp, hattempts⟩ := pass_attempted hw ha depth ht
  obtain ⟨htrail, -⟩ := trail_of_passBuilds ha hfresh hp
  have hfailed : bs.countP (!·.ok) = (bs.map GroupBuild.attempt).countP (!·.2) := by
    rw [List.countP_map]
    rfl
  refine ⟨bs, h, t', hp, (pass_ok_iff ctx).mpr ⟨bs, hp⟩, fun i n hn hpending => ?_, ?_, htrail.counts.1, ?_⟩
  · obtain ⟨group, hgroup, hi⟩ := (hparts.covers i).mpr ⟨n, hn, hpending⟩
    exact ⟨group, hgroup, hi, localised_of_pass ha hfresh hp hattempts hgroup hi hn⟩
  · rw [← List.length_map GroupBuild.attempt, hattempts, length_flatMap_attempts]
  · rw [htrail.counts.2, hfailed, hattempts, countP_flatMap_attempts, add_assoc]

/-- Two annotations do not build together, though each does alone, and a third does not build. -/
def clashing (S : Finset FixKey) : Bool :=
  decide ((Fix.ofField "A" "x").key ∈ S ∧ (Fix.ofField "B" "z").key ∈ S ∨
    (Fix.ofField "A" "y").key ∈ S)

/-- Builds that report nothing, and fail where annotations clash. -/
def clashes : Context (List Fix) :=
  { workspace := .inMemory fun held =>
      if clashing (Fix.keys held) then .error (.refused "") else .ok []
    regions := .own, mode := .targetOnly, depth := .whole 0, retry := true
    declared := fun _ => true, link := fun _ f => [f], destructive := fun _ => false, modules := [] }

theorem predictable_clashes : clashes.workspace.Predictable (fun held => held = []) clashing :=
  predictable_inMemory (fun held hheld => ⟨[], by rw [hheld]; rfl⟩)
    fun held hheld => ⟨.refused "", by rw [hheld]; rfl⟩

theorem failures_localised_clashes :
    ∃ bs h t', passBuilds clashes threeFields 0 (Trial.start []) = .ok (bs, h) t' ∧
      bs.length = 4 ∧ t'.builds = 4 ∧ t'.failedGroups = 2 ∧
      ∀ (i : Nat) n, (prepared .own threeFields).nodes[i]? = some n → n.status = .pending →
        ∃ group ∈ (prepared .own threeFields).groups, i ∈ group ∧ ∃ m, h.nodes[i]? = some m ∧
          Localised clashes clashing .empty (prepared .own threeFields) bs group i n m := by
  have hfresh : ∀ n ∈ threeFields.nodes, n.failed = false := by decide
  obtain ⟨bs, h, t', hp, -, hnodes, hlength, hbuilds, hfailed⟩ :=
    failures_localised predictable_clashes built_threeFields hfresh (t := Trial.start []) rfl 0
  have hfour : bs.length = 4 := by
    rw [hlength]
    decide
  refine ⟨bs, h, t', hp, hfour, ?_, ?_, hnodes⟩
  · rw [hbuilds, hfour]
    rfl
  · rw [hfailed]
    decide

end Exploration
end FixTrial
