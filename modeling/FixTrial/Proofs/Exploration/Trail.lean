import FixTrial.Proofs.Batch
import FixTrial.Proofs.Exploration.Builds
import FixTrial.Proofs.Exploration.Tried

/-!
The trail of builds that a pass leaves: each starts where the one before it ended, changes the nodes
of its own group, and nothing else in the graph.
-/
namespace FixTrial
open Act

namespace Node
variable {n : Node} {before : Snapshot} {declared : Location → Bool}
  {report : Option (List Diagnostic)}

/-- A node after a build of its group: measured, or failed where nothing is reported. -/
def learn (before : Snapshot) (declared : Location → Bool) (report : Option (List Diagnostic))
    (n : Node) : Node :=
  match report with
  | none => n.markFailed
  | some ds => n.measure ⟨before, ⟨ds⟩⟩ declared

/-- What a node learns does not depend on what it was measured to be before. -/
theorem learn_congr {m : Node} (hb : n.bare = m.bare) (hf : n.failed = m.failed) :
    n.learn before declared report = m.learn before declared report := by
  cases n
  cases m
  simp only [bare, Node.mk.injEq] at hb hf
  cases report <;> simp_all [learn, markFailed, measure]

end Node

/-- A trial but for its journal. -/
def Trial.unlogged {ω : Type} (t : Trial ω) : Trial ω := { t with journal := [] }

namespace Exploration
open FixTrial.Graph
variable {ω : Type} {ctx : Context ω} {g g' h k : Graph} {group : List Nat} {depth number : Nat}
  {t t₁ t' : Trial ω} {ok : Bool} {b : GroupBuild ω} {bs cs : List (GroupBuild ω)} {j : Nat}
  {groups : List (List Nat)}

/-- What a build of a group of `g` made of the graph and of the trial, if `report` came of it. -/
structure Came (ctx : Context ω) (g : Graph) (group : List Nat) (t : Trial ω)
    (report : Option (List Diagnostic)) (h : Graph) (ok : Bool) (t' : Trial ω) : Prop where
  ended : Batch.Ended ctx.workspace ctx.workspace.verify
    (Fix.dedupe ((g.members group).flatMap (·.fixes))) t.site.world report t'.site.world
  ok_eq : ok = report.isSome
  bare : h.bare = g.bare
  nodes : ∀ j, h.nodes[j]? = (g.nodes[j]?).map fun n =>
    if j ∈ group then n.learn t.bank.before ctx.declared report else n
  bank : t'.bank.before = t.bank.before
  builds : t'.builds = t.builds + 1
  failedGroups : t'.failedGroups = t.failedGroups + if ok then 0 else 1

/-- Whatever a build measured that reports nothing, its nodes fail. -/
theorem unreported {measured : Option (Option (Graph × Bank))} {bank : Bank}
    (hc : g.checkGroup group = .ok ()) (hn : group.Nodup)
    (hm : Batch.MeasuredAs (fun ds => g.measureGroup group ctx.declared bank ds) none measured) :
    (measured.join.getD (g, bank)).1.bare = g.bare ∧
      (measured.join.getD (g, bank)).2.before = bank.before ∧
      ∀ j, ((measured.join.getD (g, bank)).1.modifyGroup group Node.markFailed).nodes[j]? =
        (g.nodes[j]?).map fun n => if j ∈ group then n.markFailed else n := by
  rcases hm with rfl | ⟨ds, rfl⟩
  · exact ⟨rfl, rfl, fun j => modifyGroup_getElem? hn⟩
  · dsimp only
    rw [measureGroup_of_ok hc]
    refine ⟨bare_modifyGroup fun _ => rfl, rfl, fun j => ?_⟩
    change ((g.modifyGroup group _).modifyGroup group _).nodes[j]? = _
    rw [modifyGroup_getElem? hn, modifyGroup_getElem? hn, Option.map_map]
    congr 1
    funext n
    by_cases hj : j ∈ group
    · simp only [Function.comp, if_pos hj]
      rfl
    · simp [hj]

theorem batch_eq_ok {β : Type} {w : Workspace ω} {v : Act ω (List Diagnostic)} {fixes : List Fix}
    {m : List Diagnostic → Site ω → β × Except Fault Unit} {run : BatchRun β}
    (h : Trial.batch w v fixes m t = .ok run t') :
    ∃ site, Batch.run w v fixes m t.site = (run, site) ∧ t' = { t with site } := by
  unfold Trial.batch at h
  cases h
  exact ⟨_, rfl, rfl⟩

theorem came_of_buildGroup (hc : g.checkGroup group = .ok ()) (hn : group.Nodup)
    (hb : buildGroup ctx g group depth number t = .ok (h, ok) t') :
    ∃ report, Came ctx g group t report h ok t' := by
  unfold buildGroup at hb
  rw [log_bind, modify_bind, get_bind] at hb
  dsimp only at hb
  obtain ⟨run, t₁, hrun, hb⟩ := bind_eq_ok.mp hb
  obtain ⟨site, hsite, rfl⟩ := batch_eq_ok hrun
  obtain ⟨_, t₂, hset, hb⟩ := bind_eq_ok.mp hb
  cases hset
  cases ho : run.outcome with
  | error e =>
    rw [ho] at hb
    cases hb
  | ok result =>
    obtain ⟨report, hended, hok, hmeasured⟩ := Batch.ended_of_run hsite ho
    rw [ho] at hb
    dsimp only at hb
    rw [hok] at hb
    cases report with
    | some ds =>
      have hfound : run.measured.join.getD (g, t.bank) =
          (g.modifyGroup group (Node.measure (t.bank.save false ds) ctx.declared),
            t.bank.save false ds) := by
        rw [hmeasured, measureGroup_of_ok hc]
        rfl
      rw [hfound] at hb
      obtain ⟨_, t₃, hlog, hb⟩ := bind_eq_ok.mp hb
      cases hlog
      cases hb
      exact ⟨some ds, hended, rfl, bare_modifyGroup fun _ => rfl, fun j => modifyGroup_getElem? hn,
        rfl, rfl, rfl⟩
    | none =>
      obtain ⟨hbare, hbank, hnodes⟩ := unreported hc hn hmeasured
      obtain ⟨k, t₃, hrecord, hb⟩ := bind_eq_ok.mp hb
      obtain ⟨_, t₄, hset, hrecord⟩ := bind_eq_ok.mp hrecord
      cases hset
      obtain ⟨_, t₅, hlog, hrecord⟩ := bind_eq_ok.mp hrecord
      cases hlog
      cases hrecord
      cases hb
      have hfailed : ((run.measured.join.getD (g, t.bank)).1.modifyGroup group
          Node.markFailed).bare = g.bare :=
        (bare_modifyGroup (f := Node.markFailed) fun _ => rfl).trans hbare
      exact ⟨none, hended, rfl, hfailed, hnodes, hbank, rfl, rfl⟩

/-- The record of a build that was made, of a group that could be built, of nodes that had not
failed. -/
structure Sound (ctx : Context ω) (b : GroupBuild ω) : Prop where
  genuine : buildGroup ctx b.before b.group b.depth b.number b.start = .ok (b.after, b.ok) b.finish
  accepted : b.before.checkGroup b.group = .ok ()
  nodup : b.group.Nodup
  fresh : ∀ n ∈ b.before.members b.group, n.failed = false

theorem Sound.came (hb : Sound ctx b) :
    ∃ report, Came ctx b.before b.group b.start report b.after b.ok b.finish :=
  came_of_buildGroup hb.accepted hb.nodup hb.genuine

theorem Sound.bare (hb : Sound ctx b) : b.after.bare = b.before.bare := by
  obtain ⟨_, hcame⟩ := hb.came
  exact hcame.bare

theorem Sound.others (hb : Sound ctx b) (hj : j ∉ b.group) :
    b.after.nodes[j]? = b.before.nodes[j]? := by
  obtain ⟨_, hcame⟩ := hb.came
  simp [hcame.nodes, hj]

/-- Builds at one depth that lead from a graph and a trial to others, with nothing between them but
records, and a node that failed tried anew. -/
inductive Trail (ctx : Context ω) (depth : Nat) :
    Graph → Trial ω → List (GroupBuild ω) → Graph → Trial ω → Prop
  | done {g : Graph} {t t' : Trial ω} (ht : t'.unlogged = t.unlogged) : Trail ctx depth g t [] g t'
  | build {g h : Graph} {t t' : Trial ω} {b : GroupBuild ω} {bs : List (GroupBuild ω)}
      (hb : Sound ctx b) (hdepth : b.depth = depth) (hstart : b.start.unlogged = t.unlogged)
      (hbare : b.before.bare = g.bare)
      (hothers : ∀ j ∉ b.group, b.before.nodes[j]? = g.nodes[j]?)
      (hrest : Trail ctx depth b.after b.finish bs h t') : Trail ctx depth g t (b :: bs) h t'

/-- The last of some builds that a node took part in. -/
def lastBuild (bs : List (GroupBuild ω)) (j : Nat) : Option (GroupBuild ω) :=
  (bs.filter fun b => j ∈ b.group).getLast?

theorem mem_of_lastBuild (h : lastBuild bs j = some b) : b ∈ bs ∧ j ∈ b.group := by
  simpa using List.mem_filter.mp (List.mem_of_getLast? h)

theorem lastBuild_isSome (hb : b ∈ bs) (hj : j ∈ b.group) : ∃ c, lastBuild bs j = some c := by
  cases h : lastBuild bs j with
  | some c => exact ⟨c, rfl⟩
  | none =>
    have hnil : bs.filter (fun b => j ∈ b.group) = [] := List.getLast?_eq_none_iff.mp h
    have hmem : b ∈ bs.filter fun b => j ∈ b.group := List.mem_filter.mpr ⟨hb, by simpa using hj⟩
    rw [hnil] at hmem
    exact absurd hmem List.not_mem_nil

theorem lastBuild_cons : lastBuild (b :: bs) j =
    (lastBuild bs j).or (if j ∈ b.group then some b else none) := by
  unfold lastBuild
  by_cases hj : j ∈ b.group
  · rw [List.filter_cons_of_pos (by simpa using hj), if_pos hj, List.getLast?_cons]
    cases (bs.filter fun b => j ∈ b.group).getLast? <;> rfl
  · rw [List.filter_cons_of_neg (by simpa using hj), if_neg hj, Option.or_none]

theorem lastBuild_append (bs cs : List (GroupBuild ω)) (j : Nat) :
    lastBuild (bs ++ cs) j = (lastBuild cs j).or (lastBuild bs j) := by
  unfold lastBuild
  rw [List.filter_append, List.getLast?_append]

theorem lastBuild_eq_none (h : ∀ b ∈ bs, j ∉ b.group) : lastBuild bs j = none := by
  cases hlast : lastBuild bs j with
  | none => rfl
  | some b =>
    obtain ⟨hb, hj⟩ := mem_of_lastBuild hlast
    exact absurd hj (h b hb)

namespace Trail

theorem from_unlogged (h : Trail ctx depth g t₁ bs k t') (ht : t₁.unlogged = t.unlogged) :
    Trail ctx depth g t bs k t' := by
  cases h with
  | done h => exact .done (h.trans ht)
  | build hb hdepth hstart hbare hothers hrest =>
    exact .build hb hdepth (hstart.trans ht) hbare hothers hrest

theorem append (h : Trail ctx depth g t bs k t₁) (h' : Trail ctx depth k t₁ cs g' t') :
    Trail ctx depth g t (bs ++ cs) g' t' := by
  induction h with
  | done ht => exact h'.from_unlogged ht
  | build hb hdepth hstart hbare hothers _ ih =>
    exact .build hb hdepth hstart hbare hothers (ih h')

theorem bare (h : Trail ctx depth g t bs k t') : k.bare = g.bare := by
  induction h with
  | done => rfl
  | build hb _ _ hbare _ _ ih => rw [ih, hb.bare, hbare]

/-- Every build of a trail is sound, at its depth, and of the graph that it leads through. -/
theorem sound (h : Trail ctx depth g t bs k t') :
    ∀ b ∈ bs, Sound ctx b ∧ b.depth = depth ∧ b.before.bare = g.bare := by
  induction h with
  | done => simp
  | build hb hdepth _ hbare _ _ ih =>
    refine List.forall_mem_cons.mpr ⟨⟨hb, hdepth, hbare⟩, fun c hc => ?_⟩
    obtain ⟨hsound, hat, hcbare⟩ := ih c hc
    exact ⟨hsound, hat, by rw [hcbare, hb.bare, hbare]⟩

/-- All builds are measured against one snapshot. -/
theorem bank (h : Trail ctx depth g t bs k t') :
    t'.bank.before = t.bank.before ∧
      ∀ b ∈ bs, b.start.bank.before = t.bank.before ∧ b.finish.bank.before = t.bank.before := by
  induction h with
  | done ht => exact ⟨congrArg (fun t => t.bank.before) ht, by simp⟩
  | build hb _ hstart _ _ _ ih =>
    obtain ⟨_, hcame⟩ := hb.came
    have hbegin := congrArg (fun t => t.bank.before) hstart
    have hend := hcame.bank.trans hbegin
    refine ⟨ih.1.trans hend, List.forall_mem_cons.mpr ⟨⟨hbegin, hend⟩, fun c hc => ?_⟩⟩
    exact ⟨(ih.2 c hc).1.trans hend, (ih.2 c hc).2.trans hend⟩

theorem counts (h : Trail ctx depth g t bs k t') :
    t'.builds = t.builds + bs.length ∧
      t'.failedGroups = t.failedGroups + bs.countP (!·.ok) := by
  induction h with
  | done ht =>
    exact ⟨congrArg (fun t => t.builds) ht, congrArg (fun t => t.failedGroups) ht⟩
  | @build _ _ _ _ b bs hb _ hstart _ _ _ ih =>
    obtain ⟨_, hcame⟩ := hb.came
    have hbuilds := congrArg Trial.builds hstart
    have hfailed := congrArg Trial.failedGroups hstart
    have h₁ := hcame.builds
    have h₂ := hcame.failedGroups
    simp only [Trial.unlogged] at hbuilds hfailed
    rw [List.length_cons, List.countP_cons]
    refine ⟨by omega, ?_⟩
    cases hok : b.ok <;> simp [hok] at h₂ ⊢ <;> omega

/-- A node is as its last build left it, or as it was. -/
theorem last (h : Trail ctx depth g t bs k t') (j : Nat) :
    k.nodes[j]? = ((lastBuild bs j).elim g fun b => b.after).nodes[j]? := by
  induction h with
  | done => rfl
  | build hb _ _ _ hothers _ ih =>
    rw [ih, lastBuild_cons]
    cases lastBuild _ j with
    | some c => rfl
    | none =>
      split
      next hj => rfl
      next hj => exact (hb.others hj).trans (hothers j hj)

/-- A node that took part in a build says what the last one of these told it. -/
theorem learned {m : Node} (h : Trail ctx depth g t bs k t') (hlast : lastBuild bs j = some b)
    (hm : g.nodes[j]? = some m) (hf : m.failed = false) :
    ∃ report, Came ctx b.before b.group b.start report b.after b.ok b.finish ∧
      k.nodes[j]? = some (m.learn t.bank.before ctx.declared report) := by
  obtain ⟨hb, hj⟩ := mem_of_lastBuild hlast
  obtain ⟨hsound, -, hbare⟩ := h.sound b hb
  obtain ⟨report, hcame⟩ := hsound.came
  obtain ⟨n, hn, hnm⟩ := getElem?_of_bare_eq hbare hm
  have hmember : n ∈ b.before.members b.group := mem_members.mpr ⟨j, hj, hn⟩
  refine ⟨report, hcame, ?_⟩
  rw [h.last, hlast]
  change b.after.nodes[j]? = _
  rw [hcame.nodes, hn, Option.map_some, if_pos hj, (h.bank.2 b hb).1,
    Node.learn_congr hnm ((hsound.fresh n hmember).trans hf.symm)]

end Trail

theorem kept_of_buildKept (hb : buildKept ctx g group depth number t = .ok b t') :
    ∃ after ok, buildGroup ctx g group depth number t = .ok (after, ok) t' ∧
      b = { depth, number, group, before := g, start := t, after, finish := t', ok } := by
  obtain ⟨start, t₁, hget, hb⟩ := bind_eq_ok.mp hb
  cases hget
  obtain ⟨⟨after, ok⟩, t₂, hbuild, hb⟩ := bind_eq_ok.mp hb
  obtain ⟨finish, t₃, hget, hb⟩ := bind_eq_ok.mp hb
  cases hget
  cases hb
  exact ⟨after, ok, hbuild, rfl⟩

/-- A group is built and, where that fails and retries are on, each of its nodes after it. -/
theorem groupBuilds_cases (hb : groupBuilds ctx g group depth number t = .ok (bs, h) t') :
    ∃ b t₁, buildKept ctx g group depth number t = .ok b t₁ ∧
      ((b.ok = false ∧ ctx.retry = true ∧ 1 < group.length ∧
          ∃ cs t₂, t₂.unlogged = t₁.unlogged ∧
            retryBuilds ctx depth number b.after group t₂ = .ok (cs, h) t' ∧ bs = b :: cs) ∨
        ((b.ok = true ∨ ctx.retry = false ∨ group.length ≤ 1) ∧
          bs = [b] ∧ h = b.after ∧ t' = t₁)) := by
  unfold groupBuilds at hb
  obtain ⟨b, t₁, hbuild, hb⟩ := bind_eq_ok.mp hb
  refine ⟨b, t₁, hbuild, ?_⟩
  split at hb
  next hagain =>
    obtain ⟨_, t₂, hlog, hb⟩ := bind_eq_ok.mp hb
    cases hlog
    obtain ⟨⟨cs, k⟩, t₃, hretry, hb⟩ := bind_eq_ok.mp hb
    cases hb
    simp only [Bool.and_eq_true, Bool.not_eq_true', decide_eq_true_eq] at hagain
    obtain ⟨⟨hfailed, hon⟩, hmany⟩ := hagain
    refine .inl ⟨hfailed, hon, hmany, cs, _, ?_, hretry, rfl⟩
    rfl
  next hagain =>
    cases hb
    simp only [Bool.and_eq_true, Bool.not_eq_true', decide_eq_true_eq, not_and_or, or_assoc,
      Bool.not_eq_false, Bool.not_eq_true, not_lt] at hagain
    exact .inr ⟨hagain, rfl, rfl, rfl⟩

/-- A retry builds each node alone. -/
theorem groups_of_retryBuilds (hr : retryBuilds ctx depth number g group t = .ok (bs, h) t') :
    bs.map (·.group) = group.map fun i => [i] := by
  induction group generalizing g t bs with
  | nil =>
    cases hr
    rfl
  | cons i rest ih =>
    unfold retryBuilds at hr
    obtain ⟨b, t₁, hbuild, hr⟩ := bind_eq_ok.mp hr
    obtain ⟨⟨cs, k⟩, t₂, hrest, hr⟩ := bind_eq_ok.mp hr
    cases hr
    obtain ⟨after, ok, -, rfl⟩ := kept_of_buildKept hbuild
    rw [List.map_cons, List.map_cons, ih hrest]

theorem single_of_retryBuilds (hr : retryBuilds ctx depth number g group t = .ok (bs, h) t')
    (hb : b ∈ bs) : ∃ i ∈ group, b.group = [i] := by
  have hmem : b.group ∈ group.map fun i => [i] :=
    groups_of_retryBuilds hr ▸ List.mem_map_of_mem hb
  obtain ⟨i, hi, hsingle⟩ := List.mem_map.mp hmem
  exact ⟨i, hi, hsingle.symm⟩

/-- The builds of a group are of its nodes only. -/
theorem within_of_groupBuilds (hb : groupBuilds ctx g group depth number t = .ok (bs, h) t') :
    ∀ b ∈ bs, b.group ⊆ group := by
  obtain ⟨b, t₁, hbuild, ⟨-, -, -, cs, t₂, -, hretry, rfl⟩ | ⟨-, rfl, -⟩⟩ := groupBuilds_cases hb
  all_goals obtain ⟨after, ok, -, rfl⟩ := kept_of_buildKept hbuild
  · refine List.forall_mem_cons.mpr ⟨List.Subset.refl group, fun c hc => ?_⟩
    obtain ⟨i, hi, hsingle⟩ := single_of_retryBuilds hretry hc
    rw [hsingle]
    exact List.cons_subset.mpr ⟨hi, List.nil_subset group⟩
  · exact List.forall_mem_singleton.mpr (List.Subset.refl group)

/-- The nodes of a group that are built one by one leave a trail. -/
theorem trail_of_retryBuilds (hr : retryBuilds ctx depth number g group t = .ok (bs, h) t') :
    Trail ctx depth g t bs h t' := by
  induction group generalizing g t bs with
  | nil =>
    cases hr
    exact .done rfl
  | cons i rest ih =>
    unfold retryBuilds at hr
    obtain ⟨b, t₁, hbuild, hr⟩ := bind_eq_ok.mp hr
    obtain ⟨⟨cs, k⟩, t₂, hrest, hr⟩ := bind_eq_ok.mp hr
    cases hr
    obtain ⟨after, ok, hgenuine, rfl⟩ := kept_of_buildKept hbuild
    have hsound : Sound ctx { depth, number, group := [i], start := t, after, finish := t₁, ok
                              before := g.modify i fun n => { n with failed := false } } := by
      refine ⟨hgenuine, checkGroup_singleton, List.nodup_singleton i, fun n hn => ?_⟩
      obtain ⟨j, hj, hn⟩ := mem_members.mp hn
      obtain rfl := List.mem_singleton.mp hj
      rw [modify_getElem?] at hn
      obtain ⟨m, -, rfl⟩ := Option.map_eq_some_iff.mp hn
      rw [if_pos rfl]
    refine .build hsound rfl rfl (bare_modify fun _ => rfl) (fun j hj => ?_) (ih hrest)
    rw [modify_getElem?]
    simp [Ne.symm (List.mem_singleton.not.mp hj)]

/-- A group is built, and then perhaps some of its nodes. -/
theorem trail_of_groupBuilds (hc : g.checkGroup group = .ok ()) (hn : group.Nodup)
    (hfresh : ∀ n ∈ g.members group, n.failed = false)
    (hb : groupBuilds ctx g group depth number t = .ok (bs, h) t') :
    Trail ctx depth g t bs h t' ∧ ∃ b ∈ bs, b.group = group := by
  obtain ⟨b, t₁, hbuild, hcases⟩ := groupBuilds_cases hb
  obtain ⟨after, ok, hgenuine, rfl⟩ := kept_of_buildKept hbuild
  have hsound : Sound ctx { depth, number, group, before := g, start := t, after, finish := t₁, ok } :=
    ⟨hgenuine, hc, hn, hfresh⟩
  obtain ⟨-, -, -, cs, t₂, hlog, hretry, rfl⟩ | ⟨-, rfl, rfl, rfl⟩ := hcases
  · have hrest := (trail_of_retryBuilds hretry).from_unlogged hlog
    exact ⟨.build hsound rfl rfl rfl (fun _ _ => rfl) hrest, _, List.mem_cons_self, rfl⟩
  · exact ⟨.build hsound rfl rfl rfl (fun _ _ => rfl) (.done rfl), _, List.mem_singleton_self _, rfl⟩

/-- Groups that have no node in common leave one trail, in which each of them is built. -/
theorem trail_of_groupsBuilds (hc : ∀ group ∈ groups, g.checkGroup group = .ok ())
    (hn : groups.flatten.Nodup)
    (hfresh : ∀ group ∈ groups, ∀ n ∈ g.members group, n.failed = false)
    (hb : groupsBuilds ctx depth number g groups t = .ok (bs, h) t') :
    Trail ctx depth g t bs h t' ∧ ∀ group ∈ groups, ∃ b ∈ bs, b.group = group := by
  induction groups generalizing number g t bs with
  | nil =>
    cases hb
    exact ⟨.done rfl, by simp⟩
  | cons first rest ih =>
    rw [List.forall_mem_cons] at hc hfresh
    rw [List.flatten_cons, List.nodup_append] at hn
    obtain ⟨hnfirst, hnrest, hapart⟩ := hn
    unfold groupsBuilds at hb
    obtain ⟨⟨cs, k⟩, t₁, hfirst, hb⟩ := bind_eq_ok.mp hb
    obtain ⟨⟨ds, l⟩, t₂, hrest, hb⟩ := bind_eq_ok.mp hb
    cases hb
    obtain ⟨htrail, hbuilt⟩ := trail_of_groupBuilds hc.1 hnfirst hfresh.1 hfirst
    have hwithin := within_of_groupBuilds hfirst
    -- no build of the first group touched a node of the groups to come
    have hmembers : ∀ group ∈ rest, k.members group = g.members group := by
      intro group hgroup
      refine members_congr fun j hj => ?_
      have hnone : lastBuild cs j = none := lastBuild_eq_none fun c hc hjc =>
        hapart j (hwithin c hc hjc) j (List.mem_flatten.mpr ⟨group, hgroup, hj⟩) rfl
      rw [htrail.last, hnone]
      rfl
    obtain ⟨hothers, hall⟩ := ih (g := k)
      (fun group hgroup => checkGroup_of_bare_eq htrail.bare (hc.2 group hgroup)) hnrest
      (fun group hgroup => hmembers group hgroup ▸ hfresh.2 group hgroup) hrest
    refine ⟨htrail.append hothers, List.forall_mem_cons.mpr ⟨?_, fun group hgroup => ?_⟩⟩
    · obtain ⟨b, hb, hgroup⟩ := hbuilt
      exact ⟨b, List.mem_append_left _ hb, hgroup⟩
    · obtain ⟨b, hb, hgroup⟩ := hall group hgroup
      exact ⟨b, List.mem_append_right _ hb, hgroup⟩

theorem fresh_prepared {source : RegionSource} (hfresh : ∀ n ∈ g.nodes, n.failed = false) :
    ∀ n ∈ (prepared source g).nodes, n.failed = false := by
  intro n hn
  change n ∈ (g.updateRegions source).nodes at hn
  rw [updateRegions_nodes] at hn
  obtain ⟨m, hm, rfl⟩ := List.mem_map.mp hn
  exact hfresh m hm

/-- A pass over nodes that have not failed leaves a trail, in which every pending node is built. -/
theorem trail_of_passBuilds (hg : g.Arena) (hfresh : ∀ n ∈ g.nodes, n.failed = false)
    (hp : passBuilds ctx g depth t = .ok (bs, h) t') :
    Trail ctx depth (prepared ctx.regions g) t bs h t' ∧
      ∀ group ∈ (prepared ctx.regions g).groups, ∃ b ∈ bs, b.group = group := by
  have hupdated : (g.updateRegions ctx.regions).Arena := arena_updateRegions hg
  have hparts := partitions_findGroups hupdated
  have hc : ∀ group ∈ (prepared ctx.regions g).groups,
      (prepared ctx.regions g).checkGroup group = .ok () :=
    fun group hgroup => checkGroup_partition hg hgroup
  have hmembers : ∀ group ∈ (prepared ctx.regions g).groups,
      ∀ n ∈ (prepared ctx.regions g).members group, n.failed = false := by
    intro group _ n hn
    obtain ⟨i, -, hi⟩ := mem_members.mp hn
    exact fresh_prepared hfresh n (List.mem_of_getElem? hi)
  unfold passBuilds at hp
  rw [log_bind, log_bind] at hp
  obtain ⟨htrail, hall⟩ := trail_of_groupsBuilds hc hparts.once hmembers hp
  exact ⟨htrail.from_unlogged rfl, hall⟩

end Exploration
end FixTrial
