import FixTrial.Proofs.Exploration.Twins
import FixTrial.Proofs.Workspace.Repeatable

/-!
Passes over a repeatable workspace. What a pass makes of a node is a function of the fixes of its
group, and, where these do not build together, of its own.
-/
namespace FixTrial
open Act

variable {ω : Type} {clean : ω → Prop} {out : Finset FixKey → Option (List Diagnostic)}
  {before : Snapshot} {declared : Location → Bool} {S : Finset FixKey}

namespace Node
variable {n : Node}

/-- The keys of a node's fixes. -/
def keys (n : Node) : Finset FixKey := Fix.keys n.fixes

/-- A node after one build of some fixes. -/
def tried (out : Finset FixKey → Option (List Diagnostic)) (before : Snapshot)
    (declared : Location → Bool) (S : Finset FixKey) (n : Node) : Node :=
  match out S with
  | none => n.markFailed
  | some ds => n.measure ⟨before, ⟨ds⟩⟩ declared

/-- A node after its group, which puts `S` in. Where that fails, the node may be built alone. -/
def inGroup (out : Finset FixKey → Option (List Diagnostic)) (before : Snapshot)
    (declared : Location → Bool) (again : Bool) (S : Finset FixKey) (n : Node) : Node :=
  if (out S).isNone && again then n.tried out before declared n.keys
  else n.tried out before declared S

/-- A node that failed with its group and is built alone. -/
def retried (out : Finset FixKey → Option (List Diagnostic)) (before : Snapshot)
    (declared : Location → Bool) (n : Node) : Node :=
  { n with failed := false }.tried out before declared n.keys

theorem retried_markFailed (hn : n.failed = false) :
    n.markFailed.retried out before declared = n.tried out before declared n.keys := by
  have hkeys : n.markFailed.keys = n.keys := rfl
  unfold retried tried
  rw [hkeys]
  cases out n.keys with
  | none => rfl
  | some ds =>
    cases n
    obtain rfl := hn
    rfl

end Node

namespace Graph
variable {g g' : Graph} {group : List Nat} {f : Node → Node} {i j : Nat} {n : Node}

/-- The keys of the fixes that a group puts in. -/
def keys (g : Graph) (group : List Nat) : Finset FixKey :=
  Fix.keys ((g.members group).flatMap (·.fixes))

theorem mem_keys {k : FixKey} : k ∈ g.keys group ↔ ∃ n ∈ g.members group, k ∈ n.keys := by
  rw [keys, Fix.mem_keys, List.map_flatMap, List.mem_flatMap]
  exact exists_congr fun n => and_congr_right fun _ => Fix.mem_keys.symm

theorem members_congr (h : ∀ j ∈ group, g'.nodes[j]? = g.nodes[j]?) :
    g'.members group = g.members group :=
  List.filterMap_congr h

theorem keys_singleton (hn : g.nodes[i]? = some n) : g.keys [i] = n.keys := by
  simp [keys, members, hn, Node.keys]

theorem keys_of_bare_eq (hb : g'.bare = g.bare) : g'.keys group = g.keys group := by
  have hmembers : (g'.members group).map Node.bare = (g.members group).map Node.bare := by
    rw [← members_bare, ← members_bare, hb]
  have hfixes : ∀ ns : List Node, (ns.map Node.bare).flatMap (·.fixes) = ns.flatMap (·.fixes) := by
    intro ns
    rw [List.flatMap_map]
    rfl
  rw [keys, keys, ← hfixes, hmembers, hfixes]

theorem modifyGroup_getElem? (hn : group.Nodup) :
    (g.modifyGroup group f).nodes[j]? =
      (g.nodes[j]?).map fun n => if j ∈ group then f n else n := by
  unfold modifyGroup
  induction group generalizing g with
  | nil => simp
  | cons i group ih =>
    rw [List.nodup_cons] at hn
    rw [List.foldl_cons, ih hn.2, modify_getElem?, Option.map_map]
    congr 1
    funext n
    by_cases hij : i = j
    · subst hij
      simp [hn.1]
    · simp [hij, Ne.symm hij]

theorem modify_modify (f' : Node → Node) : (g.modify i f).modify i f' = g.modify i (f' ∘ f) := by
  simp [modify, List.modify_modify_eq]

/-- Only the node that is changed matters to the change. -/
theorem modify_congr {f' : Node → Node} (h : ∀ n, g.nodes[i]? = some n → f n = f' n) :
    g.modify i f = g.modify i f' := by
  have hnodes : (g.modify i f).nodes = (g.modify i f').nodes := by
    apply List.ext_getElem?
    intro j
    rw [modify_getElem?, modify_getElem?]
    cases hj : g.nodes[j]? with
    | none => rfl
    | some n =>
      by_cases hij : i = j
      · subst hij
        simp [h n hj]
      · simp [hij]
  exact congrArg (Graph.mk · g.groups) hnodes

end Graph

namespace Exploration
variable {ctx : Context ω} {g h : Graph} {group : List Nat} {depth number : Nat} {t : Trial ω}
  {groups : List (List Nat)} {j : Nat}

/-- Between two batches: the world is clean, and measurements are made against `before`. -/
structure Ready (clean : ω → Prop) (before : Snapshot) (t : Trial ω) : Prop where
  clean : clean t.site.world
  before : t.bank.before = before

theorem ready_log (ht : Ready clean before t) (e : Event) :
    Ready clean before { t with journal := t.journal ++ [e] } :=
  ⟨ht.clean, ht.before⟩

variable (hw : ctx.workspace.Repeatable clean out)
include hw

theorem buildGroup_tried (depth number : Nat) (ht : Ready clean before t)
    (hc : g.checkGroup group = .ok ()) :
    ∃ t', Ready clean before t' ∧ buildGroup ctx g group depth number t =
      .ok (g.modifyGroup group (Node.tried out before ctx.declared (g.keys group)),
        (out (g.keys group)).isSome) t' := by
  unfold buildGroup
  rw [log_bind, modify_bind, get_bind]
  dsimp only
  -- the trial as the batch starts
  generalize hstart : Trial.mk _ _ _ _ _ _ = started
  have hstarted : Ready clean before started := hstart ▸ ⟨ht.clean, ht.before⟩
  cases ho : out (g.keys group) with
  | some ds =>
    have htried : Node.tried out before ctx.declared (g.keys group) =
        Node.measure (t.bank.save false ds) ctx.declared := by
      funext n
      rw [Node.tried, ho, ← ht.before]
      rfl
    obtain ⟨s, hs, hb⟩ := hw.batch_of_some hstarted.clean ho
      (fun ds => g.measureGroup group ctx.declared t.bank ds) (Graph.measureGroup_of_ok hc)
    rw [bind_of_ok hb, htried]
    refine ⟨_, ?_, rfl⟩
    exact ⟨hs, ht.before⟩
  | none =>
    have htried : Node.tried out before ctx.declared (g.keys group) = Node.markFailed := by
      funext n
      rw [Node.tried, ho]
    obtain ⟨logs, s, hs, hb⟩ := hw.batch_of_none hstarted.clean ho
      (fun ds => g.measureGroup group ctx.declared t.bank ds)
    rw [bind_of_ok hb, htried]
    refine ⟨_, ?_, rfl⟩
    exact ⟨hs, ht.before⟩

theorem retryEach_tried (ht : Ready clean before t) :
    ∃ t', Ready clean before t' ∧ retryEach ctx depth number g group t =
      .ok (g.modifyGroup group (Node.retried out before ctx.declared)) t' := by
  unfold retryEach
  induction group generalizing g t with
  | nil => exact ⟨t, ht, rfl⟩
  | cons i rest ih =>
    rw [List.foldlM_cons]
    let cleared := g.modify i fun n => { n with failed := false }
    obtain ⟨t₁, ht₁, hb⟩ := buildGroup_tried hw depth number ht
      (Graph.checkGroup_singleton (g := cleared) (i := i))
    have halone : cleared.modifyGroup [i] (Node.tried out before ctx.declared (cleared.keys [i])) =
        g.modify i (Node.retried out before ctx.declared) := by
      change (g.modify i _).modify i _ = _
      rw [Graph.modify_modify]
      refine Graph.modify_congr fun n hn => ?_
      have hkeys : cleared.keys [i] = n.keys :=
        Graph.keys_singleton (n := { n with failed := false })
          (by rw [Graph.modify_getElem?, hn]; simp)
      rw [Function.comp, hkeys]
      rfl
    rw [halone] at hb
    obtain ⟨t', ht', hrest⟩ := ih (g := g.modify i (Node.retried out before ctx.declared)) ht₁
    refine ⟨t', ht', ?_⟩
    have hstep : (do return (← buildGroup ctx cleared [i] depth number).1 : Act (Trial ω) Graph) t =
        .ok (g.modify i (Node.retried out before ctx.declared)) t₁ := by
      rw [bind_of_ok hb]
      rfl
    rw [bind_of_ok hstep]
    exact hrest

/-- A group changes its own nodes only, each as its fixes and those of the group say. -/
theorem runGroup_tried (depth number : Nat) (ht : Ready clean before t)
    (hc : g.checkGroup group = .ok ()) (hn : group.Nodup)
    (hfresh : ∀ n ∈ g.members group, n.failed = false) :
    ∃ t' h, Ready clean before t' ∧ runGroup ctx g group depth number t = .ok h t' ∧
      ∀ j, h.nodes[j]? = (g.nodes[j]?).map fun n =>
        if j ∈ group then
          n.inGroup out before ctx.declared (ctx.retry && decide (1 < group.length)) (g.keys group)
        else n := by
  obtain ⟨t₁, ht₁, hb⟩ := buildGroup_tried hw depth number ht hc
  unfold runGroup
  rw [bind_of_ok hb]
  dsimp only
  by_cases hagain : (!(out (g.keys group)).isSome && ctx.retry && decide (1 < group.length)) = true
  · rw [if_pos hagain, log_bind]
    obtain ⟨t₃, ht₃, hr⟩ := retryEach_tried hw (ready_log ht₁ _)
    refine ⟨t₃, _, ht₃, hr, fun j => ?_⟩
    rw [Graph.modifyGroup_getElem? hn, Graph.modifyGroup_getElem? hn, Option.map_map]
    cases hj : g.nodes[j]? with
    | none => rfl
    | some n =>
      by_cases hmem : j ∈ group
      · have hnone : out (g.keys group) = none := by
          cases ho : out (g.keys group) <;> simp_all
        have hfailed := hfresh n (Graph.mem_members.mpr ⟨j, hmem, hj⟩)
        have hmarked : n.tried out before ctx.declared (g.keys group) = n.markFailed := by
          rw [Node.tried, hnone]
        have hflags : (ctx.retry && decide (1 < group.length)) = true := by
          rw [hnone, Option.isSome_none, Bool.not_false, Bool.true_and] at hagain
          exact hagain
        simp only [Option.map_some, Function.comp, if_pos hmem, hmarked, hnone, hflags,
          Node.inGroup, Option.isNone_none, Bool.and_self, if_true,
          Node.retried_markFailed hfailed]
      · simp [hmem]
  · rw [if_neg hagain]
    refine ⟨t₁, _, ht₁, rfl, fun j => ?_⟩
    rw [Graph.modifyGroup_getElem? hn]
    congr 1
    funext n
    have hflag : ((out (g.keys group)).isNone &&
        (ctx.retry && decide (1 < group.length))) = false := by
      rw [← Option.not_isSome, ← Bool.and_assoc]
      exact Bool.not_eq_true _ ▸ hagain
    simp only [Node.inGroup, hflag, Bool.false_eq_true, if_false]

/-- Groups that have no node in common do not disturb each other. -/
theorem runGroups_tried (depth number : Nat) (g : Graph) (groups : List (List Nat))
    (ht : Ready clean before t) (hc : ∀ group ∈ groups, g.checkGroup group = .ok ())
    (hn : groups.flatten.Nodup)
    (hfresh : ∀ group ∈ groups, ∀ n ∈ g.members group, n.failed = false) :
    ∃ t' h, Ready clean before t' ∧ runGroups ctx depth number g groups t = .ok h t' ∧
      (∀ j ∉ groups.flatten, h.nodes[j]? = g.nodes[j]?) ∧
      ∀ group ∈ groups, ∀ j ∈ group, h.nodes[j]? = (g.nodes[j]?).map
        (Node.inGroup out before ctx.declared (ctx.retry && decide (1 < group.length))
          (g.keys group)) := by
  induction groups generalizing number g t with
  | nil => exact ⟨t, g, ht, rfl, fun _ _ => rfl, by simp⟩
  | cons first rest ih =>
    rw [List.forall_mem_cons] at hc hfresh
    rw [List.flatten_cons, List.nodup_append] at hn
    obtain ⟨hnfirst, hnrest, hapart⟩ := hn
    obtain ⟨t₁, g₁, ht₁, hrun, hnodes⟩ := runGroup_tried hw depth number ht hc.1 hnfirst hfresh.1
    have hother : ∀ j, j ∉ first → g₁.nodes[j]? = g.nodes[j]? := by
      intro j hj
      rw [hnodes]
      simp [hj]
    -- the groups to come have no node in the first one, and find theirs as they were
    have hrest : ∀ group ∈ rest, ∀ j ∈ group, j ∉ first := by
      intro group hg j hj hfirst
      exact hapart j hfirst j (List.mem_flatten.mpr ⟨group, hg, hj⟩) rfl
    have hmembers : ∀ group ∈ rest, g₁.members group = g.members group := fun group hg =>
      Graph.members_congr fun j hj => hother j (hrest group hg j hj)
    have hc₁ : ∀ group ∈ rest, g₁.checkGroup group = .ok () := by
      intro group hg
      rw [Graph.checkGroup, hmembers group hg]
      exact hc.2 group hg
    have hfresh₁ : ∀ group ∈ rest, ∀ n ∈ g₁.members group, n.failed = false := by
      intro group hg n hn
      rw [hmembers group hg] at hn
      exact hfresh.2 group hg n hn
    obtain ⟨t', h, ht', hruns, hothers, hgroups⟩ := ih (number + 1) g₁ ht₁ hc₁ hnrest hfresh₁
    refine ⟨t', h, ht', ?_, fun j hj => ?_, ?_⟩
    · unfold runGroups
      rw [bind_of_ok hrun]
      exact hruns
    · rw [List.flatten_cons, List.mem_append, not_or] at hj
      rw [hothers j hj.2, hother j hj.1]
    · rw [List.forall_mem_cons]
      constructor
      · intro j hj
        have hjrest : j ∉ rest.flatten := fun hr => hapart j hj j hr rfl
        rw [hothers j hjrest, hnodes]
        simp [hj]
      · intro group hg j hj
        rw [hgroups group hg j hj, hother j (hrest group hg j hj), Graph.keys, hmembers group hg]
        rfl

/-- A pass over fresh nodes: what it makes of the pending ones, group by group. -/
theorem pass_tried (hg : g.Arena) (depth : Nat) (ht : Ready clean before t)
    (hfresh : ∀ n ∈ g.nodes, n.failed = false) :
    ∃ t' h, Ready clean before t' ∧ pass ctx g depth t = .ok h t' ∧
      ∀ group ∈ (prepared ctx.regions g).groups, ∀ j ∈ group,
        h.nodes[j]? = ((prepared ctx.regions g).nodes[j]?).map
          (Node.inGroup out before ctx.declared (ctx.retry && decide (1 < group.length))
            ((prepared ctx.regions g).keys group)) := by
  have harena : (g.updateRegions ctx.regions).Arena := Graph.arena_updateRegions hg
  have hparts := Graph.partitions_findGroups harena
  have hc : ∀ group ∈ (prepared ctx.regions g).groups,
      (prepared ctx.regions g).checkGroup group = .ok () :=
    fun group hgroup => Graph.checkGroup_partition hg hgroup
  have hprepared : ∀ n ∈ (prepared ctx.regions g).nodes, n.failed = false := by
    intro n hn
    change n ∈ (g.updateRegions ctx.regions).nodes at hn
    rw [Graph.updateRegions_nodes] at hn
    obtain ⟨m, hm, rfl⟩ := List.mem_map.mp hn
    exact hfresh m hm
  have hmembers : ∀ group ∈ (prepared ctx.regions g).groups,
      ∀ n ∈ (prepared ctx.regions g).members group, n.failed = false := by
    intro group _ n hn
    obtain ⟨i, -, hi⟩ := Graph.mem_members.mp hn
    exact hprepared n (List.mem_of_getElem? hi)
  unfold pass
  rw [log_bind, log_bind]
  obtain ⟨t', h, ht', hrun, -, hgroups⟩ :=
    runGroups_tried hw depth 0 _ _ (ready_log (ready_log ht _) _) hc hparts.once hmembers
  exact ⟨t', h, ht', hrun, hgroups⟩

end Exploration
end FixTrial
