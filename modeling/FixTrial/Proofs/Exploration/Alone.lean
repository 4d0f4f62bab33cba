import FixTrial.Proofs.Exploration.Regional
import FixTrial.Proofs.Exploration.Verdicts

/-!
Fixes that are explored together are reported as each of them is when it is explored alone, as long
as builds are regional and nothing is followed up.
-/
namespace FixTrial
open Act

namespace Report
variable {r s u : Report} {mode : Mode} {destructive : List Fix → Bool}

/-- Two reports that say the same, in whatever order they list diagnostics and fixes. -/
structure Agrees (r s : Report) : Prop where
  root : r.root = s.root
  tree : r.tree = s.tree
  effect : r.localEffect = s.localEffect
  lower : r.lowerBound = s.lowerBound
  upper : r.upperBound = s.upperBound
  tag : r.tag = s.tag
  depth : r.depth = s.depth
  failed : r.failed = s.failed
  triggered : Keyed.Same Fix.key r.triggered s.triggered
  added : Keyed.Same Diagnostic.key r.newDiagnostics s.newDiagnostics

theorem Agrees.symm (h : r.Agrees s) : s.Agrees r :=
  ⟨h.root.symm, h.tree.symm, h.effect.symm, h.lower.symm, h.upper.symm, h.tag.symm, h.depth.symm,
    h.failed.symm, h.triggered.symm, h.added.symm⟩

theorem Agrees.trans (h : r.Agrees s) (h' : s.Agrees u) : r.Agrees u :=
  ⟨h.root.trans h'.root, h.tree.trans h'.tree, h.effect.trans h'.effect, h.lower.trans h'.lower,
    h.upper.trans h'.upper, h.tag.trans h'.tag, h.depth.trans h'.depth, h.failed.trans h'.failed,
    h.triggered.trans h'.triggered, h.added.trans h'.added⟩

/-- The policy asks for nothing that the order could change. -/
theorem Agrees.decide_eq (h : r.Agrees s) :
    Policy.decide mode destructive r = Policy.decide mode destructive s := by
  unfold Policy.decide
  rw [h.failed, h.effect, h.lower, h.upper, h.root, h.tree]

end Report

namespace Exploration
open FixTrial.Graph
variable {ω : Type} {ctx : Context ω} {clean : ω → Prop} {holds : ω → Finset FixKey}
  {out : Finset FixKey → Option (List Diagnostic)} {V : Finset FixKey → List Diagnostic}
  {failing : Set FixKey} {before : Snapshot} {ds : List Diagnostic} {rs : Reports} {r : Report}
  {g h : Graph} {fixes : List Fix} {root : Fix} {settled : List Fix} {t : Trial ω}
  {n m : Node}

/-- A report with the verdict of the policy. -/
def decided (ctx : Context ω) (r : Report) : Report :=
  { r with tag := Policy.decide ctx.mode ctx.destructive r }

theorem settle_of_pending (h : r.isFinished = false) :
    settle ctx true settled r = decided ctx r := by
  rw [settle, verdict?_final h]
  rfl

theorem settle_decided : settle ctx true settled (decided ctx r) = decided ctx r :=
  settle_of_finished (by simp [decided, Report.isFinished, decide_ne_pending])

theorem conclude_returns (rs : Reports) (reached : Nat) (exceeded : Bool) (t : Trial ω) :
    ∃ result t', conclude rs reached exceeded t = .ok result t' := by
  unfold conclude
  rw [get_bind, log_bind]
  dsimp only
  split
  · rw [log_bind, log_bind]
    exact ⟨_, _, rfl⟩
  · rw [log_bind]
    exact ⟨_, _, rfl⟩

theorem finish_returns (ctx : Context ω) (rs : Reports) (reached : Nat) (t : Trial ω) :
    ∃ result t', finish ctx rs reached t = .ok result t' := by
  have hrest : ∀ {t₁ : Trial ω} {exceeded : Bool}, ∃ result t',
      (decideReports ctx true rs >>= fun rs => conclude rs reached exceeded) t₁ = .ok result t' := by
    intro t₁ exceeded
    rw [decideReports, bind_of_ok decideEach_eq]
    exact conclude_returns _ _ _ _
  unfold finish
  dsimp only
  split
  · rw [log_bind]
    exact hrest
  · exact hrest

/-- At depth zero no level follows the first one. -/
theorem follow_shallow (hdepth : ctx.depth = .whole 0) (rs : Reports) (t : Trial ω) :
    ∃ result t', follow ctx rs t = .ok result t' ∧
      result.reports = rs.map (settle ctx true rs.settled) := by
  obtain ⟨result, t', hf⟩ := finish_returns ctx rs 0 t
  refine ⟨result, t', ?_, (finish_returned hf).1⟩
  have hlevels : ctx.depth.levels? = some 0 := by rw [hdepth]; rfl
  unfold follow
  rw [hlevels]
  exact hf

/-- At depth zero every report is decided at once, and only once. -/
theorem decide_shallow (hdepth : ctx.depth = .whole 0) (hrs : ∀ r ∈ rs, r.isFinished = false)
    (t : Trial ω) :
    ∃ result t', (decideReports ctx ctx.depth.isZero rs >>= follow ctx) t = .ok result t' ∧
      result.reports = rs.map (decided ctx) := by
  have hzero : ctx.depth.isZero = true := by rw [hdepth]; rfl
  have hsettle : rs.map (settle ctx true rs.settled) = rs.map (decided ctx) :=
    List.map_congr_left fun r hr => settle_of_pending (hrs r hr)
  rw [hzero, decideReports, bind_of_ok decideEach_eq, hsettle]
  obtain ⟨result, t', hf, hreports⟩ := follow_shallow hdepth (rs.map (decided ctx)) _
  refine ⟨result, t', hf, hreports.trans ?_⟩
  rw [List.map_map]
  exact List.map_congr_left fun r _ => settle_decided

/-- What a pass over `g` makes of it, if builds give `out`. -/
structure Passed (ctx : Context ω) (out : Finset FixKey → Option (List Diagnostic))
    (before : Snapshot) (g h : Graph) : Prop where
  bare : h.bare = (prepared ctx.regions g).bare
  groups : ∀ group ∈ (prepared ctx.regions g).groups, ∀ j ∈ group,
    h.nodes[j]? = ((prepared ctx.regions g).nodes[j]?).map
      (Node.inGroup out before ctx.declared (ctx.retry && decide (1 < group.length))
        ((prepared ctx.regions g).keys group))

/-- One level over fresh nodes returns. -/
theorem level_passed (hw : ctx.workspace.Repeatable clean out) (hg : g.Arena)
    (hfresh : ∀ n ∈ g.nodes, n.failed = false) (ht : Ready clean before t) (depth : Nat)
    (rs : Reports) :
    ∃ h t', level ctx g depth rs t = .ok (h, rs.map (refresh h depth)) t' ∧ Ready clean before t' ∧
      Passed ctx out before g h := by
  obtain ⟨t', h, ht', hpass, hgroups⟩ := pass_tried hw hg depth ht hfresh
  have hbare := (told_of_alike ((twins_quiet _).pass hg allows_all depth) hpass).1
  refine ⟨h, t', ?_, ht', hbare, hgroups⟩
  unfold level
  rw [bind_of_ok hpass]
  rfl

theorem exploreFrom_empty (given : Option (List Fix))
    (h0 : (firstLevel ctx before (roots ctx before given)).1.size = 0) (t : Trial ω) :
    ∃ result t', exploreFrom ctx before given t = .ok result t' ∧ result.reports = [] := by
  obtain ⟨result, t', hc⟩ := conclude_returns ([] : Reports) 0 false
    { t with journal := t.journal ++ [.level 0 0] }
  refine ⟨result, t', ?_, (conclude_returned hc).1⟩
  unfold exploreFrom
  dsimp only
  rw [log_bind, if_pos h0, reports_of_size_zero h0, h0]
  exact hc

/-- The first level of an exploration that has something to try, without modules to estimate. -/
theorem exploreFrom_passed (hw : ctx.workspace.Repeatable clean out) (hmodules : ctx.modules = [])
    (given : Option (List Fix)) (hgiven : roots ctx before given = fixes)
    (hsome : (firstLevel ctx before fixes).1.size ≠ 0) (hroots : (fixes.map Fix.key).Nodup)
    (ht : Ready clean before t) :
    ∃ h t', Ready clean before t' ∧ Passed ctx out before (firstLevel ctx before fixes).1 h ∧
      exploreFrom ctx before given t = (decideReports ctx ctx.depth.isZero
        ((firstLevel ctx before fixes).2.map (refresh h 0)) >>= follow ctx) t' := by
  obtain ⟨h, t', hlevel, ht', hp⟩ := level_passed hw (arena_of_built built_firstLevel)
    (fresh_firstLevel ctx before hroots) (ready_log ht (.level 0 _)) 0
    (firstLevel ctx before fixes).2
  refine ⟨h, t', ht', hp, ?_⟩
  have hmodules' : ctx.modules.isEmpty = true := by rw [hmodules]; rfl
  unfold exploreFrom
  rw [hgiven]
  dsimp only
  rw [log_bind, if_neg hsome, bind_of_ok hlevel]
  dsimp only
  rw [if_pos hmodules']
  rfl

/-- The first level, where no other follows: a pass, and a verdict on every report. -/
theorem exploreFrom_shallow (hw : ctx.workspace.Repeatable clean out) (hmodules : ctx.modules = [])
    (hdepth : ctx.depth = .whole 0) (hroots : (fixes.map Fix.key).Nodup)
    (ht : Ready clean before t) :
    ∃ result t' h, exploreFrom ctx before (some fixes) t = .ok result t' ∧
      Passed ctx out before (firstLevel ctx before fixes).1 h ∧
      result.reports = (firstLevel ctx before fixes).2.map fun r => decided ctx (refresh h 0 r) := by
  have hgiven : roots ctx before (some fixes) = fixes := Fix.dedupe_of_nodup hroots
  by_cases h0 : (firstLevel ctx before fixes).1.size = 0
  · obtain ⟨result, t', he, hreports⟩ := exploreFrom_empty (some fixes) (hgiven.symm ▸ h0) t
    obtain ⟨h, -, -, -, hp⟩ := level_passed hw (arena_of_built built_firstLevel)
      (fresh_firstLevel ctx before hroots) ht 0 []
    exact ⟨result, t', h, he, hp, by rw [hreports, reports_of_size_zero h0, List.map_nil]⟩
  · obtain ⟨h, t₁, -, hp, he⟩ := exploreFrom_passed hw hmodules (some fixes) hgiven h0 hroots ht
    have hmeasured : ∀ r ∈ (firstLevel ctx before fixes).2.map (refresh h 0),
        r.isFinished = false := by
      intro r hr
      obtain ⟨r', hr', rfl⟩ := List.mem_map.mp hr
      exact isFinished_refresh.trans (first_report hr').1
    obtain ⟨result, t', hd, hreports⟩ := decide_shallow hdepth hmeasured t₁
    refine ⟨result, t', h, he.trans hd, hp, hreports.trans ?_⟩
    rw [List.map_map]
    rfl

/-- An exploration whose baseline builds goes on from a world without fixes. -/
theorem explore_ready (hw : ctx.workspace.Repeatable clean out) (hds : out ∅ = some ds)
    (ht : clean t.site.world) (given : Option (List Fix)) :
    ∃ t₁, Ready clean ⟨ds⟩ t₁ ∧ explore ctx given t = exploreFrom ctx ⟨ds⟩ given t₁ := by
  obtain ⟨s, hs, hclean⟩ := hw.baseline t.site.world ds ht hds
  have hbaseline : ctx.workspace.baseline t.site = .ok ds ⟨s, false⟩ := by
    unfold Workspace.baseline Site.holding
    rw [hs]
  have hbuilt : buildBaseline ctx
      { t with journal := t.journal ++ [.started ctx.depth ctx.mode] } = .ok (.ok ds) _ :=
    buildBaseline_of_ok hbaseline
  unfold explore
  rw [log_bind, bind_of_ok hbuilt]
  dsimp only
  rw [modify_bind, log_bind]
  exact ⟨_, ⟨hclean, rfl⟩, rfl⟩

theorem explore_shallow (hw : ctx.workspace.Repeatable clean out) (hmodules : ctx.modules = [])
    (hdepth : ctx.depth = .whole 0) (hroots : (fixes.map Fix.key).Nodup) (hds : out ∅ = some ds)
    (ht : clean t.site.world) :
    ∃ result t' h, explore ctx (some fixes) t = .ok result t' ∧
      Passed ctx out ⟨ds⟩ (firstLevel ctx ⟨ds⟩ fixes).1 h ∧
      result.reports = (firstLevel ctx ⟨ds⟩ fixes).2.map fun r => decided ctx (refresh h 0 r) := by
  obtain ⟨t₁, ht₁, he⟩ := explore_ready hw hds ht (some fixes)
  rw [he]
  exact exploreFrom_shallow hw hmodules hdepth hroots ht₁

/-- The node of a root that is tried with some fixes, as a pass looks its regions up. -/
def probe (ctx : Context ω) (root : Fix) (fixes : List Fix) : Node :=
  let n := Node.start 0 root fixes
  { n with regions := ctx.regions.ofFixes n.fixes }

/-- The node of a root that is tried with nothing but what goes in with it. -/
def lone (ctx : Context ω) (before : Snapshot) (root : Fix) : Node :=
  let n := Node.start 0 root (ctx.link before root)
  { n with regions := ctx.regions.ofFixes n.fixes }

/-- The report of a root that is tried so, if builds give `out`. -/
def loneReport (ctx : Context ω) (out : Finset FixKey → Option (List Diagnostic))
    (before : Snapshot) (root : Fix) : Report :=
  let n := lone ctx before root
  decided ctx (Reports.absorb 0 (n.tried out before ctx.declared n.keys)
    (Report.start root n.fixes))

theorem root_loneReport : (loneReport ctx out before root).root = root := root_absorb

theorem reports_firstLevel (hroots : (fixes.map Fix.key).Nodup) :
    (firstLevel ctx before fixes).2 =
      fixes.map fun f => Report.start f (lone ctx before f).fixes := by
  change (firstLevel ctx before fixes).1.nodes.map (fun n => Report.start n.root n.fixes) = _
  rw [nodes_firstLevel hroots, List.map_map]
  conv_rhs => rw [← List.zipIdx_map_fst 0 fixes, List.map_map]
  rfl

theorem agrees_absorb (hn : n.Agrees m) (depth : Nat) (r : Report) :
    (Reports.absorb depth n r).Agrees (Reports.absorb depth m r) := by
  unfold Reports.absorb
  rw [hn.failed]
  split
  · exact ⟨rfl, rfl, rfl, rfl, rfl, rfl, rfl, rfl, .refl _, .refl _⟩
  · exact ⟨rfl, hn.fixes, congrArg (Option.getD · 0) hn.effect, rfl, rfl, rfl, rfl, rfl,
      hn.triggered, hn.added⟩

theorem agrees_decided {r s : Report} (h : r.Agrees s) : (decided ctx r).Agrees (decided ctx s) :=
  { h with tag := h.decide_eq }

theorem agrees_tried (hfixes : n.fixes = m.fixes) (hregions : n.regions = m.regions)
    (hfailed : n.failed = m.failed) :
    (n.tried out before ctx.declared n.keys).Agrees (m.tried out before ctx.declared m.keys) := by
  have hkeys : n.keys = m.keys := congrArg Fix.keys hfixes
  unfold Node.tried
  rw [hkeys]
  cases out m.keys with
  | none => exact ⟨hfixes, rfl, rfl, .refl _, .refl _⟩
  | some ds =>
    dsimp only
    unfold Node.measure
    rw [hfixes, hregions]
    exact ⟨rfl, hfailed, rfl, .refl _, .refl _⟩

theorem root_inGroup {declared : Location → Bool} {again : Bool} {S : Finset FixKey} :
    (n.inGroup out before declared again S).root = n.root := by
  unfold Node.inGroup Node.tried
  split <;> split <;> rfl

/-- A group in which a node failed was built again node by node, or it is that node. -/
theorem retried_or_single {group : List Nat} {j : Nat} (hretry : ctx.retry = true)
    (hj : j ∈ group) (hn : g.nodes[j]? = some n) :
    (ctx.retry && decide (1 < group.length)) = true ∨ g.keys group = n.keys := by
  by_cases hlength : 1 < group.length
  · left
    rw [hretry, Bool.true_and, decide_eq_true hlength]
  · right
    obtain ⟨i, rfl⟩ := List.length_eq_one_iff.mp
      (Nat.le_antisymm (Nat.not_lt.mp hlength) (List.length_pos_of_mem hj))
    obtain rfl := List.mem_singleton.mp hj
    exact keys_singleton hn

/-- After a pass each node says what it says when it is built alone. -/
theorem passed_agrees {j : Nat} (hlocal : Regional ctx.regions V failing)
    (hplace : ByPlace ctx.declared) (hretry : ctx.retry = true) (hg : g.Arena)
    (hp : Passed ctx (outcome V failing) before g h)
    (hn : (prepared ctx.regions g).nodes[j]? = some n) (hpending : n.status = .pending) :
    ∃ m, h.find? n.root = some m ∧
      m.Agrees (n.tried (outcome V failing) before ctx.declared n.keys) := by
  have hupdated : (g.updateRegions ctx.regions).Arena := arena_updateRegions hg
  obtain ⟨group, hgroup, hj⟩ := ((partitions_findGroups hupdated).covers j).mpr ⟨n, hn, hpending⟩
  have hmeasured := hp.groups group hgroup j hj
  rw [hn, Option.map_some] at hmeasured
  have hfind := find?_of_mem (arena_of_bare_eq hp.bare (arena_prepared hg))
    (List.mem_of_getElem? hmeasured)
  rw [root_inGroup] at hfind
  -- a node has the regions that its own fixes impact, and no other node of the group has one of them
  have hregions : ∀ m ∈ (prepared ctx.regions g).nodes, m.regions = ctx.regions.ofFixes m.fixes :=
    fun m hm => regions_of_updateRegions hm
  have hapart : ∀ i ∈ group, j ≠ i → (prepared ctx.regions g).Apart j i :=
    fun i hi => apart_of_mem_partition hg hgroup hj hi
  exact ⟨_, hfind, Node.inGroup_agrees hplace hlocal (keys_subset hj hn)
    (fun r hr => touching_members hregions hapart hj hn hr) (retried_or_single hretry hj hn)⟩

/-- After a pass each root says what it says when it is tried alone. -/
theorem passed_probe {i : Nat} (hlocal : Regional ctx.regions V failing)
    (hplace : ByPlace ctx.declared) (hretry : ctx.retry = true) (hg : g.Arena)
    (hp : Passed ctx (outcome V failing) before g h) (hn : Node.start i root fixes ∈ g.nodes) :
    ∃ m, h.find? root = some m ∧ m.Agrees ((probe ctx root fixes).tried (outcome V failing) before
      ctx.declared (probe ctx root fixes).keys) := by
  obtain ⟨j, hj⟩ := List.getElem?_of_mem hn
  obtain ⟨p, hp', hroot, hfixes, hregions, hpending, hfailed⟩ : ∃ p,
      (prepared ctx.regions g).nodes[j]? = some p ∧ p.root = root ∧
        p.fixes = (probe ctx root fixes).fixes ∧ p.regions = (probe ctx root fixes).regions ∧
        p.status = .pending ∧ p.failed = false := by
    change ∃ p, (g.updateRegions ctx.regions).nodes[j]? = some p ∧ _
    rw [updateRegions_nodes, List.getElem?_map, hj]
    exact ⟨_, rfl, rfl, rfl, rfl, rfl, rfl⟩
  subst hroot
  obtain ⟨m, hm, hmeasured⟩ := passed_agrees hlocal hplace hretry hg hp hp' hpending
  exact ⟨m, hm, hmeasured.trans (agrees_tried hfixes hregions hfailed)⟩

theorem agrees_first (hlocal : Regional ctx.regions V failing) (hplace : ByPlace ctx.declared)
    (hretry : ctx.retry = true) (hroots : (fixes.map Fix.key).Nodup)
    (hp : Passed ctx (outcome V failing) before (firstLevel ctx before fixes).1 h)
    (hroot : root ∈ fixes) :
    (refresh h 0 (Report.start root (lone ctx before root).fixes)).Agrees
      (Reports.absorb 0 ((lone ctx before root).tried (outcome V failing) before ctx.declared
        (lone ctx before root).keys) (Report.start root (lone ctx before root).fixes)) := by
  obtain ⟨i, hi⟩ := List.getElem?_of_mem hroot
  have hn : Node.start i root (ctx.link before root) ∈ (firstLevel ctx before fixes).1.nodes := by
    rw [nodes_firstLevel hroots]
    exact List.mem_map_of_mem (a := (root, i)) (List.mem_zipIdx_iff_getElem?.mpr hi)
  obtain ⟨m, hm, hmeasured⟩ :=
    passed_probe hlocal hplace hretry (arena_of_built built_firstLevel) hp hn
  rw [refresh_of_find? (r := Report.start root _) hm]
  exact agrees_absorb hmeasured 0 _

/-- After the first pass each root is reported as if it had been tried alone. -/
theorem agrees_lone (hlocal : Regional ctx.regions V failing) (hplace : ByPlace ctx.declared)
    (hretry : ctx.retry = true) (hroots : (fixes.map Fix.key).Nodup)
    (hp : Passed ctx (outcome V failing) before (firstLevel ctx before fixes).1 h)
    (hroot : root ∈ fixes) :
    (decided ctx (refresh h 0 (Report.start root (lone ctx before root).fixes))).Agrees
      (loneReport ctx (outcome V failing) before root) :=
  agrees_decided (agrees_first hlocal hplace hretry hroots hp hroot)

/-- Every root is reported as if it had been tried alone. -/
theorem explore_agrees_lone (hw : ctx.workspace.Functional holds V failing)
    (hlocal : Regional ctx.regions V failing) (hplace : ByPlace ctx.declared)
    (hretry : ctx.retry = true) (hmodules : ctx.modules = []) (hdepth : ctx.depth = .whole 0)
    (hroots : (fixes.map Fix.key).Nodup) (ht : holds t.site.world = ∅) :
    ∃ result t', explore ctx (some fixes) t = .ok result t' ∧
      List.Forall₂ (fun root r => r.Agrees (loneReport ctx (outcome V failing) ⟨V ∅⟩ root))
        fixes result.reports := by
  obtain ⟨result, t', h, he, hp, hreports⟩ :=
    explore_shallow hw.repeatable hmodules hdepth hroots outcome_empty ht
  refine ⟨result, t', he, ?_⟩
  rw [hreports, reports_firstLevel hroots, List.map_map, List.forall₂_map_right_iff,
    List.forall₂_same]
  exact fun root hroot => agrees_lone hlocal hplace hretry hroots hp hroot

/-- Where builds are a function of the fixes that are in, fail where these meet a fixed set, and
depend region by region on what impacts the region, fixes that are explored together, and followed
no further, are each reported as they are when explored alone. -/
theorem explore_together (hw : ctx.workspace.Functional holds V failing)
    (hlocal : Regional ctx.regions V failing) (hplace : ByPlace ctx.declared)
    (hretry : ctx.retry = true) (hmodules : ctx.modules = []) (hdepth : ctx.depth = .whole 0)
    (hroots : (fixes.map Fix.key).Nodup) (ht : holds t.site.world = ∅) :
    ∃ result t', explore ctx (some fixes) t = .ok result t' ∧
      List.Forall₂ (fun root r => r.root = root ∧ ∀ t₁ : Trial ω, holds t₁.site.world = ∅ →
        ∃ alone t₁' r₁, explore ctx (some [root]) t₁ = .ok alone t₁' ∧ alone.reports = [r₁] ∧
          r.Agrees r₁) fixes result.reports := by
  obtain ⟨result, t', he, hreports⟩ :=
    explore_agrees_lone hw hlocal hplace hretry hmodules hdepth hroots ht
  refine ⟨result, t', he, hreports.imp fun root r hr => ?_⟩
  refine ⟨hr.root.trans root_loneReport, fun t₁ ht₁ => ?_⟩
  have hone : ([root].map Fix.key).Nodup := List.nodup_singleton root.key
  obtain ⟨alone, t₁', ha, hsolo⟩ :=
    explore_agrees_lone hw hlocal hplace hretry hmodules hdepth hone ht₁
  obtain ⟨r₁, rest, hr₁, hrest, hsolo⟩ := List.forall₂_cons_left_iff.mp hsolo
  rw [List.forall₂_nil_left_iff.mp hrest] at hsolo
  exact ⟨alone, t₁', r₁, ha, hsolo, hr.trans hr₁.symm⟩

/-- The builds of fields of which one annotation resolves a diagnostic, and one brings one up. -/
def unlikeBuild (S : Finset FixKey) : List Diagnostic :=
  (if (Fix.ofField "A" "x").key ∈ S then [] else [⟨"null", "", .ofType "A", [.ofField "A" "x"]⟩]) ++
    if (Fix.ofField "B" "y").key ∈ S then [⟨"null", "", .ofType "B", [.ofField "B" "z"]⟩] else []

/-- Fields that impact their types. An annotation of one of them does not build. -/
def unlike : Context (List Fix) :=
  { workspace := .inMemory fun held =>
      if Keyed.has Fix.key (Fix.ofField "C" "w").key held then .error (.refused "")
      else .ok (unlikeBuild (Fix.keys held))
    regions := fun l => some [l.region], mode := .targetOnly, depth := .whole 0, retry := true
    declared := fun _ => true, link := fun _ f => [f], destructive := fun _ => false, modules := [] }

theorem regional_unlike :
    Regional unlike.regions unlikeBuild {k | k = (Fix.ofField "C" "w").key} := by
  intro fixes r _
  have hown : ∀ f : Fix, f.location.region = r →
      (f.key ∈ Fix.keys (touching unlike.regions r fixes) ↔ f.key ∈ Fix.keys fixes) := by
    rintro f rfl
    rw [mem_keys_touching, Fix.mem_keys, List.mem_map]
    refine exists_congr fun g => and_congr_right fun _ => and_iff_right_of_imp fun hg => ?_
    have hplace : g.location.toPlace = f.location.toPlace := congrArg FixKey.place hg
    simp [unlike, hplace]
  have hsame : (Snapshot.mk (unlikeBuild (Fix.keys fixes))).inRegion r =
      (Snapshot.mk (unlikeBuild (Fix.keys (touching unlike.regions r fixes)))).inRegion r := by
    unfold Snapshot.inRegion unlikeBuild
    rw [List.filter_append, List.filter_append]
    congr 1
    · by_cases hr : .ofType "A" = r
      · simp only [hown (.ofField "A" "x") hr]
      · split <;> split <;> simp [hr]
    · by_cases hr : .ofType "B" = r
      · simp only [hown (.ofField "B" "y") hr]
      · split <;> split <;> simp [hr]
  rw [hsame]
  exact .refl _

theorem functional_unlike :
    unlike.workspace.Functional Fix.keys unlikeBuild {k | k = (Fix.ofField "C" "w").key} := by
  refine functional_inMemory (fun held hnot => ?_) fun held hmeets => ?_
  · have hhas : Keyed.has Fix.key (Fix.ofField "C" "w").key held = false := by
      rw [Keyed.has_eq_false_iff]
      exact fun hmem => hnot ⟨_, Fix.mem_keys.mpr hmem, rfl⟩
    rw [hhas]
    rfl
  · obtain ⟨k, hk, rfl⟩ := hmeets
    rw [Keyed.has_iff.mpr (Fix.mem_keys.mp hk)]
    exact ⟨_, rfl⟩

theorem explore_together_unlike :
    ∃ result t', explore unlike
        (some [.ofField "A" "x", .ofField "B" "y", .ofField "C" "w"]) (Trial.start []) =
          .ok result t' ∧
      (result.reports.map fun r => (r.tag, r.failed)) =
        [(.apply, false), (.discard, false), (.discard, true)] ∧
      List.Forall₂ (fun root r => r.root = root ∧ ∃ alone t₁ r₁,
        explore unlike (some [root]) (Trial.start []) = .ok alone t₁ ∧ alone.reports = [r₁] ∧
          r.Agrees r₁) [.ofField "A" "x", .ofField "B" "y", .ofField "C" "w"] result.reports := by
  have htags : (match explore unlike
      (some [.ofField "A" "x", .ofField "B" "y", .ofField "C" "w"]) (Trial.start []) with
      | .ok result _ => result.reports.map fun r => (r.tag, r.failed)
      | .error _ _ => []) = [(.apply, false), (.discard, false), (.discard, true)] := by
    decide +kernel
  have hroots : ([.ofField "A" "x", .ofField "B" "y", .ofField "C" "w"].map Fix.key).Nodup := by
    decide
  obtain ⟨result, t', he, hreports⟩ := explore_together (t := Trial.start []) functional_unlike
    regional_unlike (fun _ _ _ => rfl) rfl rfl rfl hroots rfl
  rw [he] at htags
  exact ⟨result, t', he, htags, hreports.imp fun _ _ h => ⟨h.1, h.2 (Trial.start []) rfl⟩⟩

end Exploration
end FixTrial
