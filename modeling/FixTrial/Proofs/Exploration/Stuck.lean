import FixTrial.Proofs.Exploration.Alone
import FixTrial.Proofs.Exploration.Measured
import FixTrial.Proofs.Workspace.InMemory

/-!
Explorations in which some fixes cannot be taken out again. What stays in is built together with
every later batch: reports of trees whose regions it impacts show it, and the others do not.
-/
namespace FixTrial
open Act Diagnostic

variable {source : RegionSource} {declared : Location → Bool} {base ds ds' : List Diagnostic}
  {out : Finset FixKey → Option (List Diagnostic)} {stuck : Set FixKey} {r : Report}

/-- Where two sets of fixes build, and the same of them impacts a region, they report the same
there, up to the order. -/
def Local (source : RegionSource) (out : Finset FixKey → Option (List Diagnostic)) : Prop :=
  ∀ fixes fixes' region ds ds',
    Fix.keys (touching source region fixes) = Fix.keys (touching source region fixes') →
    out (Fix.keys fixes) = some ds → out (Fix.keys fixes') = some ds' →
    Alike ((Snapshot.mk ds).inRegion region) ((Snapshot.mk ds').inRegion region)

/-- What a report says of its tree is what a build that reports `ds` shows of it: beside the effect
and what was added, the declared fixes that came up for it. -/
structure Report.Shows (source : RegionSource) (declared : Location → Bool)
    (base ds : List Diagnostic) (r : Report) : Prop extends r.Describes source base ds where
  triggered : ∀ k, k ∈ r.triggered.map Fix.key ↔
    (k ∉ r.tree.map Fix.key ∧ declared ⟨k.place, ""⟩ = true) ∧
      ∃ region ∈ source.ofFixes r.tree,
        k ∈ ((Snapshot.mk base).newFixesIn ⟨ds⟩ region).map Fix.key

namespace Report.Shows

theorem congr {r' : Report} (h : r.Shows source declared base ds) (htree : r'.tree = r.tree)
    (heffect : r'.localEffect = r.localEffect) (hnew : r'.newDiagnostics = r.newDiagnostics)
    (htriggered : r'.triggered = r.triggered) : r'.Shows source declared base ds := by
  refine ⟨⟨?_, ?_, ?_⟩, ?_⟩
  · rw [heffect, htree]
    exact h.effect
  · rw [hnew]
    exact h.once
  · rw [hnew, htree]
    exact h.added
  · rw [htriggered, htree]
    exact h.triggered

/-- Builds that report the same where the tree has an impact show the same of it. -/
theorem of_alike (h : r.Shows source declared base ds)
    (ha : ∀ region ∈ source.ofFixes r.tree,
      Alike ((Snapshot.mk ds).inRegion region) ((Snapshot.mk ds').inRegion region)) :
    r.Shows source declared base ds' := by
  refine ⟨⟨?_, h.once, fun k => ?_⟩, fun k => ?_⟩
  · rw [h.effect]
    refine Finset.sum_congr rfl fun region hregion => ?_
    rw [change, change, length_of_alike (ha region (List.mem_toFinset.mp hregion))]
  · rw [h.added]
    refine and_congr_right fun hregion => ?_
    have hcount := occurrences_of_alike (k := k) (ha k.region hregion)
    rw [occurrences_inRegion, occurrences_inRegion, if_pos rfl, if_pos rfl] at hcount
    rw [hcount]
  · rw [h.triggered]
    refine and_congr_right fun _ => exists_congr fun region => and_congr_right fun hregion => ?_
    exact Snapshot.newFixesIn_of_alike (ha region hregion) k

end Report.Shows

theorem keys_touching_append {fixes fixes' : List Fix} {region : Region} :
    Fix.keys (touching source region (fixes ++ fixes')) =
      Fix.keys (touching source region fixes) ∪ Fix.keys (touching source region fixes') := by
  rw [touching, List.filter_append, Fix.keys_append]
  rfl

theorem touching_eq_nil {fixes : List Fix} {region : Region}
    (h : ∀ f ∈ fixes, region ∉ (source f.location).getD []) : touching source region fixes = [] := by
  simpa [touching, List.filter_eq_nil_iff] using h

namespace Exploration
open FixTrial.Graph
variable {ω : Type} {ctx : Context ω} {holds : ω → Finset FixKey → Prop} {S : Finset FixKey}
  {g h : Graph} {depth : Nat} {t t' : Trial ω} {b : GroupBuild ω} {bs : List (GroupBuild ω)}
  {m p : Node} {fixes : Option (List Fix)}

/-- Fixes of a graph that stick. -/
def Stays (stuck : Set FixKey) (g : Graph) (k : FixKey) : Prop :=
  k ∈ stuck ∧ ∃ n ∈ g.nodes, k ∈ n.keys

theorem stays_of_bare_eq {k : FixKey} (hb : h.bare = g.bare) (hk : Stays stuck g k) :
    Stays stuck h k := by
  obtain ⟨hstuck, n, hn, hkn⟩ := hk
  obtain ⟨j, hj⟩ := List.getElem?_of_mem hn
  obtain ⟨m, hm, hmn⟩ := getElem?_of_bare_eq hb hj
  exact ⟨hstuck, m, List.mem_of_getElem? hm, by rwa [Node.keys, Node.fixes_of_bare_eq hmn]⟩

/-- Before each build of a trail only fixes are in that stick and belong to nodes of the graph. -/
theorem left_of_trail (hw : ctx.workspace.Sticky holds out stuck)
    (htrail : Trail ctx depth g t bs h t') (hs : holds t.site.world S)
    (hS : ∀ k ∈ S, Stays stuck g k) :
    ∀ b ∈ bs, ∃ left, holds b.start.site.world left ∧ ∀ k ∈ left, Stays stuck g k := by
  induction htrail generalizing S with
  | done => simp
  | @build g _ t _ b _ hb _ hstart hbare _ _ ih =>
    have hworld : b.start.site.world = t.site.world := congrArg (fun t => t.site.world) hstart
    obtain ⟨report, hcame⟩ := hb.came
    obtain ⟨⟨S', hs', hleft⟩, -⟩ :=
      hw.ended (hworld ▸ hs) (fun k hk => (hS k hk).1) hcame.ended
    have hafter : g.bare = b.after.bare := (hb.bare.trans hbare).symm
    have hS' : ∀ k ∈ S', Stays stuck g k := by
      intro k hk
      obtain ⟨hstuck, hk | hk⟩ := hleft k hk
      · exact hS k hk
      · rw [Fix.keys_dedupe] at hk
        obtain ⟨n, hn, hkn⟩ := Graph.mem_keys.mp hk
        obtain ⟨i, -, hi⟩ := mem_members.mp hn
        exact stays_of_bare_eq hbare.symm ⟨hstuck, n, List.mem_of_getElem? hi, hkn⟩
    refine List.forall_mem_cons.mpr ⟨⟨S, hworld ▸ hs, hS⟩, fun c hc => ?_⟩
    obtain ⟨left, hleft, hstays⟩ :=
      ih hs' (fun k hk => stays_of_bare_eq hafter.symm (hS' k hk)) c hc
    exact ⟨left, hleft, fun k hk => stays_of_bare_eq hafter (hstays k hk)⟩

theorem tree_absorb (hf : m.failed = false) : (Reports.absorb depth m r).tree = m.fixes := by
  rw [absorb_of_measured hf]

/-- A measured node shows the build that it was measured from. -/
theorem shows_measure (hplace : ByPlace ctx.declared)
    (hregions : p.regions = ctx.regions.ofFixes p.fixes) (hf : p.failed = false) :
    (Reports.absorb depth (p.measure ⟨⟨base⟩, ⟨ds⟩⟩ ctx.declared) r).Shows ctx.regions ctx.declared
      base ds := by
  have hmeasured : (p.measure ⟨⟨base⟩, ⟨ds⟩⟩ ctx.declared).failed = false := hf
  rw [absorb_of_measured hmeasured]
  refine ⟨describes_measure hregions, fun k => ?_⟩
  rw [Node.mem_triggered_measure hplace, hregions]
  rfl

/-- In a build of a group the fixes of a node are the only ones that impact its regions. -/
theorem touching_build {j : Nat} {region : Region} (hg : g.Arena) (hb : Sound ctx b)
    (hbare : b.before.bare = (prepared ctx.regions g).bare) (hj : j ∈ b.group)
    (hp : (prepared ctx.regions g).nodes[j]? = some p)
    (hregion : region ∈ ctx.regions.ofFixes p.fixes) :
    Fix.keys (touching ctx.regions region
        (((prepared ctx.regions g).members b.group).flatMap (·.fixes))) =
      Fix.keys (touching ctx.regions region p.fixes) := by
  have hregions : ∀ m ∈ (prepared ctx.regions g).nodes, m.regions = ctx.regions.ofFixes m.fixes :=
    fun m hm => regions_of_updateRegions hm
  have haccepted := checkGroup_of_bare_eq hbare.symm hb.accepted
  refine touching_members hregions (fun i hi hij => ?_) hj hp ?_
  · by_contra hshared
    obtain ⟨c, hc⟩ :=
      (checkGroup_error_iff (arena_prepared hg)).mpr ⟨j, hj, i, hi, hij, hshared⟩
    cases haccepted.symm.trans hc
  · rwa [hregions p (List.mem_of_getElem? hp)]

/-- A measured node shows what its fixes show together with some that stick and are not its own. -/
theorem shows_of_pass (hw : ctx.workspace.Sticky holds out stuck) (hlocal : Local ctx.regions out)
    (hplace : ByPlace ctx.declared) (hg : g.Arena) (hentered : Entered g)
    (hp : passBuilds ctx g depth t = .ok (bs, h) t') (hbank : t.bank.before = ⟨base⟩)
    (hs : holds t.site.world ∅) (hm : h.find? r.root = some m) (hf : m.failed = false) :
    ∃ left : List Fix,
      (∀ f ∈ left, f.key ∈ stuck ∧ f.key ∉ m.keys ∧
        ∃ n ∈ (prepared ctx.regions g).nodes, f ∈ n.fixes) ∧
      ∀ tried ds, out (Fix.keys tried) = some ds →
        (∀ region ∈ ctx.regions.ofFixes m.fixes, Fix.keys (touching ctx.regions region tried) =
          Fix.keys (touching ctx.regions region (m.fixes ++ left))) →
        (Reports.absorb depth m r).Shows ctx.regions ctx.declared base ds := by
  obtain ⟨htrail, b, hb, j, hj, p, hpj, -, report, hcame, rfl⟩ := learned_of_pass hg hentered hp hm
  obtain ⟨hsound, -, hbare⟩ := htrail.sound b hb
  obtain ⟨L, hL, hstays⟩ := left_of_trail hw htrail hs (by simp) b hb
  cases report with
  | none => cases hf
  | some ds =>
    obtain ⟨hout, hfree⟩ := (hw.ended hL (fun k hk => (hstays k hk).1) hcame.ended).2 ds rfl
    rw [Fix.keys_dedupe] at hout hfree
    change out (L ∪ b.before.keys b.group) = _ at hout
    change ∀ k ∈ b.before.keys b.group, _ at hfree
    rw [Graph.keys_of_bare_eq hbare] at hout hfree
    let left := ((prepared ctx.regions g).nodes.flatMap (·.fixes)).filter fun f => f.key ∈ L
    have hkeys : Fix.keys left = L := by
      ext k
      simp only [left, Fix.mem_keys, List.mem_map, List.mem_filter, decide_eq_true_eq,
        List.mem_flatMap]
      constructor
      · rintro ⟨f, ⟨-, hf⟩, rfl⟩
        exact hf
      · intro hk
        obtain ⟨-, n, hn, hkn⟩ := hstays k hk
        obtain ⟨f, hf, rfl⟩ := List.mem_map.mp (Fix.mem_keys.mp hkn)
        exact ⟨f, ⟨⟨n, hn, hf⟩, hk⟩, rfl⟩
    refine ⟨left, fun f hfleft => ?_, fun tried ds' hds' htouch => ?_⟩
    · obtain ⟨hfnodes, hfL⟩ := List.mem_filter.mp hfleft
      have hstuck := (hstays f.key (by simpa using hfL)).1
      refine ⟨hstuck, fun hown => hfree f.key (keys_subset hj hpj hown) hstuck, ?_⟩
      exact List.mem_flatMap.mp hfnodes
    · -- the group and what was left before it are what was built
      let built := ((prepared ctx.regions g).members b.group).flatMap (·.fixes) ++ left
      have hbuilt : out (Fix.keys built) = some ds := by
        rw [Fix.keys_append, hkeys, Finset.union_comm]
        exact hout
      rw [hbank] at hf htouch ⊢
      refine (shows_measure hplace (regions_of_updateRegions (List.mem_of_getElem? hpj)) hf).of_alike
        fun region hregion => ?_
      have htree : (Reports.absorb depth (p.measure ⟨⟨base⟩, ⟨ds⟩⟩ ctx.declared) r).tree = p.fixes :=
        tree_absorb hf
      rw [htree] at hregion
      refine hlocal built tried region ds ds' ?_ hbuilt hds'
      rw [htouch region hregion, keys_touching_append, keys_touching_append,
        touching_build hg hsound hbare hj hpj hregion]
      rfl

/-- At depth zero the reports are decided as they come out of the first level. -/
theorem reports_of_below {rs : Reports} {result : ExplorationResult} (hdepth : ctx.depth = .whole 0)
    (hrs : ∀ r ∈ rs, r.isFinished = false) (hb : belowBuilds ctx rs t = .ok (bs, result) t') :
    result.reports = rs.map (decided ctx) := by
  obtain ⟨rs', t₁, hd, hb⟩ := bind_eq_ok.mp hb
  have hf : follow ctx rs' t₁ = .ok result t' := by
    rw [← snd_followBuilds]
    exact map_eq_ok.mpr ⟨_, hb, rfl⟩
  obtain ⟨result', t₂, hd', hreports⟩ := decide_shallow hdepth hrs t
  rw [bind_of_ok hd, hf] at hd'
  cases hd'
  exact hreports

/-- What is reported in the end of the root of a node, after a pass over the first level. -/
def concluded (ctx : Context ω) (table : Estimate.Table) (h : Graph) (n : Node) : Report :=
  decided ctx (bounded table (refresh h 0 (Report.start n.root n.fixes)))

/-- At depth zero an exploration that reports anything is one pass over the first level, estimates,
and verdicts. -/
theorem reports_shallow {result : ExplorationResult} {site : Site ω} (hdepth : ctx.depth = .whole 0)
    (hbase : ctx.workspace.baseline t.site = .ok base site)
    (he : explore ctx fixes t = .ok result t') (hr : r ∈ result.reports) :
    ∃ g bs h t₁ t₂ table, g.Arena ∧ Entered g ∧ t₁.bank.before = ⟨base⟩ ∧ t₁.site = site ∧
      passBuilds ctx g 0 t₁ = .ok (bs, h) t₂ ∧
      result.reports = g.nodes.map (concluded ctx table h) := by
  obtain ⟨builds, hb⟩ := builds_of_explore he
  obtain ⟨t₁, hbank, hsite, hfrom⟩ := exploreFrom_of_exploreBuilds hbase hb
  have hg : (firstLevel ctx ⟨base⟩ (roots ctx ⟨base⟩ fixes)).1.Arena :=
    arena_of_built built_firstLevel
  have hentered : Entered (firstLevel ctx ⟨base⟩ (roots ctx ⟨base⟩ fixes)).1 := entered_firstLevel
  have hfirst : (firstLevel ctx ⟨base⟩ (roots ctx ⟨base⟩ fixes)).2 =
      (firstLevel ctx ⟨base⟩ (roots ctx ⟨base⟩ fixes)).1.nodes.map fun n =>
        Report.start n.root n.fixes := rfl
  unfold exploreFromBuilds at hfrom
  generalize firstLevel ctx ⟨base⟩ (roots ctx ⟨base⟩ fixes) = start at *
  obtain ⟨g, first⟩ := start
  dsimp only at *
  subst hfirst
  rw [log_bind] at hfrom
  split at hfrom
  next h0 =>
    obtain ⟨result', t₂, hc, hfrom⟩ := bind_eq_ok.mp hfrom
    cases hfrom
    rw [(conclude_returned hc).1, List.eq_nil_of_length_eq_zero h0] at hr
    exact absurd hr List.not_mem_nil
  next =>
    obtain ⟨⟨bs, h, rs⟩, t₂, hl, hfrom⟩ := bind_eq_ok.mp hfrom
    obtain ⟨hp, hfold⟩ := pass_of_levelBuilds hl
    dsimp only at hp hfold hfrom
    have hrest : ∀ {table : Estimate.Table} {t₃ : Trial ω},
        (belowBuilds ctx (rs.map (bounded table)) >>= fun q => pure (bs ++ q.1, q.2)) t₃ =
          .ok (builds, result) t' → result.reports = g.nodes.map (concluded ctx table h) := by
      intro table t₃ hfrom
      obtain ⟨⟨cs, result'⟩, t₄, hb, hfrom⟩ := bind_eq_ok.mp hfrom
      cases hfrom
      have hmeasured : ∀ r ∈ rs.map (bounded table), r.isFinished = false := by
        intro r' hr'
        rw [hfold, List.map_map, List.map_map] at hr'
        obtain ⟨n, -, rfl⟩ := List.mem_map.mp hr'
        exact isFinished_bounded.trans isFinished_refresh
      rw [reports_of_below hdepth hmeasured hb, hfold, List.map_map, List.map_map, List.map_map]
      rfl
    refine ⟨g, bs, h, { t₁ with journal := t₁.journal ++ [.level 0 g.size] }, t₂, ?_⟩
    split at hfrom
    · have hnone : rs.map (bounded []) = rs := List.map_id rs
      rw [← hnone] at hfrom
      exact ⟨[], hg, hentered, congrArg Bank.before hbank, hsite, hp, hrest hfrom⟩
    · obtain ⟨estimated, t₃, hest, hfrom⟩ := bind_eq_ok.mp hfrom
      obtain ⟨table, -, rfl, -⟩ := estimate_returned hest
      exact ⟨table, hg, hentered, congrArg Bank.before hbank, hsite, hp, hrest hfrom⟩

section
variable {n : Node} {table : Estimate.Table} {f : Fix}

theorem root_concluded : (concluded ctx table h n).root = n.root :=
  root_bounded.trans root_refresh

theorem concluded_of_find? (hm : h.find? n.root = some m) : concluded ctx table h n =
    decided ctx (bounded table (Reports.absorb 0 m (Report.start n.root n.fixes))) := by
  rw [concluded, refresh_of_find? (r := Report.start n.root n.fixes) hm]

theorem tree_decided : (decided ctx (bounded table r)).tree = r.tree := by
  unfold decided bounded
  split <;> rfl

theorem shows_decided (h : r.Shows source declared base ds) :
    (decided ctx (bounded table r)).Shows source declared base ds := by
  unfold decided bounded
  split <;> exact h.congr rfl rfl rfl rfl

/-- A report has failed just when its node has. -/
theorem failed_concluded (hm : h.find? n.root = some m) :
    (concluded ctx table h n).failed = m.failed := by
  rw [concluded_of_find? hm]
  change (bounded table _).failed = _
  rw [failed_bounded]
  cases hf : m.failed <;> simp [Reports.absorb, hf, Report.start]

/-- Whatever came of a root, its report still has what was tried for it. -/
theorem mem_tree_concluded (hm : h.find? n.root = some m) (hfixes : m.fixes = n.fixes)
    (hf : f ∈ n.fixes) : f ∈ (concluded ctx table h n).tree := by
  rw [concluded_of_find? hm, tree_decided]
  cases hfailed : m.failed with
  | false =>
    rw [tree_absorb hfailed, hfixes]
    exact hf
  | true =>
    have htree : (Reports.absorb 0 m (Report.start n.root n.fixes)).tree =
        Keyed.insert Fix.key n.fixes n.root := by
      simp [Reports.absorb, hfailed, Report.start]
    rw [htree]
    unfold Keyed.insert
    split
    · exact hf
    · exact List.mem_append_left _ hf

/-- A fix that a pass tried for another node than `n` is in the tree of another report. -/
theorem other_of_mem_prepared {p : Node} (hg : g.Arena)
    (hbare : h.bare = (prepared ctx.regions g).bare) (hn : n ∈ g.nodes)
    (hp : p ∈ (prepared ctx.regions g).nodes) (hfp : f ∈ p.fixes) (hown : f.key ∉ Fix.keys n.fixes) :
    ∃ other ∈ g.nodes.map (concluded ctx table h),
      other.root.key ≠ (concluded ctx table h n).root.key ∧ f ∈ other.tree := by
  change p ∈ (g.updateRegions ctx.regions).nodes at hp
  rw [updateRegions_nodes] at hp
  obtain ⟨n', hn', rfl⟩ := List.mem_map.mp hp
  obtain ⟨m', hm', hfixes'⟩ := find?_of_pass hg hbare hn'
  refine ⟨_, List.mem_map_of_mem hn', fun hroot => hown ?_, mem_tree_concluded hm' hfixes' hfp⟩
  rw [root_concluded, root_concluded] at hroot
  obtain rfl := List.inj_on_of_nodup_map hg.roots_nodup hn' hn hroot
  exact Fix.mem_keys.mpr (List.mem_map_of_mem hfp)

end

/-- At depth zero a report that has not failed shows what its tree shows together with fixes of other
trees that stick. It shows what its tree shows alone if no fix of another tree that sticks impacts a
region of it. -/
theorem reports_show_leftovers {result : ExplorationResult}
    (hw : ctx.workspace.Sticky holds out stuck) (hlocal : Local ctx.regions out)
    (hplace : ByPlace ctx.declared) (hdepth : ctx.depth = .whole 0) (hs : holds t.site.world ∅)
    (he : explore ctx fixes t = .ok result t') :
    ∀ r ∈ result.reports, r.failed = false → ∃ base, out ∅ = some base ∧
      (∃ left : List Fix,
        (∀ f ∈ left, f.key ∈ stuck ∧
          ∃ other ∈ result.reports, other.root.key ≠ r.root.key ∧ f ∈ other.tree) ∧
        ∀ ds, out (Fix.keys (r.tree ++ left)) = some ds →
          r.Shows ctx.regions ctx.declared base ds) ∧
      ((∀ other ∈ result.reports, other.root.key ≠ r.root.key → ∀ f ∈ other.tree, f.key ∈ stuck →
          ∀ region ∈ ctx.regions.ofFixes r.tree, region ∉ (ctx.regions f.location).getD []) →
        ∀ ds, out (Fix.keys r.tree) = some ds → r.Shows ctx.regions ctx.declared base ds) := by
  intro r hr hf
  cases ho : out ∅ with
  | none =>
    obtain ⟨e, s', hv, -⟩ := hw.fails _ _ hs ho
    refine absurd (failed_of_no_baseline (fun base site hbase => ?_) he r hr) (by simp [hf])
    unfold Workspace.baseline Site.holding at hbase
    rw [hv] at hbase
    cases hbase
  | some base =>
    obtain ⟨s', hv, hs'⟩ := hw.builds _ _ base hs ho
    have hbase : ctx.workspace.baseline t.site = .ok base ⟨s', false⟩ := by
      unfold Workspace.baseline Site.holding
      rw [hv]
    obtain ⟨g, bs, h, t₁, t₂, table, hg, hentered, hbank, hsite, hp, hreports⟩ :=
      reports_shallow hdepth hbase he hr
    obtain ⟨hbare, -⟩ := builds_of_pass hg hentered hp hbank
    rw [hreports] at hr ⊢
    obtain ⟨n, hn, rfl⟩ := List.mem_map.mp hr
    obtain ⟨m, hm, hfixes⟩ := find?_of_pass hg hbare hn
    rw [failed_concluded hm] at hf
    have hclean : holds t₁.site.world ∅ := by rwa [hsite]
    obtain ⟨left, hleft, hshows⟩ := shows_of_pass (r := Report.start n.root n.fixes) hw hlocal hplace
      hg hentered hp hbank hclean hm hf
    have htree : (concluded ctx table h n).tree = m.fixes := by
      rw [concluded_of_find? hm, tree_decided, tree_absorb hf]
    have hothers : ∀ f ∈ left, f.key ∈ stuck ∧ ∃ other ∈ g.nodes.map (concluded ctx table h),
        other.root.key ≠ (concluded ctx table h n).root.key ∧ f ∈ other.tree := by
      intro f hfleft
      obtain ⟨hstuck, hown, p, hp, hfp⟩ := hleft f hfleft
      rw [Node.keys, hfixes] at hown
      exact ⟨hstuck, other_of_mem_prepared hg hbare hn hp hfp hown⟩
    have hconcluded : ∀ tried ds, out (Fix.keys tried) = some ds →
        (∀ region ∈ ctx.regions.ofFixes m.fixes, Fix.keys (touching ctx.regions region tried) =
          Fix.keys (touching ctx.regions region (m.fixes ++ left))) →
        (concluded ctx table h n).Shows ctx.regions ctx.declared base ds := by
      intro tried ds hds htouch
      rw [concluded_of_find? hm]
      exact shows_decided (hshows tried ds hds htouch)
    rw [htree]
    refine ⟨base, rfl, ⟨left, hothers, fun ds hds => hconcluded _ ds hds fun _ _ => rfl⟩,
      fun hapart ds hds => hconcluded m.fixes ds hds fun region hregion => ?_⟩
    have hnone : touching ctx.regions region left = [] := touching_eq_nil fun f hfleft => by
      obtain ⟨hstuck, other, hother, hroot, hfother⟩ := hothers f hfleft
      exact hapart other hother hroot f hfother hstuck region hregion
    rw [keys_touching_append, hnone]
    exact (Finset.union_empty _).symm

/-- One annotation brings up a diagnostic of its type. -/
def seepingBuild (S : Finset FixKey) : List Diagnostic :=
  if (Fix.ofField "A" "x").key ∈ S then [⟨"null", "", .ofType "A", []⟩] else []

/-- Fields that impact their types, and the annotation that brings up a diagnostic sticks. -/
def seeping : Context (Tracked (List Fix)) :=
  { workspace := (Backend.inMemory fun k => k = (Fix.ofField "A" "x").key).workspace fun held =>
      .ok (seepingBuild (Fix.keys held)) held
    regions := fun l => some [l.region], mode := .targetOnly, depth := .whole 0, retry := true
    declared := fun _ => true, link := fun _ f => [f], destructive := fun _ => false, modules := [] }

theorem sticky_seeping : seeping.workspace.Sticky (Tracked.Holds fun held S => Fix.keys held = S)
    (fun S => some (seepingBuild S)) {k | k = (Fix.ofField "A" "x").key} := by
  have hclings := clings_inMemory fun k => k = (Fix.ofField "A" "x").key
  simp only [decide_eq_true_eq] at hclings
  refine hclings.sticky ?_ nofun
  rintro held _ ds rfl hds
  cases hds
  exact ⟨held, rfl, rfl⟩

theorem local_seeping : Local seeping.regions fun S => some (seepingBuild S) := by
  intro fixes fixes' region ds ds' htouch hds hds'
  cases hds
  cases hds'
  have hown : ∀ fixes : List Fix, .ofType "A" = region →
      ((Fix.ofField "A" "x").key ∈ Fix.keys fixes ↔
        (Fix.ofField "A" "x").key ∈ Fix.keys (touching seeping.regions region fixes)) := by
    rintro fixes rfl
    rw [mem_keys_touching, Fix.mem_keys, List.mem_map]
    refine exists_congr fun g => and_congr_right fun _ => (and_iff_right_of_imp fun hg => ?_).symm
    have hplace : g.location.toPlace = (Fix.ofField "A" "x").location.toPlace :=
      congrArg FixKey.place hg
    have hregion : g.location.region = .ofType "A" := congrArg Place.region hplace
    simp [seeping, hregion]
  have hsame : (Snapshot.mk (seepingBuild (Fix.keys fixes))).inRegion region =
      (Snapshot.mk (seepingBuild (Fix.keys fixes'))).inRegion region := by
    unfold Snapshot.inRegion seepingBuild
    by_cases hr : .ofType "A" = region
    · simp only [hown fixes hr, hown fixes' hr, htouch]
    · split <;> split <;> simp [hr]
  rw [hsame]
  exact .refl _

/-- What a report says, but for the diagnostics and the fixes that came up. -/
def outline (ctx : Context ω) (r : Report) : FixKey × Bool × Int × List FixKey × List Region :=
  (r.root.key, r.failed, r.localEffect, r.tree.map Fix.key, ctx.regions.ofFixes r.tree)

/-- Beside the fix that sticks, a field of the same type and a field of another are tried. -/
theorem explore_seeping : ∃ result t', explore seeping
      (some [.ofField "A" "x", .ofField "A" "y", .ofField "B" "z"]) (Trial.start (Tracked.start [])) =
        .ok result t' ∧
      result.reports.map (outline seeping) =
        [((Fix.ofField "A" "x").key, true, 0, [(Fix.ofField "A" "x").key], [.ofType "A"]),
          ((Fix.ofField "A" "y").key, false, 1, [(Fix.ofField "A" "y").key], [.ofType "A"]),
          ((Fix.ofField "B" "z").key, false, 0, [(Fix.ofField "B" "z").key], [.ofType "B"])] := by
  have hrun : (match explore seeping (some [.ofField "A" "x", .ofField "A" "y", .ofField "B" "z"])
        (Trial.start (Tracked.start [])) with
      | .ok result _ => result.reports.map (outline seeping)
      | .error _ _ => []) =
        [((Fix.ofField "A" "x").key, true, 0, [(Fix.ofField "A" "x").key], [.ofType "A"]),
          ((Fix.ofField "A" "y").key, false, 1, [(Fix.ofField "A" "y").key], [.ofType "A"]),
          ((Fix.ofField "B" "z").key, false, 0, [(Fix.ofField "B" "z").key], [.ofType "B"])] := by
    decide +kernel
  cases he : explore seeping (some [.ofField "A" "x", .ofField "A" "y", .ofField "B" "z"])
      (Trial.start (Tracked.start [])) with
  | error e t' => simp [he] at hrun
  | ok result t' =>
    rw [he] at hrun
    exact ⟨result, t', rfl, hrun⟩

/-- The field of the other type is reported as its tree shows alone. -/
theorem reports_show_leftovers_seeping : ∃ result t', explore seeping
      (some [.ofField "A" "x", .ofField "A" "y", .ofField "B" "z"]) (Trial.start (Tracked.start [])) =
        .ok result t' ∧
      ∃ r ∈ result.reports, r.root.key = (Fix.ofField "B" "z").key ∧ r.failed = false ∧
        r.Shows seeping.regions seeping.declared [] [] := by
  obtain ⟨result, t', he, houtline⟩ := explore_seeping
  refine ⟨result, t', he, ?_⟩
  obtain ⟨r, hr, hroutline⟩ : ∃ r ∈ result.reports, outline seeping r =
      ((Fix.ofField "B" "z").key, false, 0, [(Fix.ofField "B" "z").key], [.ofType "B"]) := by
    rw [← List.mem_map, houtline]
    simp
  obtain ⟨hroot, hfailed, -, htree, hregions⟩ : r.root.key = _ ∧ r.failed = _ ∧ r.localEffect = _ ∧
      r.tree.map Fix.key = _ ∧ seeping.regions.ofFixes r.tree = _ := by
    simpa only [outline, Prod.mk.injEq] using hroutline
  obtain ⟨base, hbase, -, hclear⟩ := reports_show_leftovers sticky_seeping local_seeping
    (fun _ _ _ => rfl) rfl (t := Trial.start (Tracked.start [])) ⟨rfl, rfl⟩ he r hr hfailed
  cases hbase
  refine ⟨r, hr, hroot, hfailed, hclear (fun other _ _ f _ hstuck region hregion => ?_) _ ?_⟩
  · -- the fix that sticks impacts its own type only
    rw [hregions] at hregion
    obtain rfl := List.mem_singleton.mp hregion
    have hplace : f.location.toPlace = (Fix.ofField "A" "x").location.toPlace :=
      congrArg FixKey.place hstuck
    have hown : f.location.region = .ofType "A" := congrArg Place.region hplace
    simp [seeping, hown, Region.ofType]
  · have hkeys : Fix.keys r.tree = {(Fix.ofField "B" "z").key} := by
      rw [Fix.keys, htree]
      rfl
    rw [hkeys]
    rfl

/-- The field of the same type is charged with the diagnostic of the fix that sticks: no build of its
own tree shows that. -/
theorem not_shows_seeping :
    seeping.workspace.Sticky (Tracked.Holds fun held S => Fix.keys held = S)
      (fun S => some (seepingBuild S)) {k | k = (Fix.ofField "A" "x").key} ∧
    Local seeping.regions (fun S => some (seepingBuild S)) ∧
    ∃ result t', explore seeping
      (some [.ofField "A" "x", .ofField "A" "y", .ofField "B" "z"]) (Trial.start (Tracked.start [])) =
        .ok result t' ∧
      ∃ r ∈ result.reports, r.failed = false ∧ seepingBuild (Fix.keys r.tree) = [] ∧
        r.localEffect = 1 ∧ ¬ r.Shows seeping.regions seeping.declared [] [] := by
  obtain ⟨result, t', he, houtline⟩ := explore_seeping
  refine ⟨sticky_seeping, local_seeping, result, t', he, ?_⟩
  obtain ⟨r, hr, hroutline⟩ : ∃ r ∈ result.reports, outline seeping r =
      ((Fix.ofField "A" "y").key, false, 1, [(Fix.ofField "A" "y").key], [.ofType "A"]) := by
    rw [← List.mem_map, houtline]
    simp
  obtain ⟨-, hfailed, heffect, htree, -⟩ : r.root.key = _ ∧ r.failed = _ ∧ r.localEffect = _ ∧
      r.tree.map Fix.key = _ ∧ seeping.regions.ofFixes r.tree = _ := by
    simpa only [outline, Prod.mk.injEq] using hroutline
  refine ⟨r, hr, hfailed, ?_, heffect, fun hshows => ?_⟩
  · have hkeys : Fix.keys r.tree = {(Fix.ofField "A" "y").key} := by
      rw [Fix.keys, htree]
      rfl
    rw [hkeys]
    rfl
  · have hsum := hshows.effect
    have hnone : ∀ region, change [] [] region = 0 := fun _ => rfl
    simp only [heffect, hnone, Finset.sum_const_zero] at hsum
    exact absurd hsum one_ne_zero

end Exploration
end FixTrial
