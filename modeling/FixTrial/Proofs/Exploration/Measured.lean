import FixTrial.Proofs.Exploration.Ledger
import FixTrial.Proofs.Exploration.Trail
import FixTrial.Proofs.Exploration.Verdicts
import FixTrial.Proofs.Snapshot
import Mathlib.Algebra.BigOperators.Group.Finset.Basic

/-!
Where reports come from: every report that has not failed describes one build of its own tree, and
all builds are compared with one baseline.
-/
namespace FixTrial
open Act

/-- What a report says of its tree is what one build shows against the baseline where the tree has an
impact: how many diagnostics there are more, and which occur more often. -/
structure Report.Describes (source : RegionSource) (base ds : List Diagnostic) (r : Report) :
    Prop where
  effect : r.localEffect = ∑ region ∈ (source.ofFixes r.tree).toFinset,
    Diagnostic.change base ds region
  once : (r.newDiagnostics.map Diagnostic.key).Nodup
  added : ∀ k, k ∈ r.newDiagnostics.map Diagnostic.key ↔ k.region ∈ source.ofFixes r.tree ∧
    Diagnostic.occurrences k base < Diagnostic.occurrences k ds

namespace Node
variable {n : Node} {base ds : List Diagnostic} {declared : Location → Bool}

theorem effect_measure (hn : n.regions.Nodup) :
    (n.measure ⟨⟨base⟩, ⟨ds⟩⟩ declared).effect =
      some (∑ region ∈ n.regions.toFinset, Diagnostic.change base ds region) := by
  have hsum : ∀ (rs : List Region) (sum : Int),
      rs.foldl (fun sum r => sum + (Bank.compareIn ⟨⟨base⟩, ⟨ds⟩⟩ r).effect) sum =
        sum + (rs.map (Diagnostic.change base ds)).sum := by
    intro rs
    induction rs with
    | nil => simp
    | cons r rest ih =>
      intro sum
      rw [List.foldl_cons, ih, List.map_cons, List.sum_cons, ← add_assoc]
      rfl
  change some (List.foldl _ 0 n.regions) = _
  rw [hsum, zero_add, List.sum_toFinset _ hn]

end Node

namespace Exploration
open FixTrial.Graph
variable {ω : Type} {ctx : Context ω} {base : List Diagnostic} {b : GroupBuild ω}
  {bs cs : List (GroupBuild ω)} {r : Report} {rs last : Reports} {g h : Graph} {depth : Nat}
  {t t₁ t' : Trial ω} {m : Node} {fixes : Option (List Fix)}

/-- The build that a report describes: it succeeded, at the report's depth, and the node of the
report's root had the report's tree. -/
structure Backing (ctx : Context ω) (base : List Diagnostic) (b : GroupBuild ω) (r : Report) :
    Prop where
  succeeded : ∃ ds, b.Succeeds ctx.workspace ds ∧ r.Describes ctx.regions base ds
  depth : (b.depth : Int) = r.depth
  node : ∃ n ∈ b.before.members b.group, n.root.key = r.root.key ∧ n.fixes = r.tree

/-- Nodes that were just entered. -/
def Entered (g : Graph) : Prop := ∀ n ∈ g.nodes, n.status = .pending ∧ n.failed = false

theorem prepared_of_bare {source : RegionSource} {j : Nat}
    (hb : h.bare = (prepared source g).bare) (hentered : Entered g) (hm : h.nodes[j]? = some m) :
    ∃ p, (prepared source g).nodes[j]? = some p ∧ p.status = .pending ∧ p.failed = false := by
  obtain ⟨p, hp, -⟩ := getElem?_of_bare_eq hb.symm hm
  refine ⟨p, hp, ?_⟩
  change (g.updateRegions source).nodes[j]? = some p at hp
  rw [updateRegions_nodes, List.getElem?_map] at hp
  obtain ⟨n, hn, rfl⟩ := Option.map_eq_some_iff.mp hp
  exact hentered n (List.mem_of_getElem? hn)

theorem succeeds_of_came {ds : List Diagnostic} {report : Option (List Diagnostic)}
    (hc : Came ctx b.before b.group b.start report b.after b.ok b.finish)
    (hr : report = some ds) : b.Succeeds ctx.workspace ds := by
  subst hr
  cases hc.ended with
  | done hb hrevert => exact ⟨hc.ok_eq, _, hb, hrevert⟩

theorem absorb_of_measured (hf : m.failed = false) : Reports.absorb depth m r =
    { r with
      tree := m.fixes, localEffect := m.effect.getD 0, depth := depth, triggered := m.triggered
      newDiagnostics := m.newDiagnostics } := by
  simp [Reports.absorb, hf]

theorem describes_measure {source : RegionSource} {ds : List Diagnostic}
    (hregions : m.regions = source.ofFixes m.fixes) :
    Report.Describes source base ds
      { r with
        tree := (m.measure ⟨⟨base⟩, ⟨ds⟩⟩ ctx.declared).fixes
        localEffect := (m.measure ⟨⟨base⟩, ⟨ds⟩⟩ ctx.declared).effect.getD 0
        depth := depth
        triggered := (m.measure ⟨⟨base⟩, ⟨ds⟩⟩ ctx.declared).triggered
        newDiagnostics := (m.measure ⟨⟨base⟩, ⟨ds⟩⟩ ctx.declared).newDiagnostics } := by
  have hnodup : m.regions.Nodup := hregions ▸ RegionSource.nodup_ofFixes
  refine ⟨?_, Bank.nodup_newDiagnosticsIn, fun k => ?_⟩
  · change (m.measure ⟨⟨base⟩, ⟨ds⟩⟩ ctx.declared).effect.getD 0 =
      ∑ region ∈ (source.ofFixes m.fixes).toFinset, _
    rw [Node.effect_measure hnodup, Option.getD_some, hregions]
  · change k ∈ (Bank.newDiagnosticsIn ⟨⟨base⟩, ⟨ds⟩⟩ m.regions).map Diagnostic.key ↔
      k.region ∈ source.ofFixes m.fixes ∧ _
    rw [Bank.mem_newDiagnosticsIn, hregions]

/-- After a pass a node says what the last of its builds told it, or rather what that told the node
that went into the pass. -/
theorem learned_of_pass {root : Fix} (hg : g.Arena) (hentered : Entered g)
    (hp : passBuilds ctx g depth t = .ok (bs, h) t') (hm : h.find? root = some m) :
    Trail ctx depth (prepared ctx.regions g) t bs h t' ∧
      ∃ b ∈ bs, ∃ j ∈ b.group, ∃ p, (prepared ctx.regions g).nodes[j]? = some p ∧
        p.root.key = root.key ∧ ∃ report,
          Came ctx b.before b.group b.start report b.after b.ok b.finish ∧
            m = p.learn t.bank.before ctx.declared report := by
  obtain ⟨htrail, hall⟩ := trail_of_passBuilds hg (fun n hn => (hentered n hn).2) hp
  obtain ⟨hmem, hroot⟩ := mem_of_find? hm
  obtain ⟨j, hj⟩ := List.getElem?_of_mem hmem
  obtain ⟨p, hpj, hpending, hpf⟩ := prepared_of_bare htrail.bare hentered hj
  -- the node is pending, so some group holds it, and one of the builds is the last that it was in
  obtain ⟨group, hgroup, hjg⟩ := ((partitions_findGroups (arena_updateRegions hg)).covers j).mpr
    ⟨p, hpj, hpending⟩
  obtain ⟨c, hc, rfl⟩ := hall group hgroup
  obtain ⟨b, hlast⟩ := lastBuild_isSome hc hjg
  obtain ⟨report, hcame, hlearned⟩ := htrail.learned hlast hpj hpf
  obtain rfl : p.learn t.bank.before ctx.declared report = m :=
    Option.some.inj (hlearned.symm.trans hj)
  obtain ⟨hb, hjb⟩ := mem_of_lastBuild hlast
  have hproot : p.root.key = root.key := by cases report <;> exact hroot
  exact ⟨htrail, b, hb, j, hjb, p, hpj, hproot, report, hcame, rfl⟩

/-- A node that a pass measured has a build to back its report. -/
theorem backing_of_pass (hg : g.Arena) (hentered : Entered g)
    (hp : passBuilds ctx g depth t = .ok (bs, h) t') (hbank : t.bank.before = ⟨base⟩)
    (hm : h.find? r.root = some m) (hf : m.failed = false) :
    ∃ b ∈ bs, Backing ctx base b (Reports.absorb depth m r) := by
  obtain ⟨htrail, b, hb, j, hj, p, hpj, hroot, report, hcame, rfl⟩ :=
    learned_of_pass hg hentered hp hm
  cases report with
  | none => cases hf
  | some ds =>
    obtain ⟨-, hat, hbare⟩ := htrail.sound b hb
    obtain ⟨n, hn, hnp⟩ := getElem?_of_bare_eq hbare hpj
    have hregions : p.regions = ctx.regions.ofFixes p.fixes :=
      regions_of_updateRegions (List.mem_of_getElem? hpj)
    have hnroot : n.root.key = r.root.key :=
      (congrArg Fix.key (Node.root_of_bare_eq hnp)).trans hroot
    have hdescribes : Report.Describes ctx.regions base ds (Reports.absorb depth
        (p.learn t.bank.before ctx.declared (some ds)) r) := by
      rw [absorb_of_measured hf, hbank]
      exact describes_measure hregions
    rw [absorb_of_measured hf] at hdescribes ⊢
    exact ⟨b, hb, ⟨ds, succeeds_of_came hcame rfl, hdescribes⟩, congrArg Nat.cast hat, n,
      mem_members.mpr ⟨j, hj, hn⟩, hnroot, Node.fixes_of_bare_eq hnp⟩

theorem entered_insert {root : Fix} {linked : List Fix} (hg : Entered g) :
    Entered (g.insert root linked).1 := by
  intro n hn
  unfold Graph.insert at hn
  split at hn
  · obtain ⟨j, hj⟩ := List.getElem?_of_mem hn
    rw [modify_getElem?] at hj
    obtain ⟨m, hm, rfl⟩ := Option.map_eq_some_iff.mp hj
    have hold := hg m (List.mem_of_getElem? hm)
    split
    · exact hold
    · exact hold
  · rcases List.mem_append.mp hn with hn | hn
    · exact hg n hn
    · obtain rfl := List.mem_singleton.mp hn
      exact ⟨rfl, rfl⟩

theorem entered_empty : Entered .empty := by
  simp [Entered, Graph.empty]

theorem entered_firstLevel {baseline : Snapshot} {roots : List Fix} :
    Entered (firstLevel ctx baseline roots).1 := by
  have hall : ∀ (roots : List Fix) (g : Graph), Entered g →
      Entered (roots.foldl (fun g root => (g.insert root (ctx.link baseline root)).1) g) := by
    intro roots
    induction roots with
    | nil => exact fun _ hg => hg
    | cons root rest ih => exact fun g hg => ih _ (entered_insert hg)
  exact hall roots .empty entered_empty

theorem entered_nextLevel {baseline : Snapshot} : Entered (nextLevel ctx baseline rs) := by
  rw [nextLevel_eq]
  generalize rs.settled = settled
  have hall : ∀ (rs : Reports) (g : Graph), Entered g →
      Entered (rs.foldl (enter ctx baseline settled) g) := by
    intro rs
    induction rs with
    | nil => exact fun _ hg => hg
    | cons r rest ih =>
      intro g hg
      refine ih _ ?_
      rw [enter_eq]
      split
      · exact entered_insert hg
      · exact hg
  exact hall rs .empty entered_empty

/-- So far all builds were compared with the baseline, and each report that has not failed describes
one of them. -/
structure Backed (ctx : Context ω) (base : List Diagnostic) (bs : List (GroupBuild ω)) (rs : Reports)
    (t : Trial ω) : Prop where
  bank : t.bank.before = ⟨base⟩
  builds : ∀ b ∈ bs, b.start.bank.before = ⟨base⟩ ∧ b.finish.bank.before = ⟨base⟩
  reports : ∀ r ∈ rs, r.failed = false → ∃ b ∈ bs, Backing ctx base b r

theorem Backing.congr {r' : Report} (hb : Backing ctx base b r) (hroot : r'.root = r.root)
    (htree : r'.tree = r.tree) (heffect : r'.localEffect = r.localEffect)
    (hdepth : r'.depth = r.depth) (hnew : r'.newDiagnostics = r.newDiagnostics) :
    Backing ctx base b r' := by
  obtain ⟨⟨ds, hds, hd⟩, hat, n, hn, hnroot, hntree⟩ := hb
  refine ⟨⟨ds, hds, ?_, ?_, ?_⟩, hdepth ▸ hat, n, hn, hroot ▸ hnroot, htree ▸ hntree⟩
  · rw [heffect, htree]
    exact hd.effect
  · rw [hnew]
    exact hd.once
  · rw [hnew, htree]
    exact hd.added

theorem pass_of_levelBuilds {p : List (GroupBuild ω) × Graph × Reports}
    (hl : levelBuilds ctx g depth rs t = .ok p t') :
    passBuilds ctx g depth t = .ok (p.1, p.2.1) t' ∧ p.2.2 = rs.map (refresh p.2.1 depth) := by
  obtain ⟨⟨bs, h⟩, t₁, hp, hl⟩ := bind_eq_ok.mp hl
  cases hl
  exact ⟨hp, rfl⟩

theorem builds_of_pass (hg : g.Arena) (hentered : Entered g)
    (hp : passBuilds ctx g depth t = .ok (bs, h) t') (hbank : t.bank.before = ⟨base⟩) :
    h.bare = (prepared ctx.regions g).bare ∧ t'.bank.before = ⟨base⟩ ∧
      ∀ b ∈ bs, b.start.bank.before = ⟨base⟩ ∧ b.finish.bank.before = ⟨base⟩ := by
  obtain ⟨htrail, -⟩ := trail_of_passBuilds hg (fun n hn => (hentered n hn).2) hp
  refine ⟨htrail.bare, htrail.bank.1.trans hbank, fun b hb => ?_⟩
  rw [← hbank]
  exact htrail.bank.2 b hb

/-- At the first level every report is measured or fails. -/
theorem backed_first_level {p : List (GroupBuild ω) × Graph × Reports} (hg : g.Arena)
    (hentered : Entered g) (hbank : t.bank.before = ⟨base⟩)
    (hroots : ∀ r ∈ rs, r.root.key ∈ g.nodes.map fun n => n.root.key)
    (hl : levelBuilds ctx g 0 rs t = .ok p t') : Backed ctx base p.1 p.2.2 t' := by
  obtain ⟨hp, hfold⟩ := pass_of_levelBuilds hl
  obtain ⟨hbare, hbank', hbuilds⟩ := builds_of_pass hg hentered hp hbank
  refine ⟨hbank', hbuilds, fun r' hr' hf => ?_⟩
  rw [hfold] at hr'
  obtain ⟨r, hr, rfl⟩ := List.mem_map.mp hr'
  cases hm : p.2.1.find? r.root with
  | none =>
    rw [find?_eq_none_iff, roots_of_bare_eq hbare] at hm
    exact absurd (hroots r hr) hm
  | some m =>
    rw [refresh_of_find? hm] at hf ⊢
    cases hmf : m.failed with
    | true => simp [Reports.absorb, hmf] at hf
    | false => exact backing_of_pass hg hentered hp hbank hm hmf

/-- A later level measures a report anew, or leaves it its measurement. -/
theorem backed_level {p : List (GroupBuild ω) × Graph × Reports} (hrs : Backed ctx base bs rs t)
    (hg : g.Arena) (hentered : Entered g) (hdepth : depth ≠ 0)
    (hl : levelBuilds ctx g depth rs t = .ok p t') : Backed ctx base (bs ++ p.1) p.2.2 t' := by
  obtain ⟨hp, hfold⟩ := pass_of_levelBuilds hl
  obtain ⟨-, hbank, hbuilds⟩ := builds_of_pass hg hentered hp hrs.bank
  refine ⟨hbank, fun b hb => (List.mem_append.mp hb).elim (hrs.builds b) (hbuilds b),
    fun r' hr' hf => ?_⟩
  rw [hfold] at hr'
  obtain ⟨r, hr, rfl⟩ := List.mem_map.mp hr'
  have hold : r.failed = false → ∃ b ∈ bs ++ p.1, Backing ctx base b r := fun hrf => by
    obtain ⟨b, hb, hback⟩ := hrs.reports r hr hrf
    exact ⟨b, List.mem_append_left _ hb, hback⟩
  cases hm : p.2.1.find? r.root with
  | none =>
    rw [refresh, hm] at hf ⊢
    exact hold hf
  | some m =>
    rw [refresh_of_find? hm] at hf ⊢
    cases hmf : m.failed with
    | true =>
      simp only [Reports.absorb, hmf, if_true, hdepth, decide_false, Bool.or_false] at hf ⊢
      obtain ⟨b, hb, hback⟩ := hold hf
      exact ⟨b, hb, hback.congr rfl rfl rfl rfl rfl⟩
    | false =>
      obtain ⟨b, hb, hback⟩ := backing_of_pass hg hentered hp hrs.bank hm hmf
      exact ⟨b, List.mem_append_right _ hb, hback⟩

theorem Backed.from_ledger (hrs : Backed ctx base bs rs t) (ht : t'.ledger = t.ledger) :
    Backed ctx base bs rs t' :=
  ⟨(congrArg (fun l => l.1.before) ht).trans hrs.bank, hrs.builds, hrs.reports⟩

theorem Backed.map {f : Report → Report} (hrs : Backed ctx base bs rs t)
    (hf : ∀ r, (f r).failed = r.failed ∧ ∀ b, Backing ctx base b r → Backing ctx base b (f r)) :
    Backed ctx base bs (rs.map f) t := by
  refine ⟨hrs.bank, hrs.builds, fun r' hr' hrf => ?_⟩
  obtain ⟨r, hr, rfl⟩ := List.mem_map.mp hr'
  obtain ⟨b, hb, hback⟩ := hrs.reports r hr ((hf r).1 ▸ hrf)
  exact ⟨b, hb, (hf r).2 b hback⟩

theorem backed_settle {final : Bool} {settled : List Fix} (hrs : Backed ctx base bs rs t) :
    Backed ctx base bs (rs.map (settle ctx final settled)) t := by
  refine hrs.map fun r => ?_
  unfold settle
  split
  · exact ⟨rfl, fun _ => id⟩
  · exact ⟨rfl, fun _ hback => hback.congr rfl rfl rfl rfl rfl⟩

theorem backed_decide {final : Bool} (hrs : Backed ctx base bs rs t)
    (hd : decideReports ctx final rs t = .ok last t') : Backed ctx base bs last t' := by
  have hkept := (keeps_decideReports ctx final rs).of_ok hd
  rw [decideReports, decideEach_eq] at hd
  cases hd
  exact (backed_settle hrs).from_ledger hkept

theorem backed_estimate (hrs : Backed ctx base bs rs t)
    (he : estimate ctx g rs t = .ok last t') : Backed ctx base bs last t' := by
  obtain ⟨table, -, rfl, -⟩ := estimate_returned he
  refine (hrs.map fun r => ?_).from_ledger ((keeps_estimate ctx g rs).of_ok he)
  unfold bounded
  split
  · exact ⟨rfl, fun _ hback => hback.congr rfl rfl rfl rfl rfl⟩
  · exact ⟨rfl, fun _ => id⟩

theorem backed_finish {reached : Nat} {result : ExplorationResult} (hrs : Backed ctx base bs rs t)
    (hf : finish ctx rs reached t = .ok result t') : Backed ctx base bs result.reports t' := by
  rw [(finish_returned hf).1]
  exact (backed_settle hrs).from_ledger ((keeps_finish ctx rs reached).of_ok hf)

theorem backed_descend {budget reached : Nat} (hrs : Backed ctx base bs rs t) (hdepth : depth ≠ 0)
    (hd : descendBuilds ctx depth rs budget t = .ok (cs, last, reached) t') :
    Backed ctx base (bs ++ cs) last t' := by
  induction budget generalizing depth rs bs t cs with
  | zero =>
    cases hd
    rwa [List.append_nil]
  | succ budget ih =>
    obtain ⟨t₀, _, hget, hd⟩ := bind_eq_ok.mp hd
    cases hget
    dsimp only at hd
    split at hd
    · cases hd
      rwa [List.append_nil]
    obtain ⟨_, t₁, hlog, hd⟩ := bind_eq_ok.mp hd
    cases hlog
    obtain ⟨p, t₂, hl, hd⟩ := bind_eq_ok.mp hd
    obtain ⟨decided, t₃, hdec, hd⟩ := bind_eq_ok.mp hd
    obtain ⟨⟨ds, last', reached'⟩, t₄, hrest, hd⟩ := bind_eq_ok.mp hd
    cases hd
    have hlogged : Backed ctx base bs rs { t with
        journal := t.journal ++ [.level depth (nextLevel ctx t.bank.before rs).size] } :=
      hrs.from_ledger rfl
    have hlevel := backed_level hlogged (arena_of_built built_nextLevel) entered_nextLevel hdepth hl
    rw [← List.append_assoc]
    exact ih (backed_decide hlevel hdec) (by omega) hrest

theorem backed_below {result : ExplorationResult} (hrs : Backed ctx base bs rs t)
    (hb : belowBuilds ctx rs t = .ok (cs, result) t') :
    Backed ctx base (bs ++ cs) result.reports t' := by
  obtain ⟨decided, t₁, hdec, hb⟩ := bind_eq_ok.mp hb
  unfold followBuilds at hb
  cases hlevels : ctx.depth.levels? with
  | none =>
    rw [hlevels] at hb
    cases hb
  | some budget =>
    rw [hlevels] at hb
    obtain ⟨⟨ds, last, reached⟩, t₂, hd, hb⟩ := bind_eq_ok.mp hb
    obtain ⟨result', t₃, hf, hb⟩ := bind_eq_ok.mp hb
    cases hb
    exact backed_finish (backed_descend (backed_decide hrs hdec) (by omega) hd) hf

theorem backed_exploreFrom {result : ExplorationResult} (hbank : t.bank.before = ⟨base⟩)
    (he : exploreFromBuilds ctx ⟨base⟩ fixes t = .ok (bs, result) t') :
    Backed ctx base bs result.reports t' := by
  have hg : (firstLevel ctx ⟨base⟩ (roots ctx ⟨base⟩ fixes)).1.Arena :=
    arena_of_built built_firstLevel
  have hentered : Entered (firstLevel ctx ⟨base⟩ (roots ctx ⟨base⟩ fixes)).1 := entered_firstLevel
  have hempty : (firstLevel ctx ⟨base⟩ (roots ctx ⟨base⟩ fixes)).1.size = 0 →
      (firstLevel ctx ⟨base⟩ (roots ctx ⟨base⟩ fixes)).2 = [] := reports_of_size_zero
  have hroots : ∀ r ∈ (firstLevel ctx ⟨base⟩ (roots ctx ⟨base⟩ fixes)).2, r.root.key ∈
      (firstLevel ctx ⟨base⟩ (roots ctx ⟨base⟩ fixes)).1.nodes.map fun n => n.root.key := by
    intro r hr
    obtain ⟨n, hn, rfl⟩ := List.mem_map.mp hr
    exact List.mem_map_of_mem hn
  unfold exploreFromBuilds at he
  generalize firstLevel ctx ⟨base⟩ (roots ctx ⟨base⟩ fixes) = start at *
  obtain ⟨g, first⟩ := start
  dsimp only at *
  rw [log_bind] at he
  have hbank₁ : ({ t with journal := t.journal ++ [.level 0 g.size] } : Trial ω).bank.before =
      ⟨base⟩ := hbank
  split at he
  next h0 =>
    obtain ⟨result', t₂, hc, he⟩ := bind_eq_ok.mp he
    cases he
    have hkept := (keeps_conclude _ _ _).of_ok hc
    obtain rfl : first = [] := hempty h0
    rw [(conclude_returned hc).1]
    exact ⟨(congrArg (fun l => l.1.before) hkept).trans hbank, by simp, by simp⟩
  next =>
    obtain ⟨p, t₂, hl, he⟩ := bind_eq_ok.mp he
    have hlevel := backed_first_level hg hentered hbank₁ hroots hl
    have hrest : ∀ {estimated : Reports} {t₃ : Trial ω}, Backed ctx base p.1 estimated t₃ →
        (belowBuilds ctx estimated >>= fun q => pure (p.1 ++ q.1, q.2)) t₃ = .ok (bs, result) t' →
        Backed ctx base bs result.reports t' := by
      intro estimated t₃ hestimate he
      obtain ⟨⟨cs, result'⟩, t₄, hb, he⟩ := bind_eq_ok.mp he
      cases he
      exact backed_below hestimate hb
    split at he
    · exact hrest hlevel he
    · obtain ⟨estimated, t₃, hest, he⟩ := bind_eq_ok.mp he
      exact hrest (backed_estimate hlevel hest) he

/-- A build of the baseline that was answered is one that succeeded. -/
theorem baseline_of_buildBaseline {ds : List Diagnostic}
    (h : buildBaseline ctx t = .ok (.ok ds) t') :
    ∃ site, ctx.workspace.baseline t.site = .ok ds site := by
  obtain ⟨_, t₁, hset, h⟩ := bind_eq_ok.mp h
  cases hset
  change EStateM.tryCatch (EStateM.map _ (Trial.onSite ctx.workspace.baseline)) _
    { t with builds := t.builds + 1 } = _ at h
  unfold EStateM.tryCatch EStateM.map Trial.onSite at h
  cases hb : ctx.workspace.baseline t.site with
  | ok ds' site =>
    simp only [hb] at h
    cases h
    exact ⟨site, rfl⟩
  | error e site =>
    simp only [hb] at h
    cases e <;> cases h

theorem builds_of_explore {result : ExplorationResult} (he : explore ctx fixes t = .ok result t') :
    ∃ builds, exploreBuilds ctx fixes t = .ok (builds, result) t' := by
  rw [← snd_exploreBuilds] at he
  obtain ⟨⟨builds, result'⟩, hb, rfl⟩ := map_eq_ok.mp he
  exact ⟨builds, hb⟩

theorem exploreFrom_of_exploreBuilds {result : ExplorationResult} {site : Site ω}
    (hbase : ctx.workspace.baseline t.site = .ok base site)
    (he : exploreBuilds ctx fixes t = .ok (bs, result) t') :
    ∃ t₁ : Trial ω, t₁.bank = .baseline base ∧ t₁.site = site ∧
      exploreFromBuilds ctx ⟨base⟩ fixes t₁ = .ok (bs, result) t' := by
  have hbuilt : buildBaseline ctx
      { t with journal := t.journal ++ [.started ctx.depth ctx.mode] } = .ok (.ok base) _ :=
    buildBaseline_of_ok hbase
  unfold exploreBuilds at he
  rw [log_bind, bind_of_ok hbuilt] at he
  dsimp only at he
  rw [modify_bind, log_bind] at he
  exact ⟨_, rfl, rfl, he⟩

/-- Without a baseline every report has failed. -/
theorem failed_of_no_baseline {result : ExplorationResult}
    (hnone : ∀ base site, ctx.workspace.baseline t.site ≠ .ok base site)
    (he : explore ctx fixes t = .ok result t') : ∀ r ∈ result.reports, r.failed = true := by
  obtain ⟨_, t₁, hlog, he⟩ := bind_eq_ok.mp he
  cases hlog
  obtain ⟨built, t₂, hbuild, he⟩ := bind_eq_ok.mp he
  cases built with
  | ok ds =>
    obtain ⟨site, hsite⟩ := baseline_of_buildBaseline hbuild
    exact absurd hsite (hnone ds site)
  | error e =>
    obtain ⟨_, t₃, hlog, hc⟩ := bind_eq_ok.mp he
    intro r hr
    rw [(conclude_returned hc).1] at hr
    obtain ⟨root, -, rfl⟩ := List.mem_map.mp hr
    rfl

/-- Every report that has not failed describes one successful build, in which the node of its root
had its tree, at its depth; also where a later level failed. All builds are compared with the
baseline. Without a baseline every report has failed. -/
theorem reports_describe_builds {result : ExplorationResult}
    (he : explore ctx fixes t = .ok result t') :
    ∃ builds, exploreBuilds ctx fixes t = .ok (builds, result) t' ∧
      (∀ base site, ctx.workspace.baseline t.site = .ok base site →
        t'.bank.before = ⟨base⟩ ∧
        (∀ b ∈ builds, b.start.bank.before = ⟨base⟩ ∧ b.finish.bank.before = ⟨base⟩) ∧
        ∀ r ∈ result.reports, r.failed = false → ∃ b ∈ builds, Backing ctx base b r) ∧
      ((∀ base site, ctx.workspace.baseline t.site ≠ .ok base site) →
        ∀ r ∈ result.reports, r.failed = true) := by
  obtain ⟨builds, hb⟩ := builds_of_explore he
  refine ⟨builds, hb, fun base site hbase => ?_, fun hnone => ?_⟩
  · obtain ⟨t₁, hbank, -, hfrom⟩ := exploreFrom_of_exploreBuilds hbase hb
    have hbacked := backed_exploreFrom (congrArg Bank.before hbank) hfrom
    exact ⟨hbacked.bank, hbacked.builds, hbacked.reports⟩
  · exact failed_of_no_baseline hnone he

/-- One annotation brings up two diagnostics that another would resolve, and the two do not build
together. -/
def faltering : Context (List Fix) :=
  { workspace := .inMemory fun held =>
      if !Keyed.has Fix.key (Fix.ofField "A" "x").key held then .ok []
      else if Keyed.has Fix.key (Fix.ofField "B" "y").key held then .error (.refused "")
      else .ok [⟨"null", "", .ofType "A", [.ofField "B" "y"]⟩,
        ⟨"null", "", .ofType "A", [.ofField "B" "y"]⟩]
    regions := fun l => some [l.region], mode := .targetOnly, depth := .whole 1, retry := true
    declared := fun _ => true, link := fun _ f => [f], destructive := fun _ => false, modules := [] }

/-- The second level fails, and the report still describes the build of the first. -/
theorem reports_describe_builds_faltering :
    ∃ result t' builds, exploreBuilds faltering (some [.ofField "A" "x"]) (Trial.start []) =
        .ok (builds, result) t' ∧
      (builds.map fun b => (b.depth, b.ok)) = [(0, true), (1, false)] ∧
      (result.reports.map fun r => (r.failed, r.depth, r.localEffect)) = [(false, 0, 2)] ∧
      ∀ r ∈ result.reports, ∃ b ∈ builds, Backing faltering [] b r := by
  have hrun : (match exploreBuilds faltering (some [.ofField "A" "x"]) (Trial.start []) with
      | .ok (builds, result) _ => some (builds.map fun b => (b.depth, b.ok),
          result.reports.map fun r => (r.failed, r.depth, r.localEffect))
      | .error _ _ => none) = some ([(0, true), (1, false)], [(false, 0, 2)]) := by
    decide +kernel
  cases hb : exploreBuilds faltering (some [.ofField "A" "x"]) (Trial.start []) with
  | error e t' => simp [hb] at hrun
  | ok p t' =>
    obtain ⟨builds, result⟩ := p
    rw [hb] at hrun
    obtain ⟨hbuilds, hreports⟩ := Prod.mk.inj (Option.some.inj hrun)
    have he : explore faltering (some [.ofField "A" "x"]) (Trial.start []) = .ok result t' := by
      rw [← snd_exploreBuilds]
      exact map_eq_ok.mpr ⟨_, hb, rfl⟩
    obtain ⟨builds', hb', hmeasured, -⟩ := reports_describe_builds he
    cases hb.symm.trans hb'
    have hbaseline : faltering.workspace.baseline (Trial.start []).site = .ok [] ⟨[], false⟩ := rfl
    obtain ⟨-, -, hbacked⟩ := hmeasured [] _ hbaseline
    refine ⟨result, t', builds, rfl, hbuilds, hreports, fun r hr => hbacked r hr ?_⟩
    have hmem := List.mem_map_of_mem (f := fun r => (r.failed, r.depth, r.localEffect)) hr
    rw [hreports] at hmem
    exact (Prod.mk.inj (List.mem_singleton.mp hmem)).1

end Exploration
end FixTrial
