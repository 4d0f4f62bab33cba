import FixTrial.Proofs.Exploration.Course
import FixTrial.Proofs.Exploration.Reports
import FixTrial.Proofs.Exploration.Twins
import FixTrial.Proofs.Workspace.InMemory

/-!
Verdicts over a whole exploration: each report is decided once, by the policy in force, and is left
alone from then on.
-/
namespace FixTrial

namespace Exploration
open Act FixTrial.Graph
variable {ω : Type} {ctx : Context ω} {t t₁ t₂ t' : Trial ω} {vs ws : List Event}
  {rs rs' last : Reports} {settled : List Fix} {r : Report} {final : Bool} {g h : Graph}
  {depth : Nat} {source : RegionSource} {baseline : Snapshot} {course rest : Course}
  {fixes : Option (List Fix)}

/-- What was recorded between two trials, of which `vs` are verdicts. -/
def Told (t t' : Trial ω) (vs : List Event) : Prop :=
  ∃ more, t'.journal = t.journal ++ more ∧ more.filter Event.isVerdict = vs

theorem told_refl : Told t t [] := ⟨[], by simp, rfl⟩

theorem told_trans (h : Told t t₁ vs) (h' : Told t₁ t₂ ws) : Told t t₂ (vs ++ ws) := by
  obtain ⟨more, hj, rfl⟩ := h
  obtain ⟨more', hj', rfl⟩ := h'
  exact ⟨more ++ more', by rw [hj', hj, List.append_assoc], List.filter_append ..⟩

theorem told_log {e : Event} (he : e.isVerdict = false) (h : Told t t₁ vs) :
    Told t { t₁ with journal := t₁.journal ++ [e] } vs := by
  obtain ⟨more, hj, rfl⟩ := h
  exact ⟨more ++ [e], by simp [hj], by simp [he]⟩

/-- A trial that recorded no verdict since `t`, twice. -/
def Quiet (t t₁' t₁ : Trial ω) : Prop := t₁' = t₁ ∧ Told t t₁ []

theorem buildsAlike_quiet (t : Trial ω) (v : Act ω (List Diagnostic)) :
    BuildsAlike (Quiet t) (fun _ => True) (fun _ => True) ctx.workspace ctx.workspace v v := by
  constructor
  · rintro β fixes m - - t₁ _ ⟨rfl, ht⟩
    exact .ok ⟨rfl, fun _ _ => trivial⟩ ⟨rfl, ht⟩
  · rintro t₁ _ ⟨rfl, ht⟩
    unfold Trial.onSite
    cases Site.holding v t₁.site with
    | ok ds site => exact .ok ⟨rfl, trivial⟩ ⟨rfl, ht⟩
    | error e site => exact .error (.inl trivial) ⟨rfl, ht⟩

theorem twins_quiet (t : Trial ω) :
    Twins (Quiet t) (fun _ => True) (fun _ => True) ctx.workspace ctx.workspace ctx.modules
      ctx.modules := by
  constructor
  · rintro t₁ _ ⟨rfl, _⟩
    exact ⟨rfl, rfl, rfl, rfl⟩
  · rintro t₁ _ ⟨rfl, ht⟩ _ _ _ _
    exact ⟨rfl, ht⟩
  · rintro t₁ _ e he ⟨rfl, ht⟩
    exact ⟨rfl, told_log (Bool.or_eq_false_iff.mp he).1 ht⟩
  · exact buildsAlike_quiet t _
  · exact List.forall₂_same.mpr fun m _ => ⟨rfl, buildsAlike_quiet t _⟩

theorem told_of_alike {α : Type} {Q : α → Prop} {x : Act (Trial ω) α} {a : α}
    (hx : Alike (Quiet t) (fun _ => True) (Both Q) x x) (h : x t = .ok a t') :
    Q a ∧ Told t t' [] := by
  have hends := hx t t ⟨rfl, told_refl⟩
  rw [h] at hends
  cases hends with
  | ok hv hr => exact ⟨hv.2, hr.2⟩

/-- What deciding tells of is verdicts. -/
theorem told_decide : Told t
    { t with journal := t.journal ++ rs.filterMap (telling ctx final settled) }
    (rs.filterMap (telling ctx final settled)) := by
  refine ⟨_, rfl, List.filter_eq_self.mpr fun e he => ?_⟩
  obtain ⟨r, -, hr⟩ := List.mem_filterMap.mp he
  obtain ⟨tag, -, rfl⟩ := Option.map_eq_some_iff.mp hr
  rfl

theorem roots_of_bare_eq (hb : h.bare = (prepared source g).bare) :
    (h.nodes.map fun n => n.root.key) = g.nodes.map fun n => n.root.key := by
  rw [← roots_bare, hb, roots_bare]
  change ((g.updateRegions source).nodes.map fun n => n.root.key) = _
  rw [updateRegions_nodes, List.map_map]
  rfl

theorem arena_prepared (hg : g.Arena) : (prepared source g).Arena :=
  ⟨(arena_updateRegions hg).index_eq, (arena_updateRegions hg).roots_nodup⟩

/-- A pass keeps every node, with its fixes. -/
theorem find?_of_pass {n : Node} (hg : g.Arena)
    (hb : h.bare = (prepared source g).bare) (hn : n ∈ g.nodes) :
    ∃ m, h.find? n.root = some m ∧ m.fixes = n.fixes := by
  obtain ⟨j, hj⟩ := List.getElem?_of_mem hn
  obtain ⟨p, hp, hroot, hfixes⟩ : ∃ p, (g.updateRegions source).nodes[j]? = some p ∧
      p.root = n.root ∧ p.fixes = n.fixes := by
    rw [updateRegions_nodes, List.getElem?_map, hj]
    exact ⟨_, rfl, rfl, rfl⟩
  obtain ⟨m, hm, hmp⟩ := getElem?_of_bare_eq hb hp
  have hfound := find?_of_mem (arena_of_bare_eq hb (arena_prepared hg)) (List.mem_of_getElem? hm)
  rw [Node.root_of_bare_eq hmp, hroot] at hfound
  exact ⟨m, hfound, (Node.fixes_of_bare_eq hmp).trans hfixes⟩

/-- The next level tries only what continues, with its tree and what is followed up. -/
theorem continues_of_find? {m : Node} (hn : (rs.map fun r => r.root.key).Nodup)
    (hb : h.bare = (prepared source (nextLevel ctx baseline rs)).bare) (hr : r ∈ rs)
    (hm : h.find? r.root = some m) :
    Continues rs.settled r ∧
      m.fixes = Keyed.union Fix.key [r.root] (widened ctx baseline rs.settled r) := by
  have hc : Continues rs.settled r := by
    by_contra hc
    have hnone : h.find? r.root = none := by
      rw [find?_eq_none_iff, roots_of_bare_eq hb, mem_roots_nextLevel]
      rintro ⟨r', hr', hcont, hkey⟩
      obtain rfl : r = r' := List.inj_on_of_nodup_map hn hr hr' hkey
      exact hc hcont
    simp [hnone] at hm
  obtain ⟨i, hi⟩ := node_of_continues ctx baseline hn hr hc
  obtain ⟨m', hm', hfixes⟩ := find?_of_pass (arena_of_built built_nextLevel) hb hi
  obtain rfl : m' = m := Option.some.inj (hm'.symm.trans hm)
  exact ⟨hc, hfixes⟩

/-- The next level tries nothing that is decided or has failed. -/
theorem avoids_nextLevel (hrs : Honest ctx rs)
    (hb : h.bare = (prepared source (nextLevel ctx baseline rs)).bare) : Avoids h rs := by
  intro r hr hdone
  by_contra hfound
  obtain ⟨m, hm⟩ := Option.ne_none_iff_exists'.mp hfound
  obtain ⟨hc, -⟩ := continues_of_find? hrs.roots_nodup hb hr hm
  rcases hdone with hf | hf
  · rw [hc.1] at hf
    simp at hf
  · have hempty : (Reports.unfollowed rs.settled r).isEmpty = true := by
      simp [Reports.unfollowed, Report.followups, (hrs.failed r hr hf).2, Keyed.without]
    rw [hc.2] at hempty
    simp at hempty

theorem avoids_firstLevel (hpending : ∀ r ∈ rs, r.isFinished = false)
    (hfailed : ∀ r ∈ rs, r.failed = false) : Avoids g rs := by
  rintro r hr (h | h)
  · rw [hpending r hr] at h
    simp at h
  · rw [hfailed r hr] at h
    simp at h

/-- A root whose node failed gets no entry in an estimate. -/
theorem not_mem_candidates {root : Fix} {n : Node}
    (hroots : (g.nodes.map fun n => n.root.key).Nodup) (hn : g.find? root = some n)
    (hf : n.failed = true) :
    root.key ∉ ((Estimate.start (candidates g)).map Prod.fst).map Fix.key := by
  intro hmem
  have hstart : (Estimate.start (candidates g)).map Prod.fst =
      Keyed.distinct Fix.key ((candidates g).flatten.map (·.root)) := by
    rw [Estimate.start, List.map_map]
    exact List.map_id _
  rw [hstart, Keyed.mem_keys_distinct, List.map_map, List.mem_map] at hmem
  obtain ⟨c, hc, hkey⟩ := hmem
  obtain ⟨group, hgroup, hcg⟩ := List.mem_flatten.mp hc
  obtain ⟨indices, -, rfl⟩ := List.mem_map.mp (List.mem_filter.mp hgroup).1
  obtain ⟨m, hm, rfl⟩ := List.mem_map.mp hcg
  obtain ⟨hmem, hok⟩ := List.mem_filter.mp hm
  obtain ⟨i, -, hi⟩ := mem_members.mp hmem
  obtain ⟨hnmem, hnkey⟩ := mem_of_find? hn
  obtain rfl : m = n := List.inj_on_of_nodup_map hroots (List.mem_of_getElem? hi) hnmem
    (hkey.trans hnkey.symm)
  simp [hf] at hok

theorem level_returned {p : Graph × Reports} (hg : g.Arena)
    (hl : level ctx g depth rs t = .ok p t') :
    p.1.bare = (prepared ctx.regions g).bare ∧ p.2 = Reports.fold rs p.1 depth ∧ Told t t' [] := by
  obtain ⟨h, t₁, hp, hr⟩ := bind_eq_ok.mp hl
  obtain ⟨hbare, htold⟩ := told_of_alike ((twins_quiet t).pass hg allows_all depth) hp
  cases hr
  exact ⟨hbare, rfl, htold⟩

theorem estimate_returned (hl : estimate ctx g rs t = .ok rs' t') :
    ∃ table : Estimate.Table, table.map Prod.fst = (Estimate.start (candidates g)).map Prod.fst ∧
      rs' = rs.map (bounded table) ∧ Told t t' [] := by
  obtain ⟨table, t₁, hp, hr⟩ := bind_eq_ok.mp hl
  obtain ⟨htable, htold⟩ := told_of_alike ((twins_quiet t).estimateRun (candidates g)
    fun _ _ => trivial) hp
  cases hr
  exact ⟨table, htable, rfl, htold⟩

theorem conclude_returned {n : Nat} {exceeded : Bool} {result : ExplorationResult}
    (hc : conclude rs n exceeded t = .ok result t') : result.reports = rs ∧ Told t t' [] := by
  obtain ⟨t₁, _, hget, hc⟩ := bind_eq_ok.mp hc
  cases hget
  obtain ⟨_, t₂, hlog, hc⟩ := bind_eq_ok.mp hc
  cases hlog
  split at hc
  · obtain ⟨_, t₃, hlog, hc⟩ := bind_eq_ok.mp hc
    cases hlog
    obtain ⟨_, t₄, hlog, hc⟩ := bind_eq_ok.mp hc
    cases hlog
    cases hc
    exact ⟨rfl, told_log rfl (told_log rfl (told_log rfl told_refl))⟩
  · obtain ⟨_, t₃, hlog, hc⟩ := bind_eq_ok.mp hc
    cases hlog
    cases hc
    exact ⟨rfl, told_log rfl (told_log rfl told_refl)⟩

theorem finish_returned {n : Nat} {result : ExplorationResult}
    (hf : finish ctx rs n t = .ok result t') :
    result.reports = rs.map (settle ctx true rs.settled) ∧
      Told t t' (rs.filterMap (telling ctx true rs.settled)) := by
  have hdecide : ∀ {t₁ : Trial ω} {exceeded : Bool}, Told t t₁ [] →
      (decideReports ctx true rs >>= fun rs => conclude rs n exceeded) t₁ = .ok result t' →
      result.reports = rs.map (settle ctx true rs.settled) ∧
        Told t t' (rs.filterMap (telling ctx true rs.settled)) := by
    intro t₁ exceeded htold hrest
    obtain ⟨decided, t₂, hd, hc⟩ := bind_eq_ok.mp hrest
    rw [decideReports, decideEach_eq] at hd
    cases hd
    obtain ⟨hreports, hquiet⟩ := conclude_returned hc
    refine ⟨hreports, ?_⟩
    simpa using told_trans (told_trans htold told_decide) hquiet
  unfold finish at hf
  dsimp only at hf
  split at hf
  · obtain ⟨_, t₁, hlog, hf⟩ := bind_eq_ok.mp hf
    cases hlog
    exact hdecide (told_log rfl told_refl) hf
  · exact hdecide told_refl hf

/-- Whether an exploration that ends with these reports was to go deeper, and has left something
unexplored. -/
def leaves (ctx : Context ω) (rs : Reports) : Bool :=
  !(rs.filter fun r => !r.isFinished && !(Reports.unfollowed rs.settled r).isEmpty).isEmpty &&
    ctx.depth.isPositive

theorem result_of_conclude {reached : Nat} {exceeded : Bool} {result : ExplorationResult}
    (hc : conclude rs reached exceeded t = .ok result t') :
    result = ⟨rs, t.builds, t.failedGroups, reached, exceeded⟩ := by
  unfold conclude at hc
  rw [get_bind, log_bind] at hc
  dsimp only at hc
  split at hc
  · rw [log_bind, log_bind] at hc
    cases hc
    rfl
  · rw [log_bind] at hc
    cases hc
    rfl

theorem result_of_finish {reached : Nat} {result : ExplorationResult}
    (hf : finish ctx rs reached t = .ok result t') :
    result = ⟨rs.map (settle ctx true rs.settled), t.builds, t.failedGroups, reached,
      leaves ctx rs⟩ := by
  unfold finish at hf
  dsimp only at hf
  split at hf
  next hleft =>
    rw [log_bind, decideReports, bind_of_ok decideEach_eq] at hf
    rw [result_of_conclude hf]
    rfl
  next hleft =>
    rw [decideReports, bind_of_ok decideEach_eq] at hf
    rw [result_of_conclude hf]
    rfl

theorem follow_of_descend {D reached : Nat} (hD : ctx.depth.levels? = some D)
    (hd : descend ctx 1 rs D t = .ok (last, reached) t') :
    follow ctx rs t = finish ctx last reached t' := by
  unfold follow
  rw [hD]
  dsimp only
  rw [bind_of_ok hd]

/-- From reports and a trial to later ones, along a course: what is decided on the way is told of
once, and stays. -/
structure Leads (ctx : Context ω) (rs : Reports) (t : Trial ω) (course : Course) (last : Reports)
    (t' : Trial ω) : Prop where
  honest : Honest ctx last
  follows : Follows rs course
  latest_eq : latest rs course = last
  told : ∃ vs, Told t t' vs ∧ (spoken rs ++ vs).Perm (spoken last)

theorem leads_quiet (hrs : Honest ctx rs) (ht : Told t t' []) : Leads ctx rs t [] rs t' :=
  ⟨hrs, trivial, rfl, [], ht, by rw [List.append_nil]⟩

theorem leads_trans (h : Leads ctx rs t course rs' t₁) (h' : Leads ctx rs' t₁ rest last t') :
    Leads ctx rs t (course ++ rest) last t' := by
  obtain ⟨vs, ht, hp⟩ := h.told
  obtain ⟨ws, ht', hp'⟩ := h'.told
  refine ⟨h'.honest, follows_append.mpr ⟨h.follows, ?_⟩, ?_, vs ++ ws, told_trans ht ht', ?_⟩
  · rw [h.latest_eq]
    exact h'.follows
  · rw [latest_append, h.latest_eq, h'.latest_eq]
  · rw [← List.append_assoc]
    exact (hp.append_right ws).trans hp'

theorem leads_decide (hrs : Honest ctx rs) (final : Bool) (settled : List Fix) (t : Trial ω) :
    Leads ctx rs t [.reports (rs.map (settle ctx final settled))]
      (rs.map (settle ctx final settled))
      { t with journal := t.journal ++ rs.filterMap (telling ctx final settled) } :=
  ⟨honest_settle hrs, ⟨keeps_settle, trivial⟩, rfl, _, told_decide, spoken_settle⟩

/-- One level, of which the graph has no node for a report that is decided or failed. -/
theorem leads_level {p : Graph × Reports} (hrs : Honest ctx rs) (hg : g.Arena)
    (hl : level ctx g depth rs t = .ok p t')
    (hav : ∀ h : Graph, h.bare = (prepared ctx.regions g).bare → Avoids h rs)
    (hblank : depth = 0 → ∀ r ∈ rs, r.Blank) :
    Leads ctx rs t [.level g, .reports p.2] p.2 t' := by
  obtain ⟨hbare, hfold, htold⟩ := level_returned hg hl
  have havoids := hav p.1 hbare
  rw [hfold]
  refine ⟨honest_fold hrs havoids hblank, ⟨fun r hr hf => ?_, keeps_fold havoids, trivial⟩, rfl,
    [], htold, ?_⟩
  · rw [← roots_of_bare_eq hbare, ← find?_eq_none_iff]
    exact havoids r hr (.inl hf)
  · rw [List.append_nil, spoken_fold havoids]

theorem descend_leads {budget n : Nat} (hrs : Honest ctx rs) (hdepth : depth ≠ 0)
    (hd : descendSeen ctx depth rs budget t = .ok (course, last, n) t') :
    Leads ctx rs t course last t' := by
  -- a failure below the first level fails no report, so none has to be blank here
  induction budget generalizing depth rs t course with
  | zero =>
    cases hd
    exact leads_quiet hrs told_refl
  | succ budget ih =>
    rcases descendSeen_cases hd with ⟨-, rfl, rfl, -, rfl⟩ | ⟨p, t₁, rest, hl, hrest, rfl⟩
    · exact leads_quiet hrs told_refl
    have hlogged : Leads ctx rs t [] rs { t with
        journal := t.journal ++ [.level depth (nextLevel ctx t.bank.before rs).size] } :=
      leads_quiet hrs (told_log rfl told_refl)
    have hlevel := leads_level hrs (arena_of_built built_nextLevel) hl
      (fun h hb => avoids_nextLevel hrs hb) fun h0 => absurd h0 hdepth
    have hdecide := leads_decide hlevel.honest false p.2.settled t₁
    exact leads_trans (leads_trans (leads_trans hlogged hlevel) hdecide)
      (ih hdecide.honest (Nat.succ_ne_zero depth) hrest)

theorem finish_leads {n : Nat} {result : ExplorationResult} (hrs : Honest ctx rs)
    (hf : finish ctx rs n t = .ok result t') :
    Leads ctx rs t [.reports result.reports] result.reports t' ∧
      ∀ r ∈ result.reports, r.isFinished = true := by
  obtain ⟨hreports, htold⟩ := finish_returned hf
  rw [hreports]
  refine ⟨⟨honest_settle hrs, ⟨keeps_settle, trivial⟩, rfl, _, htold, spoken_settle⟩, fun r hr => ?_⟩
  obtain ⟨r', -, rfl⟩ := List.mem_map.mp hr
  exact finished_settle

/-- The first reports: none is decided, none has failed, and nothing was measured. -/
theorem first_report {roots : List Fix} (hr : r ∈ (firstLevel ctx baseline roots).2) :
    r.isFinished = false ∧ r.failed = false ∧ r.Blank := by
  obtain ⟨n, -, rfl⟩ := List.mem_map.mp hr
  exact ⟨rfl, rfl, rfl, rfl, rfl, rfl⟩

theorem honest_first {roots : List Fix} : Honest ctx (firstLevel ctx baseline roots).2 := by
  refine ⟨?_, fun r hr hf => ?_, fun r hr hf => ?_⟩
  · have hkeys : ((firstLevel ctx baseline roots).2.map fun r => r.root.key) =
        (firstLevel ctx baseline roots).1.nodes.map fun n => n.root.key := by
      simp only [firstLevel, List.map_map]
      rfl
    rw [hkeys]
    exact (arena_of_built built_firstLevel).roots_nodup
  · rw [(first_report hr).1] at hf
    simp at hf
  · rw [(first_report hr).2.1] at hf
    simp at hf

theorem spoken_of_pending (h : ∀ r ∈ rs, r.isFinished = false) : spoken rs = [] := by
  rw [spoken, List.filter_eq_nil_iff.mpr fun r hr => by simp [h r hr], List.map_nil]

theorem leads_estimate (hrs : Honest ctx rs) (hpending : ∀ r ∈ rs, r.isFinished = false)
    (hroots : (g.nodes.map fun n => n.root.key).Nodup)
    (hfailed : ∀ r ∈ rs, r.failed = true → ∃ n, g.find? r.root = some n ∧ n.failed = true)
    (he : estimate ctx g rs t = .ok rs' t') : Leads ctx rs t [.reports rs'] rs' t' := by
  obtain ⟨table, htable, rfl, htold⟩ := estimate_returned he
  -- a failed node is no candidate, so that a failed report keeps bounds of zero
  have hentry : ∀ r ∈ rs, r.failed = true → r.root.key ∉ table.map fun e => e.1.key := by
    intro r hr hf
    obtain ⟨n, hn, hnf⟩ := hfailed r hr hf
    have hkeys : (table.map fun e => e.1.key) = (table.map Prod.fst).map Fix.key := by
      rw [List.map_map]
      rfl
    rw [hkeys, htable]
    exact not_mem_candidates hroots hn hnf
  have hbounded : ∀ r ∈ rs.map (bounded table), r.isFinished = false := by
    intro r hr
    obtain ⟨r', hr', rfl⟩ := List.mem_map.mp hr
    rw [isFinished_bounded]
    exact hpending r' hr'
  refine ⟨honest_bounded hrs hpending hentry, ⟨keeps_map _ fun r hr => ⟨root_bounded, ?_⟩, trivial⟩,
    rfl, [], htold, ?_⟩
  · intro hf
    rw [hpending r hr] at hf
    simp at hf
  · rw [spoken_of_pending hpending, spoken_of_pending hbounded]
    exact .refl _

/-- After the first level every report is undecided, and the failed ones are those whose node is. -/
theorem first_level_returned {first : Reports} {p : Graph × Reports} (hg : g.Arena)
    (hfirst : ∀ r ∈ first, r.isFinished = false ∧ r.failed = false)
    (hl : level ctx g 0 first t = .ok p t') :
    (p.1.nodes.map fun n => n.root.key).Nodup ∧ (∀ r ∈ p.2, r.isFinished = false) ∧
      ∀ r ∈ p.2, r.failed = true → ∃ n, p.1.find? r.root = some n ∧ n.failed = true := by
  obtain ⟨hbare, hfold, -⟩ := level_returned hg hl
  refine ⟨?_, fun r hr => ?_, fun r hr hf => ?_⟩
  · rw [roots_of_bare_eq hbare]
    exact hg.roots_nodup
  · rw [hfold] at hr
    obtain ⟨r', hr', rfl⟩ := List.mem_map.mp hr
    exact isFinished_refresh.trans (hfirst r' hr').1
  · rw [hfold] at hr
    obtain ⟨r', hr', rfl⟩ := List.mem_map.mp hr
    rcases failed_refresh hf with hold | ⟨-, -, n, hn, hnf⟩
    · rw [(hfirst r' hr').2] at hold
      simp at hold
    · refine ⟨n, ?_, hnf⟩
      rw [← hn]
      exact congrArg p.1.find? root_refresh

theorem below_leads {result : ExplorationResult} (hrs : Honest ctx rs)
    (hb : belowSeen ctx rs t = .ok (course, result) t') :
    Leads ctx rs t course result.reports t' ∧ (∀ r ∈ result.reports, r.isFinished = true) ∧
      ∃ before, course = before ++ [.reports result.reports] := by
  obtain ⟨D, rest, last, n, t₁, -, hd, hfin, rfl⟩ := belowSeen_cases hb
  have hdecide := leads_decide hrs ctx.depth.isZero rs.settled t
  have hdescent := descend_leads hdecide.honest Nat.one_ne_zero hd
  obtain ⟨hfinish, hfinished⟩ := finish_leads hdescent.honest hfin
  exact ⟨leads_trans hdecide (leads_trans hdescent hfinish), hfinished, _ :: rest, rfl⟩

/-- A whole course, from undecided reports to decided ones. -/
structure Completes (ctx : Context ω) (t : Trial ω) (course : Course) (last : Reports)
    (t' : Trial ω) : Prop where
  starts : ∃ first rest, course = .reports first :: rest ∧ spoken first = [] ∧
    Leads ctx first t rest last t'
  finished : ∀ r ∈ last, r.isFinished = true
  ends : ∃ before, course = before ++ [.reports last]

theorem completes_of_below {first : Reports} {result : ExplorationResult}
    (hspoken : spoken first = []) (hl : Leads ctx first t course rs t₁)
    (hb : belowSeen ctx rs t₁ = .ok (rest, result) t') :
    Completes ctx t (.reports first :: (course ++ rest)) result.reports t' := by
  obtain ⟨hbelow, hfinished, before, rfl⟩ := below_leads hl.honest hb
  exact ⟨⟨first, _, rfl, hspoken, leads_trans hl hbelow⟩, hfinished,
    .reports first :: (course ++ before), by simp⟩

theorem exploreFrom_completes {result : ExplorationResult}
    (he : exploreFromSeen ctx baseline fixes t = .ok (course, result) t') :
    Completes ctx t course result.reports t' := by
  obtain ⟨g, first, hstart⟩ : ∃ g first,
      firstLevel ctx baseline (roots ctx baseline fixes) = (g, first) := ⟨_, _, rfl⟩
  have hreports : first = (firstLevel ctx baseline (roots ctx baseline fixes)).2 := by rw [hstart]
  have hfirst : ∀ r ∈ first, r.isFinished = false ∧ r.failed = false ∧ r.Blank :=
    fun r hr => first_report (hreports ▸ hr)
  have hhonest : Honest ctx first := hreports ▸ honest_first
  have hspoken : spoken first = [] := spoken_of_pending fun r hr => (hfirst r hr).1
  have hlogged : Leads ctx first t [] first { t with journal := t.journal ++ [.level 0 g.size] } :=
    leads_quiet hhonest (told_log rfl told_refl)
  rcases exploreFromSeen_cases hstart he with
    ⟨-, rfl, hc, rfl⟩ | ⟨p, t₁, estimated, t₂, rest, hl, hest, hb, rfl⟩
  · obtain ⟨hnone, htold⟩ := conclude_returned hc
    rw [hnone]
    exact ⟨⟨[], [], rfl, rfl, leads_trans hlogged (leads_quiet hhonest htold)⟩, by simp, [], rfl⟩
  have hg : g.Arena := by
    rw [← show (firstLevel ctx baseline (roots ctx baseline fixes)).1 = g by rw [hstart]]
    exact arena_of_built built_firstLevel
  have hlevel := leads_level hhonest hg hl
    (fun h _ => avoids_firstLevel (fun r hr => (hfirst r hr).1) fun r hr => (hfirst r hr).2.1)
    fun _ r hr => (hfirst r hr).2.2
  have hestimate : Leads ctx p.2 t₁ [.reports estimated] estimated t₂ := by
    rcases hest with ⟨-, rfl, rfl⟩ | hest
    · exact ⟨hlevel.honest, ⟨keeps_refl _, trivial⟩, rfl, [], told_refl, by rw [List.append_nil]⟩
    · obtain ⟨hroots, hpending, hfailed⟩ :=
        first_level_returned hg (fun r hr => ⟨(hfirst r hr).1, (hfirst r hr).2.1⟩) hl
      exact leads_estimate hlevel.honest hpending hroots hfailed hest
  exact completes_of_below hspoken (leads_trans hlogged (leads_trans hlevel hestimate)) hb

theorem honest_hopeless {roots : List Fix} (hn : (roots.map Fix.key).Nodup) :
    Honest ctx (roots.map hopeless) := by
  refine ⟨?_, fun r hr _ => ?_, fun r hr _ => ?_⟩
  · rw [List.map_map]
    exact hn
  · obtain ⟨root, -, rfl⟩ := List.mem_map.mp hr
    simp [hopeless, Policy.decide]
  · obtain ⟨root, -, rfl⟩ := List.mem_map.mp hr
    exact ⟨⟨rfl, rfl, rfl, rfl⟩, rfl⟩

theorem completes_of_told (ht : Told t t₁ []) (h : Completes ctx t₁ course last t') :
    Completes ctx t course last t' := by
  obtain ⟨first, rest, hcourse, hspoken, hleads⟩ := h.starts
  obtain ⟨vs, htold, hp⟩ := hleads.told
  exact ⟨⟨first, rest, hcourse, hspoken, hleads.honest, hleads.follows, hleads.latest_eq, vs,
    told_trans ht htold, hp⟩, h.finished, h.ends⟩

/-- The course is complete, or the baseline does not build and the reports are hopeless. -/
theorem explore_completes {result : ExplorationResult}
    (he : exploreSeen ctx fixes t = .ok (course, result) t') :
    Completes ctx t course result.reports t' ∨
      (∀ ds site, ctx.workspace.baseline t.site ≠ .ok ds site) ∧
        course = [.reports result.reports] ∧
        result.reports = (Fix.dedupe (fixes.getD [])).map hopeless := by
  rcases exploreSeen_cases he with ⟨e, t₁, hbuild, hc, rfl⟩ | ⟨ds, t₁, hbuild, he⟩
  · refine .inr ⟨fun ds site hds => ?_, rfl, (conclude_returned hc).1⟩
    have hok := (buildBaseline_of_ok (t := { t with
      journal := t.journal ++ [.started ctx.depth ctx.mode] }) hds).symm.trans hbuild
    simp at hok
  · have hbuilt := (told_of_alike (twins_quiet _).buildBaseline hbuild).2
    have hready : Told t₁ { t₁ with
        bank := .baseline ds, journal := t₁.journal ++ [.baselineBuilt ds.length] } [] :=
      ⟨[.baselineBuilt ds.length], rfl, rfl⟩
    exact .inl (completes_of_told (told_trans (told_trans (told_log rfl told_refl) hbuilt) hready)
      (exploreFrom_completes he))

/-- An exploration that returns has a course. -/
theorem seen_of_explore {result : ExplorationResult} (he : explore ctx fixes t = .ok result t') :
    ∃ course, exploreSeen ctx fixes t = .ok (course, result) t' := by
  rw [← snd_exploreSeen] at he
  change EStateM.map _ _ _ = _ at he
  unfold EStateM.map at he
  cases hs : exploreSeen ctx fixes t with
  | error e t₁ => simp [hs] at he
  | ok p t₁ =>
    simp only [hs, EStateM.Result.ok.injEq] at he
    obtain ⟨rfl, rfl⟩ := he
    exact ⟨p.1, rfl⟩

/-- What can be read off honest reports that are all decided. -/
theorem policy_of_honest (hrs : Honest ctx rs) (hfinished : ∀ r ∈ rs, r.isFinished = true)
    (hr : r ∈ rs) :
    (r.tag = .apply ∨ r.tag = .discard) ∧ r.tag = Policy.decide ctx.mode ctx.destructive r ∧
      (r.failed = true → r.tag = .discard ∧ r.localEffect = 0 ∧ r.lowerBound = 0 ∧
        r.upperBound = 0 ∧ r.depth = 0) := by
  have hdecided := hrs.decided r hr (hfinished r hr)
  refine ⟨?_, hdecided, fun hf => ⟨hdecided.trans ?_, (hrs.failed r hr hf).1⟩⟩
  · have hne : r.tag ≠ .pending := by simpa [Report.isFinished] using hfinished r hr
    cases htag : r.tag with
    | pending => exact absurd htag hne
    | apply => exact .inl rfl
    | discard => exact .inr rfl
  · simp [Policy.decide, hf]

/-- An exploration that returns has decided every report, once, as the policy says of it as it ends.
From then on the report stayed as it is, and no level tried its root again. Where the baseline builds
each verdict is recorded once. What failed is discarded, with nothing measured or estimated. -/
theorem verdicts_of_explore {result : ExplorationResult}
    (he : explore ctx fixes t = .ok result t') :
    ∃ course, exploreSeen ctx fixes t = .ok (course, result) t' ∧
      (∃ before, course = before ++ [.reports result.reports]) ∧
      (∀ rs, .reports rs ∈ course → rs.map Report.root = result.reports.map Report.root) ∧
      course.Steady ∧
      (∀ r ∈ result.reports, (r.tag = .apply ∨ r.tag = .discard) ∧
        r.tag = Policy.decide ctx.mode ctx.destructive r ∧
        (r.failed = true → r.tag = .discard ∧ r.localEffect = 0 ∧ r.lowerBound = 0 ∧
          r.upperBound = 0 ∧ r.depth = 0)) ∧
      ((∃ ds site, ctx.workspace.baseline t.site = .ok ds site) →
        ∃ vs, Told t t' vs ∧ vs.Perm (result.reports.map Report.verdict)) := by
  obtain ⟨course, hcourse⟩ := seen_of_explore he
  refine ⟨course, hcourse, ?_⟩
  rcases explore_completes hcourse with hcomplete | ⟨hfails, rfl, hhopeless⟩
  · obtain ⟨first, rest, rfl, hspoken, hleads⟩ := hcomplete.starts
    have hfollows : Follows first (.reports first :: rest) := ⟨keeps_refl _, hleads.follows⟩
    have hroots := roots_of_follows hfollows
    refine ⟨hcomplete.ends, fun rs hrs => ?_, steady_of_follows hfollows,
      fun r hr => policy_of_honest hleads.honest hcomplete.finished hr, fun _ => ?_⟩
    · obtain ⟨before, hbefore⟩ := hcomplete.ends
      rw [hroots rs hrs, hroots result.reports (by rw [hbefore]; simp)]
    · obtain ⟨vs, htold, hp⟩ := hleads.told
      refine ⟨vs, htold, ?_⟩
      have hall : result.reports.filter Report.isFinished = result.reports :=
        List.filter_eq_self.mpr hcomplete.finished
      rwa [hspoken, List.nil_append, spoken, hall] at hp
  · have hhonest : Honest ctx result.reports := by
      rw [hhopeless]
      exact honest_hopeless Fix.nodup_keys_dedupe
    have hfollows : Follows result.reports [.reports result.reports] := ⟨keeps_refl _, trivial⟩
    have hfinished : ∀ r ∈ result.reports, r.isFinished = true := by
      rw [hhopeless]
      intro r hr
      obtain ⟨root, -, rfl⟩ := List.mem_map.mp hr
      rfl
    refine ⟨⟨[], rfl⟩, by simp, steady_of_follows hfollows,
      fun r hr => policy_of_honest hhonest hfinished hr, ?_⟩
    rintro ⟨ds, site, hds⟩
    exact absurd hds (hfails ds site)

/-- One fix resolves the only diagnostic, and another breaks the build. -/
def mixed : Context (List Fix) :=
  { workspace := .inMemory fun held =>
      if Keyed.has Fix.key (Fix.ofField "B" "z").key held then .error (.refused "")
      else if Keyed.has Fix.key (Fix.ofField "A" "x").key held then .ok []
      else .ok [⟨"null", "", .ofType "A", [.ofField "A" "x"]⟩]
    regions := fun l => some [l.region], mode := .targetOnly, depth := .whole 1, retry := true
    declared := fun _ => true, link := fun _ f => [f], destructive := fun _ => false, modules := [] }

theorem verdicts_of_explore_mixed :
    ∃ (result : ExplorationResult) (t' : Trial (List Fix)) (course : Course),
      explore mixed (some [.ofField "A" "x", .ofField "B" "z"]) (Trial.start []) = .ok result t' ∧
      (result.reports.map fun r => (r.tag, r.failed)) = [(.apply, false), (.discard, true)] ∧
      (∃ before, course = before ++ [.reports result.reports]) ∧ course.Steady ∧
      ∃ vs, Told (Trial.start []) t' vs ∧ vs.length = 2 := by
  have htags : (match explore mixed (some [.ofField "A" "x", .ofField "B" "z"]) (Trial.start []) with
      | .ok result _ => result.reports.map fun r => (r.tag, r.failed)
      | .error _ _ => []) = [(.apply, false), (.discard, true)] := by
    decide +kernel
  cases he : explore mixed (some [.ofField "A" "x", .ofField "B" "z"]) (Trial.start []) with
  | error e t' => simp [he] at htags
  | ok result t' =>
    rw [he] at htags
    obtain ⟨course, -, hends, -, hsteady, -, htold⟩ := verdicts_of_explore he
    have hbuilds : ∃ ds site, mixed.workspace.baseline (Trial.start []).site = .ok ds site :=
      ⟨_, _, rfl⟩
    obtain ⟨vs, hvs, hp⟩ := htold hbuilds
    refine ⟨result, t', course, rfl, htags, hends, hsteady, vs, hvs, ?_⟩
    have hlength := congrArg List.length htags
    simpa [hp.length_eq] using hlength

end Exploration
end FixTrial
