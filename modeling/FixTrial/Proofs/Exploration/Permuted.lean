import FixTrial.Proofs.Exploration.Alone
import FixTrial.Proofs.Exploration.ByKey
import FixTrial.Proofs.Exploration.Growth

/-!
The order of the roots: explorations of the same roots in any order, where a build is a function of
the fixes that are in and regional, go level by level through the same reports.
-/
namespace FixTrial
open Act

/-- Two reports that say the same of one root, whatever stands for the fixes and diagnostics in
them. -/
structure Report.Matches (r s : Report) : Prop where
  root : r.root.key = s.root.key
  origin : r.root.origin = s.root.origin
  tree : Fix.keys r.tree = Fix.keys s.tree
  effect : r.localEffect = s.localEffect
  lower : r.lowerBound = s.lowerBound
  upper : r.upperBound = s.upperBound
  tag : r.tag = s.tag
  depth : r.depth = s.depth
  failed : r.failed = s.failed
  triggered : Fix.keys r.triggered = Fix.keys s.triggered
  added : Keyed.Same Diagnostic.key r.newDiagnostics s.newDiagnostics

namespace Report
variable {r s u : Report}

theorem Agrees.matches (h : r.Agrees s) : r.Matches s :=
  ⟨congrArg Fix.key h.root, congrArg Fix.origin h.root, congrArg Fix.keys h.tree, h.effect, h.lower,
    h.upper, h.tag, h.depth, h.failed, Fix.keys_congr h.triggered, h.added⟩

namespace Matches

theorem refl (r : Report) : r.Matches r :=
  ⟨rfl, rfl, rfl, rfl, rfl, rfl, rfl, rfl, rfl, rfl, .refl _⟩

theorem symm (h : r.Matches s) : s.Matches r :=
  ⟨h.root.symm, h.origin.symm, h.tree.symm, h.effect.symm, h.lower.symm, h.upper.symm, h.tag.symm,
    h.depth.symm, h.failed.symm, h.triggered.symm, h.added.symm⟩

theorem trans (h : r.Matches s) (h' : s.Matches u) : r.Matches u :=
  ⟨h.root.trans h'.root, h.origin.trans h'.origin, h.tree.trans h'.tree, h.effect.trans h'.effect,
    h.lower.trans h'.lower, h.upper.trans h'.upper, h.tag.trans h'.tag, h.depth.trans h'.depth,
    h.failed.trans h'.failed, h.triggered.trans h'.triggered, h.added.trans h'.added⟩

theorem isFinished_eq (h : r.Matches s) : r.isFinished = s.isFinished := by
  rw [isFinished, isFinished, h.tag]

end Matches
end Report

/-- Two nodes of which the same can be said. -/
structure Node.Matches (n m : Node) : Prop where
  keys : n.keys = m.keys
  failed : n.failed = m.failed
  effect : n.effect = m.effect
  added : Keyed.Same Diagnostic.key n.newDiagnostics m.newDiagnostics
  triggered : Fix.keys n.triggered = Fix.keys m.triggered

theorem Node.measure_matches {n m : Node} {base ds : List Diagnostic}
    {declared : Location → Bool} (hplace : ByPlace declared) (hkeys : n.keys = m.keys)
    (hfailed : n.failed = m.failed) (hn : n.regions.Nodup) (hm : m.regions.Nodup)
    (hregions : ∀ r, r ∈ n.regions ↔ r ∈ m.regions) :
    (n.measure ⟨⟨base⟩, ⟨ds⟩⟩ declared).Matches (m.measure ⟨⟨base⟩, ⟨ds⟩⟩ declared) := by
  refine ⟨hkeys, hfailed, ?_, fun k => ?_, Fix.keys_congr fun k => ?_⟩
  · have hset : n.regions.toFinset = m.regions.toFinset := by
      ext r
      rw [List.mem_toFinset, List.mem_toFinset, hregions]
    rw [effect_measure hn, effect_measure hm, hset]
  · change k ∈ (Bank.newDiagnosticsIn _ n.regions).map Diagnostic.key ↔
      k ∈ (Bank.newDiagnosticsIn _ m.regions).map Diagnostic.key
    rw [Bank.mem_newDiagnosticsIn, Bank.mem_newDiagnosticsIn, hregions]
  · have hown : k ∈ n.fixes.map Fix.key ↔ k ∈ m.fixes.map Fix.key := by
      rw [← Fix.mem_keys, ← Fix.mem_keys]
      change k ∈ n.keys ↔ k ∈ m.keys
      rw [hkeys]
    rw [mem_triggered_measure hplace, mem_triggered_measure hplace, hown]
    simp only [hregions]

namespace Exploration
open FixTrial.Graph
variable {ω : Type} {ctx : Context ω} {holds : ω → Finset FixKey}
  {V : Finset FixKey → List Diagnostic} {failing : Set FixKey} {before : Snapshot}
  {out : Finset FixKey → Option (List Diagnostic)} {rs rs' : Reports} {r s : Report}
  {settled settled' : List Fix} {final : Bool} {depth : Nat} {n m : Node} {root root' : Fix}
  {fixes fixes' : List Fix} {t t' : Trial ω} {k : FixKey}

theorem mem_regions_probe (hctx : ctx.ByKey) {x : Region} : x ∈ (probe ctx root fixes).regions ↔
    ∃ k ∈ (probe ctx root fixes).keys, x ∈ (ctx.regions ⟨k.place, ""⟩).getD [] := by
  have hplace : ∀ f : Fix, x ∈ (ctx.regions f.location).getD [] ↔
      x ∈ (ctx.regions ⟨f.key.place, ""⟩).getD [] :=
    fun f => hctx.regions f.location ⟨f.key.place, ""⟩ rfl x
  change x ∈ ctx.regions.ofFixes (probe ctx root fixes).fixes ↔ _
  rw [RegionSource.mem_ofFixes]
  simp only [Node.keys, Fix.mem_keys, List.mem_map, exists_exists_and_eq_and, hplace]

theorem keys_probe : (probe ctx root fixes).keys = insert root.key (Fix.keys fixes) := by
  ext k
  change k ∈ Fix.keys (Keyed.union Fix.key [root] fixes) ↔ _
  rw [Fix.mem_keys, Keyed.mem_keys_union, Finset.mem_insert, Fix.mem_keys, List.map_singleton,
    List.mem_singleton]

/-- What a try says depends on the keys of what is tried. -/
theorem tried_matches (hctx : ctx.ByKey) (out : Finset FixKey → Option (List Diagnostic))
    (before : Snapshot) (hroot : root.key = root'.key) (hfixes : Fix.keys fixes = Fix.keys fixes') :
    ((probe ctx root fixes).tried out before ctx.declared (probe ctx root fixes).keys).Matches
      ((probe ctx root' fixes').tried out before ctx.declared (probe ctx root' fixes').keys) := by
  have hkeys : (probe ctx root fixes).keys = (probe ctx root' fixes').keys := by
    rw [keys_probe, keys_probe, hroot, hfixes]
  unfold Node.tried
  rw [hkeys]
  cases out (probe ctx root' fixes').keys with
  | none => exact ⟨hkeys, rfl, rfl, .refl _, rfl⟩
  | some ds =>
    refine Node.measure_matches hctx.declared hkeys rfl RegionSource.nodup_ofFixes
      RegionSource.nodup_ofFixes fun x => ?_
    rw [mem_regions_probe hctx, mem_regions_probe hctx, hkeys]

theorem absorb_matches (hn : n.Matches m) (h : r.Matches s) (depth : Nat) :
    (Reports.absorb depth n r).Matches (Reports.absorb depth m s) := by
  unfold Reports.absorb
  rw [hn.failed]
  split
  · exact { h with failed := by rw [h.failed], triggered := rfl }
  · exact { h with
      tree := hn.keys
      effect := congrArg (Option.getD · 0) hn.effect
      depth := rfl
      triggered := hn.triggered
      added := hn.added }

theorem decide_matches (hctx : ctx.ByKey) (h : r.Matches s) :
    Policy.decide ctx.mode ctx.destructive r = Policy.decide ctx.mode ctx.destructive s := by
  have htarget : r.root.inTarget = s.root.inTarget := by
    rw [Fix.inTarget, Fix.inTarget, h.origin]
  unfold Policy.decide
  rw [h.failed, h.effect, h.lower, h.upper, htarget, hctx.destructive _ _ h.tree]

theorem keys_unfollowed (h : r.Matches s) (hs : Fix.keys settled = Fix.keys settled') :
    Fix.keys (Reports.unfollowed settled r) = Fix.keys (Reports.unfollowed settled' s) := by
  ext k
  simp only [Fix.mem_keys, mem_keys_unfollowed]
  simp only [← Fix.mem_keys, h.triggered, h.tree, hs]

theorem isEmpty_unfollowed (h : r.Matches s) (hs : Fix.keys settled = Fix.keys settled') :
    (Reports.unfollowed settled r).isEmpty = (Reports.unfollowed settled' s).isEmpty := by
  rw [Bool.eq_iff_iff, List.isEmpty_iff, List.isEmpty_iff, ← Fix.keys_eq_empty_iff,
    ← Fix.keys_eq_empty_iff, keys_unfollowed h hs]

theorem continues_matches (h : r.Matches s) (hs : Fix.keys settled = Fix.keys settled') :
    Continues settled r ↔ Continues settled' s := by
  unfold Continues
  rw [h.isFinished_eq, isEmpty_unfollowed h hs]

theorem settle_matches (hctx : ctx.ByKey) (h : r.Matches s)
    (hs : Fix.keys settled = Fix.keys settled') :
    (settle ctx final settled r).Matches (settle ctx final settled' s) := by
  have hverdict : verdict? ctx final settled r = verdict? ctx final settled' s := by
    unfold verdict?
    rw [h.isFinished_eq, decide_matches hctx h, isEmpty_unfollowed h hs]
  unfold settle
  rw [hverdict]
  split
  · exact h
  · exact { h with tag := rfl }

theorem keys_flatMap {link : Fix → List Fix} :
    k ∈ Fix.keys (fixes.flatMap link) ↔ ∃ f ∈ fixes, k ∈ Fix.keys (link f) := by
  simp only [Fix.mem_keys, List.map_flatMap, List.mem_flatMap]

/-- What goes in with fixes depends on their keys. -/
theorem keys_linked (hctx : ctx.ByKey) (h : Fix.keys fixes = Fix.keys fixes') :
    Fix.keys (fixes.flatMap (ctx.link before)) = Fix.keys (fixes'.flatMap (ctx.link before)) := by
  have hsub : ∀ {fs fs' : List Fix}, Fix.keys fs = Fix.keys fs' → ∀ k,
      k ∈ Fix.keys (fs.flatMap (ctx.link before)) →
        k ∈ Fix.keys (fs'.flatMap (ctx.link before)) := by
    intro fs fs' hfs k hk
    obtain ⟨f, hf, hk⟩ := keys_flatMap.mp hk
    have hmem : f.key ∈ Fix.keys fs' := hfs ▸ Fix.mem_keys.mpr (List.mem_map_of_mem hf)
    obtain ⟨f', hf', hkey⟩ := List.mem_map.mp (Fix.mem_keys.mp hmem)
    exact keys_flatMap.mpr ⟨f', hf', hctx.link before f' f hkey ▸ hk⟩
  ext k
  exact ⟨hsub h k, hsub h.symm k⟩

theorem keys_widened (hctx : ctx.ByKey) (h : r.Matches s)
    (hs : Fix.keys settled = Fix.keys settled') :
    Fix.keys (widened ctx before settled r) = Fix.keys (widened ctx before settled' s) := by
  ext k
  unfold widened
  rw [Fix.mem_keys, Fix.mem_keys, Keyed.mem_keys_union, Keyed.mem_keys_union]
  simp only [← Fix.mem_keys]
  rw [h.tree, keys_linked hctx (keys_unfollowed h hs)]

/-- What the next level makes of a report, if builds give `out`. -/
def followed (ctx : Context ω) (out : Finset FixKey → Option (List Diagnostic))
    (before : Snapshot) (depth : Nat) (settled : List Fix) (r : Report) : Report :=
  if Continues settled r then
    let n := probe ctx r.root (widened ctx before settled r)
    Reports.absorb depth (n.tried out before ctx.declared n.keys) r
  else r

theorem followed_matches (hctx : ctx.ByKey) (h : r.Matches s)
    (hs : Fix.keys settled = Fix.keys settled') (out : Finset FixKey → Option (List Diagnostic))
    (before : Snapshot) (depth : Nat) : (followed ctx out before depth settled r).Matches
      (followed ctx out before depth settled' s) := by
  have hc := continues_matches h hs
  unfold followed
  by_cases hr : Continues settled r
  · rw [if_pos hr, if_pos (hc.mp hr)]
    exact absorb_matches (tried_matches hctx out before h.root (keys_widened hctx h hs)) h depth
  · rw [if_neg hr, if_neg fun hs' => hr (hc.mpr hs')]
    exact h

/-- Reports of the same roots, each once, that say the same of each of them. -/
structure Reordered (rs rs' : Reports) : Prop where
  nodup : (rs.map fun r => r.root.key).Nodup
  nodup' : (rs'.map fun r => r.root.key).Nodup
  forth : ∀ r ∈ rs, ∃ s ∈ rs', r.Matches s
  back : ∀ s ∈ rs', ∃ r ∈ rs, r.Matches s

namespace Reordered

theorem nil : Reordered [] [] := ⟨List.nodup_nil, List.nodup_nil, by simp, by simp⟩

theorem symm (h : Reordered rs rs') : Reordered rs' rs := by
  refine ⟨h.nodup', h.nodup, fun s hs => ?_, fun r hr => ?_⟩
  · obtain ⟨r, hr, hm⟩ := h.back s hs
    exact ⟨r, hr, hm.symm⟩
  · obtain ⟨s, hs, hm⟩ := h.forth r hr
    exact ⟨s, hs, hm.symm⟩

theorem map {f f' : Report → Report} (h : Reordered rs rs') (hf : ∀ r, (f r).root = r.root)
    (hf' : ∀ r, (f' r).root = r.root)
    (hm : ∀ r ∈ rs, ∀ s ∈ rs', r.Matches s → (f r).Matches (f' s)) :
    Reordered (rs.map f) (rs'.map f') := by
  refine ⟨by rw [roots_of_map hf]; exact h.nodup, by rw [roots_of_map hf']; exact h.nodup',
    fun r' hr' => ?_, fun s' hs' => ?_⟩
  · obtain ⟨r, hr, rfl⟩ := List.mem_map.mp hr'
    obtain ⟨s, hs, hrs⟩ := h.forth r hr
    exact ⟨f' s, List.mem_map_of_mem hs, hm r hr s hs hrs⟩
  · obtain ⟨s, hs, rfl⟩ := List.mem_map.mp hs'
    obtain ⟨r, hr, hrs⟩ := h.back s hs
    exact ⟨f r, List.mem_map_of_mem hr, hm r hr s hs hrs⟩

theorem keys_settled (h : Reordered rs rs') : Fix.keys rs.settled = Fix.keys rs'.settled := by
  have hsub : ∀ {rs rs' : Reports}, Reordered rs rs' → ∀ k,
      k ∈ Fix.keys rs.settled → k ∈ Fix.keys rs'.settled := by
    intro rs rs' h k hk
    obtain ⟨r, hr, hf, hk⟩ := mem_keys_settled.mp (Fix.mem_keys.mp hk)
    obtain ⟨s, hs, hrs⟩ := h.forth r hr
    rw [← Fix.mem_keys, hrs.tree, Fix.mem_keys] at hk
    exact Fix.mem_keys.mpr (mem_keys_settled.mpr ⟨s, hs, hrs.isFinished_eq ▸ hf, hk⟩)
  ext k
  exact ⟨hsub h k, hsub h.symm k⟩

theorem settle (hctx : ctx.ByKey) (h : Reordered rs rs') (final : Bool) :
    Reordered (rs.map (settle ctx final rs.settled)) (rs'.map (settle ctx final rs'.settled)) :=
  h.map (fun _ => root_settle) (fun _ => root_settle) fun _ _ _ _ hm =>
    settle_matches hctx hm h.keys_settled

/-- Neither has a report, or both have. -/
theorem size_firstLevel
    (h : Reordered (firstLevel ctx before fixes).2 (firstLevel ctx before fixes').2)
    (h0 : (firstLevel ctx before fixes).1.size = 0) :
    (firstLevel ctx before fixes').1.size = 0 := by
  have hnil : (firstLevel ctx before fixes').2 = [] := by
    rw [List.eq_nil_iff_forall_not_mem]
    intro s hs
    obtain ⟨r, hr, -⟩ := h.back s hs
    rw [reports_of_size_zero h0] at hr
    cases hr
  have hlength : (firstLevel ctx before fixes').2.length = (firstLevel ctx before fixes').1.size :=
    List.length_map _
  rw [← hlength, hnil, List.length_nil]

/-- Neither has anything to follow up, or both have. -/
theorem size_eq_zero (h : Reordered rs rs') (h0 : (nextLevel ctx before rs).size = 0) :
    (nextLevel ctx before rs').size = 0 := by
  rw [size_nextLevel_eq_zero] at h0 ⊢
  intro s hs hc
  obtain ⟨r, hr, hm⟩ := h.back s hs
  exact h0 r hr ((continues_matches hm h.keys_settled).mpr hc)

end Reordered

theorem decide_ready {clean : ω → Prop} (ctx : Context ω) (ht : Ready clean before t)
    (final : Bool) (rs : Reports) :
    ∃ t₁, decideReports ctx final rs t = .ok (rs.map (settle ctx final rs.settled)) t₁ ∧
      Ready clean before t₁ :=
  ⟨_, decideEach_eq, ht.clean, ht.before⟩

section
variable (hw : ctx.workspace.Functional holds V failing)
  (hlocal : Regional ctx.regions V failing) (hctx : ctx.ByKey) (hretry : ctx.retry = true)
include hw hlocal hctx hretry

/-- A level of follow-ups makes of each report what it would if the report were the only one. -/
theorem level_followed (hrs : (rs.map fun r => r.root.key).Nodup)
    (ht : Ready (fun s => holds s = ∅) before t) (depth : Nat) :
    ∃ h t₁, level ctx (nextLevel ctx before rs) depth rs t =
        .ok (h, rs.map (refresh h depth)) t₁ ∧
      Ready (fun s => holds s = ∅) before t₁ ∧
      ∀ r ∈ rs, (refresh h depth r).Matches
        (followed ctx (outcome V failing) before depth rs.settled r) := by
  have hg : (nextLevel ctx before rs).Arena := arena_of_built built_nextLevel
  obtain ⟨h, t₁, hlevel, ht₁, hp⟩ :=
    level_passed hw.repeatable hg (fresh_nextLevel ctx before hrs) ht depth rs
  refine ⟨h, t₁, hlevel, ht₁, fun r hr => ?_⟩
  unfold followed
  by_cases hc : Continues rs.settled r
  · rw [if_pos hc]
    obtain ⟨i, hi⟩ := node_of_continues ctx before hrs hr hc
    obtain ⟨m, hm, hmeasured⟩ := passed_probe hlocal hctx.declared hretry hg hp hi
    rw [refresh_of_find? hm]
    exact (agrees_absorb hmeasured depth r).matches
  · rw [if_neg hc]
    have hnone : h.find? r.root = none := by
      by_contra hfound
      obtain ⟨m, hm⟩ := Option.ne_none_iff_exists'.mp hfound
      exact hc (continues_of_find? hrs hp.bare hr hm).1
    rw [refresh, hnone]
    exact .refl r

/-- The next level of the same reports in another order measures the same. -/
theorem level_reordered (hrs : Reordered rs rs') (ht : Ready (fun s => holds s = ∅) before t)
    (ht' : Ready (fun s => holds s = ∅) before t') (depth : Nat) :
    ∃ p p' t₁ t₁', level ctx (nextLevel ctx before rs) depth rs t = .ok p t₁ ∧
      level ctx (nextLevel ctx before rs') depth rs' t' = .ok p' t₁' ∧
      Ready (fun s => holds s = ∅) before t₁ ∧ Ready (fun s => holds s = ∅) before t₁' ∧
      Reordered p.2 p'.2 := by
  obtain ⟨h, t₁, hl, ht₁, halone⟩ := level_followed hw hlocal hctx hretry hrs.nodup ht depth
  obtain ⟨h', t₁', hl', ht₁', halone'⟩ := level_followed hw hlocal hctx hretry hrs.nodup' ht' depth
  refine ⟨_, _, t₁, t₁', hl, hl', ht₁, ht₁', ?_⟩
  refine hrs.map (fun _ => root_refresh) (fun _ => root_refresh) fun r hr s hs hm => ?_
  have hfollowed :=
    followed_matches hctx hm hrs.keys_settled (outcome V failing) before depth
  exact ((halone r hr).trans hfollowed).trans (halone' s hs).symm

theorem descend_reordered (budget : Nat) (hrs : Reordered rs rs')
    (ht : Ready (fun s => holds s = ∅) before t) (ht' : Ready (fun s => holds s = ∅) before t')
    (depth : Nat) :
    ∃ last last' reached t₁ t₁', descend ctx depth rs budget t = .ok (last, reached) t₁ ∧
      descend ctx depth rs' budget t' = .ok (last', reached) t₁' ∧ Reordered last last' := by
  induction budget generalizing depth rs rs' t t' with
  | zero => exact ⟨rs, rs', depth - 1, t, t', rfl, rfl, hrs⟩
  | succ budget ih =>
    unfold descend
    rw [get_bind, get_bind]
    dsimp only
    rw [ht.before, ht'.before]
    -- a report continues in both orders or in neither, so that both descents end at one level
    by_cases h0 : (nextLevel ctx before rs).size = 0
    · rw [if_pos h0, if_pos (hrs.size_eq_zero h0)]
      exact ⟨rs, rs', depth - 1, t, t', rfl, rfl, hrs⟩
    · rw [if_neg h0, if_neg fun h => h0 (hrs.symm.size_eq_zero h), log_bind, log_bind]
      obtain ⟨p, p', t₁, t₁', hl, hl', ht₁, ht₁', hp⟩ := level_reordered hw hlocal hctx hretry hrs
        (ready_log ht (.level depth (nextLevel ctx before rs).size))
        (ready_log ht' (.level depth (nextLevel ctx before rs').size)) depth
      obtain ⟨t₂, hd, ht₂⟩ := decide_ready ctx ht₁ false p.2
      obtain ⟨t₂', hd', ht₂'⟩ := decide_ready ctx ht₁' false p'.2
      rw [bind_of_ok hl, bind_of_ok hl', bind_of_ok hd, bind_of_ok hd']
      exact ih (hp.settle hctx false) ht₂ ht₂' (depth + 1)

/-- The verdicts after the first level, the levels below it, and the last verdicts. -/
theorem below_reordered {D : Nat} (hD : ctx.depth.levels? = some D) (hrs : Reordered rs rs')
    (ht : Ready (fun s => holds s = ∅) before t) (ht' : Ready (fun s => holds s = ∅) before t') :
    ∃ result result' t₁ t₁',
      (decideReports ctx ctx.depth.isZero rs >>= follow ctx) t = .ok result t₁ ∧
      (decideReports ctx ctx.depth.isZero rs' >>= follow ctx) t' = .ok result' t₁' ∧
      Reordered result.reports result'.reports := by
  obtain ⟨t₁, hdec, ht₁⟩ := decide_ready ctx ht ctx.depth.isZero rs
  obtain ⟨t₁', hdec', ht₁'⟩ := decide_ready ctx ht' ctx.depth.isZero rs'
  obtain ⟨last, last', reached, t₂, t₂', hd, hd', hlast⟩ := descend_reordered hw hlocal hctx hretry
    D (hrs.settle hctx ctx.depth.isZero) ht₁ ht₁' 1
  obtain ⟨result, t₃, hf⟩ := finish_returns ctx last reached t₂
  obtain ⟨result', t₃', hf'⟩ := finish_returns ctx last' reached t₂'
  rw [bind_of_ok hdec, bind_of_ok hdec', follow_of_descend hD hd, follow_of_descend hD hd']
  refine ⟨result, result', t₃, t₃', hf, hf', ?_⟩
  rw [(finish_returned hf).1, (finish_returned hf').1]
  exact hlast.settle hctx true

end

theorem start_matches (hroot : root.key = root'.key) (horigin : root.origin = root'.origin)
    (hfixes : Fix.keys fixes = Fix.keys fixes') :
    (Report.start root fixes).Matches (Report.start root' fixes') := by
  refine ⟨hroot, horigin, ?_, rfl, rfl, rfl, rfl, rfl, rfl, rfl, .refl _⟩
  ext k
  change k ∈ Fix.keys (Keyed.insert Fix.key fixes root) ↔
    k ∈ Fix.keys (Keyed.insert Fix.key fixes' root')
  rw [Fix.mem_keys, Fix.mem_keys, Keyed.mem_keys_insert, Keyed.mem_keys_insert, hroot]
  simp only [← Fix.mem_keys, hfixes]

/-- The first reports of the same roots. -/
theorem firstLevel_reordered (hctx : ctx.ByKey) (hroots : (fixes.map Fix.key).Nodup)
    (hroots' : (fixes'.map Fix.key).Nodup)
    (hforth : ∀ f ∈ fixes, ∃ f' ∈ fixes', f.key = f'.key ∧ f.origin = f'.origin)
    (hback : ∀ f' ∈ fixes', ∃ f ∈ fixes, f.key = f'.key ∧ f.origin = f'.origin) :
    Reordered (firstLevel ctx before fixes).2 (firstLevel ctx before fixes').2 := by
  have hstart : ∀ f f' : Fix, f.key = f'.key → f.origin = f'.origin →
      (Report.start f (lone ctx before f).fixes).Matches
        (Report.start f' (lone ctx before f').fixes) := by
    intro f f' hkey horigin
    refine start_matches hkey horigin ?_
    change (probe ctx f (ctx.link before f)).keys = (probe ctx f' (ctx.link before f')).keys
    rw [keys_probe, keys_probe, hkey, hctx.link before f f' hkey]
  refine ⟨honest_first.roots_nodup, honest_first.roots_nodup, ?_, ?_⟩
  all_goals
    rw [reports_firstLevel hroots, reports_firstLevel hroots']
    intro r hr
    obtain ⟨f, hf, rfl⟩ := List.mem_map.mp hr
  · obtain ⟨f', hf', hkey, horigin⟩ := hforth f hf
    exact ⟨_, List.mem_map_of_mem hf', hstart f f' hkey horigin⟩
  · obtain ⟨f', hf', hkey, horigin⟩ := hback f hf
    exact ⟨_, List.mem_map_of_mem hf', hstart f' f hkey horigin⟩

/-- A first pass over the same roots, in whatever order. -/
theorem first_reordered {h h' : Graph} (hlocal : Regional ctx.regions V failing)
    (hctx : ctx.ByKey) (hretry : ctx.retry = true) (hroots : (fixes.map Fix.key).Nodup)
    (hroots' : (fixes'.map Fix.key).Nodup)
    (hp : Passed ctx (outcome V failing) before (firstLevel ctx before fixes).1 h)
    (hp' : Passed ctx (outcome V failing) before (firstLevel ctx before fixes').1 h')
    (hrs : Reordered (firstLevel ctx before fixes).2 (firstLevel ctx before fixes').2) :
    Reordered ((firstLevel ctx before fixes).2.map (refresh h 0))
      ((firstLevel ctx before fixes').2.map (refresh h' 0)) := by
  refine hrs.map (fun _ => root_refresh) (fun _ => root_refresh) fun r hr s hs hm => ?_
  rw [reports_firstLevel hroots] at hr
  rw [reports_firstLevel hroots'] at hs
  obtain ⟨f, hf, rfl⟩ := List.mem_map.mp hr
  obtain ⟨f', hf', rfl⟩ := List.mem_map.mp hs
  have hkey : f.key = f'.key := hm.root
  have hfirst := (agrees_first hlocal hctx.declared hretry hroots hp hf).matches
  have hfirst' := (agrees_first hlocal hctx.declared hretry hroots' hp' hf').matches
  have htried := tried_matches hctx (outcome V failing) before hkey (hctx.link before f f' hkey)
  exact (hfirst.trans (absorb_matches htried hm 0)).trans hfirst'.symm

theorem exploreFrom_reordered {D : Nat} (hw : ctx.workspace.Functional holds V failing)
    (hlocal : Regional ctx.regions V failing) (hctx : ctx.ByKey) (hretry : ctx.retry = true)
    (hmodules : ctx.modules = []) (hD : ctx.depth.levels? = some D) (hfixes : fixes.Perm fixes')
    (ht : Ready (fun s => holds s = ∅) before t) (ht' : Ready (fun s => holds s = ∅) before t') :
    ∃ result result' t₁ t₁', exploreFrom ctx before (some fixes) t = .ok result t₁ ∧
      exploreFrom ctx before (some fixes') t' = .ok result' t₁' ∧
      Reordered result.reports result'.reports := by
  have hrs : Reordered (firstLevel ctx before (Fix.dedupe fixes)).2
      (firstLevel ctx before (Fix.dedupe fixes')).2 := by
    refine firstLevel_reordered hctx Fix.nodup_keys_dedupe Fix.nodup_keys_dedupe
      (fun f hf => Fix.dedupe_of_perm hfixes hf) fun f' hf' => ?_
    obtain ⟨f, hf, hkey, horigin⟩ := Fix.dedupe_of_perm hfixes.symm hf'
    exact ⟨f, hf, hkey.symm, horigin.symm⟩
  by_cases h0 : (firstLevel ctx before (Fix.dedupe fixes)).1.size = 0
  · obtain ⟨result, t₁, hrun, hnil⟩ := exploreFrom_empty (some fixes) h0 t
    obtain ⟨result', t₁', hrun', hnil'⟩ :=
      exploreFrom_empty (some fixes') (hrs.size_firstLevel h0) t'
    exact ⟨result, result', t₁, t₁', hrun, hrun', by rw [hnil, hnil']; exact .nil⟩
  · obtain ⟨h, u, hu, hp, hrun⟩ := exploreFrom_passed hw.repeatable hmodules (some fixes) rfl h0
      Fix.nodup_keys_dedupe ht
    obtain ⟨h', u', hu', hp', hrun'⟩ := exploreFrom_passed hw.repeatable hmodules (some fixes') rfl
      (fun h => h0 (hrs.symm.size_firstLevel h)) Fix.nodup_keys_dedupe ht'
    have hfirst := first_reordered hlocal hctx hretry Fix.nodup_keys_dedupe Fix.nodup_keys_dedupe
      hp hp' hrs
    rw [hrun, hrun']
    exact below_reordered hw hlocal hctx hretry hD hfirst hu hu'

/-- Where a build is a function of the fixes that are in, fails where these meet a fixed set, and
depends region by region on what impacts the region, and where all else that is asked about a fix is
answered by its key, explorations of the same roots in any order return, and end with the same
report for each root, however deep they go. -/
theorem explore_permuted {D : Nat} (hw : ctx.workspace.Functional holds V failing)
    (hlocal : Regional ctx.regions V failing) (hctx : ctx.ByKey) (hretry : ctx.retry = true)
    (hmodules : ctx.modules = []) (hD : ctx.depth.levels? = some D) (hfixes : fixes.Perm fixes')
    (ht : holds t.site.world = ∅) (ht' : holds t'.site.world = ∅) :
    ∃ result result' t₁ t₁', explore ctx (some fixes) t = .ok result t₁ ∧
      explore ctx (some fixes') t' = .ok result' t₁' ∧
      Fix.keys (result.reports.map Report.root) = Fix.keys fixes ∧
      Reordered result.reports result'.reports := by
  obtain ⟨s, hs, he⟩ := explore_ready hw.repeatable outcome_empty ht (some fixes)
  obtain ⟨s', hs', he'⟩ := explore_ready hw.repeatable outcome_empty ht' (some fixes')
  obtain ⟨result, result', t₁, t₁', hrun, hrun', hreordered⟩ :=
    exploreFrom_reordered hw hlocal hctx hretry hmodules hD hfixes hs hs'
  rw [← he] at hrun
  rw [← he'] at hrun'
  refine ⟨result, result', t₁, t₁', hrun, hrun', ?_, hreordered⟩
  rw [roots_of_explore hD hrun, Fix.keys_dedupe]

/-- Fields that impact their types, followed up twice at most. -/
def unlikeDeep : Context (List Fix) := { unlike with depth := .whole 2 }

theorem byKey_unlikeDeep : unlikeDeep.ByKey := by
  refine ⟨fun l l' h r => ?_, fun _ _ _ => rfl, fun _ f f' h => ?_, fun _ _ _ => rfl⟩
  · simp [unlikeDeep, unlike, h]
  · simp [unlikeDeep, unlike, Fix.keys, h]

/-- Two of four roots share a region, one is followed up, and one does not build. The other two are
put in with a different one of the first two as the order is reversed. -/
theorem explore_permuted_unlike :
    ∃ result result' t₁ t₁',
      explore unlikeDeep
        (some [.ofField "A" "x", .ofField "A" "v", .ofField "B" "y", .ofField "C" "w"])
        (Trial.start []) = .ok result t₁ ∧
      explore unlikeDeep
        (some [.ofField "C" "w", .ofField "B" "y", .ofField "A" "v", .ofField "A" "x"])
        (Trial.start []) = .ok result' t₁' ∧
      (result.reports.map fun r => (r.depth, r.tag)) =
        [(0, .apply), (0, .apply), (1, .discard), (0, .discard)] ∧
      Reordered result.reports result'.reports := by
  have hrun : (match explore unlikeDeep
      (some [.ofField "A" "x", .ofField "A" "v", .ofField "B" "y", .ofField "C" "w"])
      (Trial.start []) with
      | .ok result _ => result.reports.map fun r => (r.depth, r.tag)
      | .error _ _ => []) = [(0, .apply), (0, .apply), (1, .discard), (0, .discard)] := by
    decide +kernel
  have hperm : [Fix.ofField "A" "x", .ofField "A" "v", .ofField "B" "y", .ofField "C" "w"].Perm
      [.ofField "C" "w", .ofField "B" "y", .ofField "A" "v", .ofField "A" "x"] :=
    (List.reverse_perm _).symm
  have hfunctional : unlikeDeep.workspace.Functional Fix.keys unlikeBuild
      {k | k = (Fix.ofField "C" "w").key} := functional_unlike
  have hempty : Fix.keys (Trial.start ([] : List Fix)).site.world = ∅ := rfl
  obtain ⟨result, result', t₁, t₁', he, he', -, hreordered⟩ :=
    explore_permuted (D := 2) hfunctional regional_unlike byKey_unlikeDeep rfl rfl rfl hperm
      hempty hempty
  rw [he] at hrun
  exact ⟨result, result', t₁, t₁', he, he', hrun, hreordered⟩

end Exploration
end FixTrial
