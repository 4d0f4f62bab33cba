import FixTrial.Proofs.Exploration.Schedule
import FixTrial.Proofs.Exploration.Twins
import FixTrial.Proofs.Workspace.Watched

/-!
What an exploration leaves in a tracked workspace. Every batch is taken out again but for the fixes
that could not be, and these stay until a later batch that holds them is rid of them.
-/
namespace FixTrial
open Act

namespace Watched
open Backend
variable {ω : Type} {b : Backend ω} {target verify : Act ω (List Diagnostic)} {fixes : List Fix}
  {x y : Tracked (Watched ω)}

/-- Between two runs what is in is what was left over. -/
def Settled (x : Tracked (Watched ω)) : Prop :=
  ∀ k, k ∈ x.injected.map Fix.key ↔ Deed.leftover x.world.deeds k

/-- A tracker `y` that came from `x` by a batch which was put in, or in part, and may be built. -/
structure Loaded (fixes : List Fix) (x y : Tracked (Watched ω)) : Prop where
  fits : Deed.Fit fixes x.world.deeds y.world.deeds
  leftover : Deed.leftover y.world.deeds = Deed.leftover x.world.deeds
  stays : ∀ k ∈ x.injected.map Fix.key, k ∈ y.injected.map Fix.key
  comes : ∀ k ∈ y.injected.map Fix.key, k ∈ x.injected.map Fix.key ∨ k ∈ fixes.map Fix.key

/-- Where the fixes are in and nothing else but the leftovers, a build fits. -/
theorem loaded_build (hdeeds : y.world.deeds = x.world.deeds) (hx : Settled x)
    (hheld : ∀ k, k ∈ y.injected.map Fix.key ↔
      k ∈ x.injected.map Fix.key ∨ k ∈ fixes.map Fix.key)
    (verify : Act ω (List Diagnostic)) : Loaded fixes x (final (build verify y)) := by
  obtain ⟨world, hworld⟩ := final_build verify y
  rw [hworld, hdeeds]
  refine ⟨Deed.fit_snoc Deed.fit_refl ?_, Deed.leftover_built _, ?_, ?_⟩
  · intro held heq k
    cases heq
    rw [hheld, hx k, or_comm]
  · intro k hk
    exact (hheld k).mpr (.inl hk)
  · intro k hk
    exact (hheld k).mp hk

/-- A batch is built with all of it in. Where it could not be put in it is not built. -/
theorem loaded_batch (target verify : Act ω (List Diagnostic)) (hb : b.Expected) (hx : Settled x)
    (fixes : List Fix) :
    Loaded fixes x
      (final (Batch.build (b.watchedWorkspace target) (build verify) (Fix.dedupe fixes) x)) := by
  have hkeys : ∀ k, k ∈ (Fix.dedupe (Fix.dedupe fixes)).map Fix.key ↔ k ∈ fixes.map Fix.key := by
    intro k
    exact (Fix.dedupe_same k).trans (Fix.dedupe_same k)
  have hkeeps := keeps_injectEach b (Fix.dedupe (Fix.dedupe fixes)) x
  unfold Batch.build
  rcases injectEach_cases (expected_watched hb) x with ⟨y, hinject, hheld⟩ | ⟨e, y, hinject, hheld⟩
  · rw [hinject] at hkeeps
    have hrun : (b.watchedWorkspace target).inject (Fix.dedupe fixes) x = .ok () y := hinject
    rw [bind_of_ok hrun]
    refine loaded_build hkeeps hx (fun k => ?_) verify
    rw [← hkeys]
    exact hheld k
  · rw [hinject] at hkeeps
    have hrun : (b.watchedWorkspace target).inject (Fix.dedupe fixes) x =
        .error (.workspace e) y := hinject
    rw [bind_of_error hrun]
    change y.world.deeds = x.world.deeds at hkeeps
    refine ⟨?_, ?_, fun k => (hheld k).1, fun k hk => ?_⟩
    · rw [final, hkeeps]
      exact Deed.fit_refl
    · rw [final, hkeeps]
    · rw [← hkeys]
      exact (hheld k).2 hk

/-- The revert takes out, of the batch, everything but what is left over from now on. -/
theorem settled_revert (target : Act ω (List Diagnostic)) (hb : b.Expected) (hx : Settled x)
    (hy : Loaded fixes x y) :
    ∃ z, final ((b.watchedWorkspace target).revert (Fix.dedupe fixes) y) = z ∧ Settled z ∧
      Deed.Fit fixes x.world.deeds z.world.deeds := by
  have hn : ((Fix.dedupe fixes).map Fix.key).Nodup := Fix.nodup_keys_dedupe
  obtain ⟨attempts, z, hrevert, hattempts, hremovals, hheld⟩ :=
    revertEach_removals (expected_watched hb) hn y
  have hfinal : final ((b.watchedWorkspace target).revert (Fix.dedupe fixes) y) = z := by
    refine (final_revert (b := b.watched)).trans ?_
    rw [Fix.dedupe_of_nodup hn, hrevert]
    rfl
  have hdeeds : z.world.deeds = y.world.deeds ++ Deed.removals attempts :=
    deeds_of_removals hremovals
  have hkeys : (attempts.map fun attempt => attempt.1.key) =
      ((Fix.dedupe fixes).filter y.holds).map Fix.key := by
    rw [← hattempts, List.map_map]
    rfl
  have hattempted : ∀ k, k ∈ (attempts.map fun attempt => attempt.1.key) ↔
      k ∈ fixes.map Fix.key ∧ k ∈ y.injected.map Fix.key := by
    intro k
    rw [hkeys, Tracked.mem_keys_filter_holds, Fix.dedupe_same k]
  have honce : (attempts.map fun attempt => attempt.1.key).Nodup := by
    rw [hkeys]
    exact (List.filter_sublist.map Fix.key).nodup hn
  refine ⟨z, hfinal, ?_, ?_⟩
  · intro k
    rw [hheld, hdeeds, Deed.leftover_removals honce, hattempted, hy.leftover, ← hx k,
      Fix.dedupe_same k, or_comm]
    refine or_congr_right ⟨?_, ?_⟩
    · rintro ⟨hin, hout⟩
      exact ⟨(hy.comes k hin).resolve_right hout, fun h => hout h.1⟩
    · rintro ⟨hold, hout⟩
      exact ⟨hy.stays k hold, fun h => hout ⟨h, hy.stays k hold⟩⟩
  · rw [hdeeds]
    exact Deed.fit_removals hy.fits attempts

/-- A batch whose edits and build end only in workspace errors is put in and built so. -/
theorem expected_batch (target : Act ω (List Diagnostic)) (hb : b.Expected)
    (hv : ∀ e, verify.Raises e → e.Expected) (batch : List Fix) {e : Fault}
    (h : (Batch.build (b.watchedWorkspace target) (build verify) batch).Raises e) : e.Expected := by
  obtain ⟨x, x', h⟩ := h
  unfold Batch.build at h
  rcases injectEach_cases (expected_watched hb) x with ⟨y, hinject, -⟩ | ⟨we, y, hinject, -⟩
  · have hrun : (b.watchedWorkspace target).inject batch x = .ok () y := hinject
    rw [bind_of_ok hrun] at h
    exact hv e (raises_of_build ⟨y, x', h⟩)
  · have hrun : (b.watchedWorkspace target).inject batch x = .error (.workspace we) y := hinject
    rw [bind_of_error hrun] at h
    cases h
    exact ⟨we, rfl⟩

/-- Any run that starts with just the leftovers in ends so, and its builds fit. -/
theorem settled_run {run : SiteRun (Tracked (Watched ω))} (hb : b.Expected)
    (hbuild : ∃ verify, run.verify = build verify ∧ ∀ e, verify.Raises e → e.Expected)
    (hcame : run.Came (b.watchedWorkspace target)) (hstart : Settled run.start.world) :
    Settled run.finish.world ∧
      Deed.Fit run.fixes run.start.world.world.deeds run.finish.world.world.deeds := by
  obtain ⟨verify, hverify, hv⟩ := hbuild
  unfold SiteRun.Came at hcame
  unfold SiteRun.fixes
  cases hbatch : run.batch with
  | none =>
    have hloaded : Loaded [] run.start.world (final (build verify run.start.world)) :=
      loaded_build rfl hstart (by simp) verify
    rw [hbatch, Site.final_holding, hverify] at hcame
    rw [← hcame]
    refine ⟨fun k => ?_, hloaded.fits⟩
    rw [hloaded.leftover, ← hstart k]
    exact ⟨fun hk => (hloaded.comes k hk).resolve_right (by simp), hloaded.stays k⟩
  | some fixes =>
    rw [hbatch, hverify] at hcame
    obtain ⟨β, m, hrun⟩ := hcame
    rw [Batch.site_of_run fun e => expected_batch target hb hv _] at hrun
    obtain ⟨z, hrevert, hz, hfits⟩ :=
      settled_revert target hb hstart (loaded_batch target verify hb hstart fixes)
    rw [← hrun, hrevert]
    exact ⟨hz, hfits⟩

end Watched

namespace Context
variable {ω : Type}

/-- The exploration of a workspace that a backend edits, under a tracker. -/
def tracked (ctx : Context ω) (b : Backend ω) : Context (Tracked ω) :=
  ctx.on (b.workspace ctx.workspace.verify)
    (ctx.modules.map fun m => ⟨m.name, Tracked.inside m.verify⟩)

/-- The same exploration, with a record of what is done to the workspace. -/
def watched (ctx : Context ω) (b : Backend ω) : Context (Tracked (Watched ω)) :=
  ctx.on (b.watchedWorkspace ctx.workspace.verify)
    (ctx.modules.map fun m => ⟨m.name, Watched.build m.verify⟩)

/-- Builds end in no fault but workspace errors. -/
structure Expected (ctx : Context ω) : Prop where
  target : ∀ e, ctx.workspace.verify.Raises e → e.Expected
  modules : ∀ m ∈ ctx.modules, ∀ e, m.verify.Raises e → e.Expected

end Context

namespace Watched
variable {ω : Type} {ctx : Context ω} {b : Backend ω} {t : Trial (Tracked ω)}

/-- The trial of a watched workspace without its record. -/
def eraseTrial (t : Trial (Tracked (Watched ω))) : Trial (Tracked ω) :=
  { t with site := ⟨erase t.site.world, t.site.locked⟩ }

/-- A trial of a workspace nothing was done to yet, watched from now on. -/
def watchTrial (t : Trial (Tracked ω)) : Trial (Tracked (Watched ω)) :=
  { t with site := ⟨⟨⟨t.site.world.world, []⟩, t.site.world.injected⟩, t.site.locked⟩ }

/-- A watched trial and the trial that it watches. -/
def TrialShows (t' : Trial (Tracked (Watched ω))) (t : Trial (Tracked ω)) : Prop := t = eraseTrial t'

/-- The runs of a watched exploration. -/
def runs (ctx : Context ω) (b : Backend ω) (fixes : Option (List Fix)) (t : Trial (Tracked ω)) :
    List (SiteRun (Tracked (Watched ω))) :=
  (Schedule.explore (ctx.watched b) fixes).runs (watchTrial t)

theorem buildsAlike_watched (b : Backend ω) (target verify : Act ω (List Diagnostic)) :
    Exploration.BuildsAlike TrialShows (fun _ => True) (fun _ => True) (b.watchedWorkspace target)
      (b.workspace target) (build verify) (Tracked.inside verify) := by
  constructor
  · rintro β fixes m - - t' _ rfl
    obtain ⟨run, y, s, hy, hwatched, hplain⟩ :=
      Batch.run_alike (s := erase t'.site.world) (alike_batch b target verify (Fix.dedupe fixes))
        (alike_revert b target (Fix.dedupe fixes)) m t'.site.locked ⟨rfl, rfl⟩
    have hsite : (eraseTrial t').site = ⟨erase t'.site.world, t'.site.locked⟩ := rfl
    have hsite' : t'.site = ⟨t'.site.world, t'.site.locked⟩ := rfl
    unfold Trial.batch
    rw [hsite, hplain, hsite', hwatched]
    obtain rfl := eq_erase_of_over hy
    exact .ok ⟨rfl, fun _ _ => trivial⟩ rfl
  · rintro t' _ rfl
    have hv := alike_build verify t'.site.world (erase t'.site.world) ⟨rfl, rfl⟩
    unfold Trial.onSite Site.holding eraseTrial
    dsimp only
    generalize build verify t'.site.world = r' at hv ⊢
    generalize Tracked.inside verify (erase t'.site.world) = r at hv ⊢
    cases hv with
    | ok hds hy =>
      obtain rfl := eq_erase_of_over hy
      exact .ok hds rfl
    | error he hy =>
      obtain rfl := eq_erase_of_over hy
      exact .error (.inl he) rfl

theorem twins_watched (ctx : Context ω) (b : Backend ω) :
    Exploration.Twins TrialShows (fun _ => True) (fun _ => True) (ctx.watched b).workspace
      (ctx.tracked b).workspace (ctx.watched b).modules (ctx.tracked b).modules := by
  constructor
  · rintro t' _ rfl
    exact ⟨rfl, rfl, rfl, rfl⟩
  · rintro t' _ rfl _ _ _ _
    rfl
  · rintro t' _ e _ rfl
    rfl
  · exact buildsAlike_watched b ctx.workspace.verify ctx.workspace.verify
  · refine List.forall₂_map_left_iff.mpr (List.forall₂_map_right_iff.mpr ?_)
    exact List.forall₂_same.mpr fun m _ => ⟨rfl, buildsAlike_watched b ctx.workspace.verify m.verify⟩

/-- A watched exploration ends as the one that is not watched. -/
theorem explore_watched (ctx : Context ω) (b : Backend ω) (fixes : Option (List Fix))
    (t : Trial (Tracked ω)) :
    ∃ t', final (Exploration.explore (ctx.watched b) fixes (watchTrial t)) = t' ∧
      ((∃ result,
          Exploration.explore (ctx.watched b) fixes (watchTrial t) = .ok result t' ∧
          Exploration.explore (ctx.tracked b) fixes t = .ok result (eraseTrial t')) ∨
        ∃ e,
          Exploration.explore (ctx.watched b) fixes (watchTrial t) = .error e t' ∧
          Exploration.explore (ctx.tracked b) fixes t = .error e (eraseTrial t')) := by
  have halike : Alike TrialShows (fun _ => True) (Both fun _ => True)
      (Exploration.explore ((ctx.tracked b).on (ctx.watched b).workspace (ctx.watched b).modules)
        fixes)
      (Exploration.explore ((ctx.tracked b).on (ctx.tracked b).workspace (ctx.tracked b).modules)
        fixes) := by
    refine (twins_watched ctx b).explore ?_ (fun _ => trivial) fixes
    rintro t' _ e rfl
    rfl
  have hends : Ends TrialShows (fun _ => True) (Both fun _ => True)
      (Exploration.explore (ctx.watched b) fixes (watchTrial t))
      (Exploration.explore (ctx.tracked b) fixes t) := halike (watchTrial t) t rfl
  generalize Exploration.explore (ctx.watched b) fixes (watchTrial t) = r' at hends ⊢
  generalize Exploration.explore (ctx.tracked b) fixes t = r at hends ⊢
  cases hends with
  | ok hv hr =>
    obtain ⟨rfl, -⟩ := hv
    exact ⟨_, rfl, .inl ⟨_, rfl, congrArg (EStateM.Result.ok _) hr⟩⟩
  | error _ hr => exact ⟨_, rfl, .inr ⟨_, rfl, congrArg (EStateM.Result.error _) hr⟩⟩

/-- Every build of a watched exploration is one that is recorded. -/
theorem build_of_builds {v : Act (Tracked (Watched ω)) (List Diagnostic)} (hctx : ctx.Expected)
    (h : (ctx.watched b).Builds v) :
    ∃ verify, v = build verify ∧ ∀ e, verify.Raises e → e.Expected := by
  rcases h with rfl | ⟨m, hm, rfl⟩
  · exact ⟨ctx.workspace.verify, rfl, hctx.target⟩
  · obtain ⟨n, hn, rfl⟩ := List.mem_map.mp hm
    exact ⟨n.verify, rfl, hctx.modules n hn⟩

/-- A run of a watched exploration: it starts and ends with just the leftovers in, and each of its
builds sees its own fixes and the leftovers, and nothing else. -/
structure Sound (ctx : Context ω) (b : Backend ω) (run : SiteRun (Tracked (Watched ω))) : Prop where
  builds : (ctx.watched b).Builds run.verify
  came : run.Came (ctx.watched b).workspace
  starts : Settled run.start.world
  finishes : Settled run.finish.world
  fits : Deed.Fit run.fixes run.start.world.world.deeds run.finish.world.world.deeds

/-- From a fresh tracker on, each run of an exploration keeps to the leftovers. -/
theorem sound_of_mem_runs (hb : b.Expected) (hctx : ctx.Expected) (fixes : Option (List Fix))
    (ht : t.site.world.injected = []) {t' : Trial (Tracked (Watched ω))}
    (hend : final (Exploration.explore (ctx.watched b) fixes (watchTrial t)) = t') :
    SiteRun.Lead (runs ctx b fixes t) (watchTrial t).site t'.site ∧
      (∀ run ∈ runs ctx b fixes t, Sound ctx b run) ∧ Settled t'.site.world := by
  have hlead : SiteRun.Lead (runs ctx b fixes t) (watchTrial t).site t'.site :=
    hend ▸ Schedule.lead_runs (Schedule.explore (ctx.watched b) fixes) (watchTrial t)
  have hcame : ∀ run ∈ runs ctx b fixes t,
      (ctx.watched b).Builds run.verify ∧ run.Came (ctx.watched b).workspace :=
    fun run => Schedule.came_of_mem_runs (Schedule.explore (ctx.watched b) fixes)
  have hstep : ∀ run ∈ runs ctx b fixes t, Settled run.start.world → Settled run.finish.world ∧
      Deed.Fit run.fixes run.start.world.world.deeds run.finish.world.world.deeds := by
    intro run hrun hstart
    exact settled_run hb (build_of_builds hctx (hcame run hrun).1) (hcame run hrun).2 hstart
  have hfresh : Settled (watchTrial t).site.world := by
    intro k
    simp [watchTrial, ht, Deed.leftover]
  obtain ⟨hstarts, hsettled⟩ := hlead.invariant (P := fun s => Settled s.world) hfresh
    fun run hrun hstart => (hstep run hrun hstart).1
  refine ⟨hlead, fun run hrun => ?_, hsettled⟩
  obtain ⟨hfinish, hfits⟩ := hstep run hrun (hstarts run hrun)
  exact ⟨(hcame run hrun).1, (hcame run hrun).2, hstarts run hrun, hfinish, hfits⟩

/-- If every removal succeeded, builds saw nothing but the fixes of their own runs, and nothing is
in at the end. -/
theorem alone_of_sound {rs : List (SiteRun (Tracked (Watched ω)))}
    {s s' : Site (Tracked (Watched ω))} (hlead : SiteRun.Lead rs s s')
    (hsound : ∀ run ∈ rs, Sound ctx b run) (hend : Settled s'.world)
    (hnone : ∀ f, Deed.removed f false ∉ s'.world.world.deeds) :
    s'.world.injected = [] ∧ ∀ run ∈ rs, ∃ new,
      run.finish.world.world.deeds = run.start.world.world.deeds ++ new ∧
      ∀ held, Deed.built held ∈ new → Keyed.Same Fix.key held run.fixes := by
  constructor
  · have hnil : Keyed.Same Fix.key s'.world.injected [] := by
      intro k
      rw [hend, Deed.leftover_eq_false hnone]
      simp
    exact hnil.eq_nil
  · intro run hrun
    -- what was done up to the end of the run was done up to the end
    have hlater : run.finish.world.world.deeds <+: s'.world.world.deeds := by
      refine (hlead.reaches (R := fun s₁ s₂ => s₁.world.world.deeds <+: s₂.world.world.deeds)
        (fun _ => List.prefix_rfl) (fun _ _ _ => List.IsPrefix.trans) ?_).2 run hrun
      intro run hrun
      obtain ⟨new, hnew, -⟩ := (hsound run hrun).fits
      exact ⟨new, hnew.symm⟩
    obtain ⟨new, hnew, hbuilt⟩ := (hsound run hrun).fits
    refine ⟨new, hnew, ?_⟩
    intro held hheld k
    obtain ⟨before, after, rfl⟩ := List.append_of_mem hheld
    have hbefore : ∀ f, Deed.removed f false ∉ run.start.world.world.deeds ++ before := by
      intro f hf
      refine hnone f (hlater.subset ?_)
      rw [hnew, ← List.append_assoc]
      exact List.mem_append_left _ hf
    rw [hbuilt before held after rfl k, Deed.leftover_eq_false hbefore]
    simp

/-- Over a fresh tracker, an exploration is a sequence of runs, each a build of what is there or the
run of a batch, and every build sees just the fixes of its own batch, or none, and the leftovers.
Between the runs and at the end, however it ends, just the leftovers are in. If every fix could be
taken out, each build sees its batch alone, and nothing is in at the end. -/
theorem held_of_explore (hb : b.Expected) (hctx : ctx.Expected) (fixes : Option (List Fix))
    {t : Trial (Tracked ω)} (ht : t.site.world.injected = []) :
    ∃ t' : Trial (Tracked (Watched ω)),
      ((∃ result,
          Exploration.explore (ctx.watched b) fixes (watchTrial t) = .ok result t' ∧
          Exploration.explore (ctx.tracked b) fixes t = .ok result (eraseTrial t')) ∨
        ∃ e,
          Exploration.explore (ctx.watched b) fixes (watchTrial t) = .error e t' ∧
          Exploration.explore (ctx.tracked b) fixes t = .error e (eraseTrial t')) ∧
      SiteRun.Lead (runs ctx b fixes t) (watchTrial t).site t'.site ∧
      (∀ run ∈ runs ctx b fixes t, Sound ctx b run) ∧
      Settled t'.site.world ∧
      ((∀ f, Deed.removed f false ∉ t'.site.world.world.deeds) →
        t'.site.world.injected = [] ∧
        ∀ run ∈ runs ctx b fixes t, ∃ new,
          run.finish.world.world.deeds = run.start.world.world.deeds ++ new ∧
          ∀ held, Deed.built held ∈ new → Keyed.Same Fix.key held run.fixes) := by
  obtain ⟨t', hend, hrun⟩ := explore_watched ctx b fixes t
  obtain ⟨hlead, hsound, hsettled⟩ := sound_of_mem_runs hb hctx fixes ht hend
  exact ⟨t', hrun, hlead, hsound, hsettled, alone_of_sound hlead hsound hsettled⟩

/-- A backend that cannot take one fix out. -/
def clinging (k : FixKey) : Backend Unit where
  apply _ := pure ()
  remove f := if f.key = k then throw (.workspace (.refused f.label)) else pure ()

/-- Builds that always succeed, with nothing to report. -/
def silent : Context Unit :=
  { workspace := ⟨fun _ => pure (), fun _ => pure (), pure []⟩, regions := fun l => some [l.region]
    mode := .targetOnly, depth := .whole 2, retry := true, declared := fun _ => true
    link := fun _ f => [f], destructive := fun _ => false, modules := [⟨.text "user", pure []⟩] }

theorem expected_clinging (k : FixKey) : (clinging k).Expected := by
  constructor
  · rintro f e ⟨s, s', h⟩
    exact nomatch h
  · rintro f e ⟨s, s', h⟩
    unfold clinging at h
    dsimp only at h
    split at h
    · exact ⟨_, (EStateM.Result.error.inj h).1.symm⟩
    · exact nomatch h

theorem expected_silent : silent.Expected := by
  constructor
  · rintro e ⟨s, s', h⟩
    exact nomatch h
  · rintro m hm e ⟨s, s', h⟩
    obtain rfl := List.mem_singleton.mp hm
    exact nomatch h

/-- The fix that clings is in from its first batch on, in the builds of the others and of the module
too, and it is the one that is left. -/
theorem held_of_explore_clinging :
    (runs silent (clinging (Fix.ofField "A" "x").key) (some [.ofField "A" "x", .ofField "B" "z"])
        (Trial.start (Tracked.start ()))).map (fun run => run.batch.map (·.map Fix.key)) =
      [none, some [(Fix.ofField "A" "x").key, (Fix.ofField "B" "z").key],
        some [(Fix.ofField "A" "x").key], some [(Fix.ofField "B" "z").key], none,
        some [(Fix.ofField "B" "z").key]] ∧
    (∀ run ∈ runs silent (clinging (Fix.ofField "A" "x").key)
        (some [.ofField "A" "x", .ofField "B" "z"]) (Trial.start (Tracked.start ())),
      Sound silent (clinging (Fix.ofField "A" "x").key) run) ∧
    ∃ t' : Trial (Tracked (Watched Unit)), Settled t'.site.world ∧
      t'.site.world.injected.map Fix.key = [(Fix.ofField "A" "x").key] := by
  have hleft : (final (Exploration.explore
      (silent.tracked (clinging (Fix.ofField "A" "x").key))
      (some [.ofField "A" "x", .ofField "B" "z"])
      (Trial.start (Tracked.start ())))).site.world.injected.map Fix.key =
        [(Fix.ofField "A" "x").key] := by
    decide +kernel
  obtain ⟨t', hrun, -, hsound, hs, -⟩ := held_of_explore
    (expected_clinging (Fix.ofField "A" "x").key) expected_silent
    (some [.ofField "A" "x", .ofField "B" "z"]) (t := Trial.start (Tracked.start ())) rfl
  refine ⟨by decide +kernel, hsound, t', hs, ?_⟩
  rcases hrun with ⟨_, -, hp⟩ | ⟨_, -, hp⟩
  · rw [hp] at hleft
    exact hleft
  · rw [hp] at hleft
    exact hleft

end Watched
end FixTrial
