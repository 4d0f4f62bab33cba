import FixTrial.Proofs.Workspace.Patched

/-!
What a batch leaves in a tree that takes every patch. A patch that is in the tree already is put on
record as if the batch had put it in, and is taken out at the end.
-/
namespace FixTrial
open Act

/-- A tree that takes every patch, and gives every one back. -/
structure PatchTree.Yielding (t : PatchTree) : Prop where
  conflicts : t.conflicts = []
  stuck : t.stuck = []
  leaky : t.leaky = []

theorem PatchTree.rule?_nil (p : String) : PatchTree.rule? [] p = none := rfl

/-- A host whose tree holds the patches `ps`. -/
def Host.holding (h : Host PatchTree) (ps : List String) : Host PatchTree :=
  { h with rest := { h.rest with applied := ps } }

namespace Repository
variable {r : Repository} {h : Host PatchTree} {f : Fix} {fs : List Fix} {s p : String}
  {A ps new : List String} {t : Tracked (Host PatchTree)}

theorem isApplied_of_normalize (h : Host PatchTree) (hp : Patch.normalize s = .ok p) :
    isApplied PatchTree.runner r s h = .ok (decide (p ∈ h.rest.applied)) h := by
  have hrun : ∃ code output errors,
      PatchTree.runner ⟨["git", "apply", "-R", "--check", "-"], r.directory, some p, .null⟩ h =
        (.finished code output errors, h) ∧ (code = 0 ↔ p ∈ h.rest.applied) := by
    change ∃ code output errors, ((h.rest.check p, _) : Outcome × Host PatchTree) = _ ∧ _
    by_cases hin : p ∈ h.rest.applied
    · exact ⟨0, "", "", by simp [PatchTree.check, hin], by simp [hin]⟩
    · exact ⟨1, "", _, by simp [PatchTree.check, hin]; rfl, by simp [hin]⟩
  obtain ⟨code, output, errors, hrun, hcode⟩ := hrun
  unfold isApplied
  rw [normalized_of_ok hp, pure_bind, bind_of_ok (call_of_finished hrun)]
  change EStateM.Result.ok (decide (code = 0)) h = _
  rw [decide_eq_decide.mpr hcode]

theorem patchOf_carries (hf : f.Carries p) :
    ∃ s, Patch.normalize s = .ok p ∧ (patchOf f : Act (Host PatchTree) String) = pure s := by
  obtain ⟨s, hs, hempty, hp⟩ := hf
  refine ⟨s, hp, ?_⟩
  unfold patchOf
  simp [hs, hempty]

/-- A patch is in the tree once it was put in, and is there once more only if it was before. -/
theorem apply_of_yielding (hy : h.rest.Yielding) (hf : f.Carries p) :
    (r.backend PatchTree.runner).apply f h =
      .ok () (h.holding (Keyed.insert id h.rest.applied p)) := by
  obtain ⟨s, hp, hpatch⟩ := patchOf_carries hf
  change r.applyFix PatchTree.runner f h = _
  unfold applyFix Keyed.insert
  rw [hpatch, pure_bind, bind_of_ok (isApplied_of_normalize h hp)]
  by_cases hin : p ∈ h.rest.applied
  · have hhas : Keyed.has id (id p) h.rest.applied = true := Keyed.has_iff.mpr (by simpa using hin)
    simp only [hin, decide_true, Bool.not_true, Bool.false_eq_true, if_false, hhas, if_true]
    rfl
  · have hhas : Keyed.has id (id p) h.rest.applied = false :=
      Keyed.has_eq_false_iff.mpr (by simpa using hin)
    have hrun : PatchTree.runner ⟨["git", "apply", "-"], r.directory, some p, .null⟩ h =
        (.finished 0 "" "", h.holding (h.rest.applied ++ [p])) := by
      change ((h.rest.apply p).1, { h with rest := (h.rest.apply p).2 }) = _
      unfold PatchTree.apply
      have hconflicts : PatchTree.rule? h.rest.conflicts p = none := by
        rw [hy.conflicts, PatchTree.rule?_nil]
      rw [hconflicts]
      rfl
    have hedit := refusedAs_of_finished (e := .cannotInject f.label) hp rfl hrun
    simp only [hin, decide_false, Bool.not_false, if_true, hhas, Bool.false_eq_true, if_false]
    exact hedit

/-- A patch is taken out where the tree holds it first, whoever put it there. -/
theorem remove_of_yielding (hy : h.rest.Yielding) (hf : f.Carries p) :
    (r.backend PatchTree.runner).remove f h = .ok () (h.holding (h.rest.applied.erase p)) := by
  obtain ⟨s, hp, hpatch⟩ := patchOf_carries hf
  change r.removeFix PatchTree.runner f h = _
  unfold removeFix
  rw [hpatch, pure_bind, bind_of_ok (isApplied_of_normalize h hp)]
  by_cases hin : p ∈ h.rest.applied
  · have hrun : PatchTree.runner ⟨["git", "apply", "-R", "-"], r.directory, some p, .null⟩ h =
        (.finished 0 "" "", h.holding (h.rest.applied.erase p)) := by
      change ((h.rest.reverse p).1, { h with rest := (h.rest.reverse p).2 }) = _
      have hcontains : h.rest.applied.contains p = true := by simpa using hin
      unfold PatchTree.reverse
      have hstuck : PatchTree.rule? h.rest.stuck p = none := by rw [hy.stuck, PatchTree.rule?_nil]
      have hleaky : PatchTree.rule? h.rest.leaky p = none := by rw [hy.leaky, PatchTree.rule?_nil]
      simp only [hstuck, hleaky, hcontains, Option.isSome_none, Bool.not_true, Bool.false_eq_true,
        if_false]
      rfl
    have hedit := refusedAs_of_finished (e := .cannotRevert f.label) hp rfl hrun
    simp only [hin, decide_true, if_true]
    exact hedit
  · simp only [hin, decide_false, Bool.false_eq_true, if_false]
    rw [List.erase_of_not_mem hin]
    rfl

/-- Fixes that are not on record yet are put in and on record, all of them. -/
theorem injectEach_of_yielding (hy : t.world.rest.Yielding) (hfs : List.Forall₂ Fix.Carries fs ps)
    (hn : ((t.injected ++ fs).map Fix.key).Nodup) :
    (r.backend PatchTree.runner).injectEach fs t =
      .ok () ⟨t.world.holding (Keyed.union id t.world.rest.applied ps), t.injected ++ fs⟩ := by
  induction hfs generalizing t with
  | nil =>
    rw [List.append_nil]
    rfl
  | @cons f p rest ps hf _ ih =>
    have hnew : f.key ∉ t.injected.map Fix.key := by
      rw [List.map_append, List.map_cons, List.nodup_append] at hn
      exact fun hmem => hn.2.2 _ hmem _ List.mem_cons_self rfl
    have hholds : t.holds f = false := Keyed.has_eq_false_iff.mpr hnew
    have hadd (world : Host PatchTree) :
        Tracked.add f ⟨world, t.injected⟩ = ⟨world, t.injected ++ [f]⟩ :=
      Tracked.add_of_new hholds
    have hrest := ih (t := ⟨t.world.holding (Keyed.insert id t.world.rest.applied p),
      t.injected ++ [f]⟩) ⟨hy.conflicts, hy.stuck, hy.leaky⟩ (by simpa using hn)
    unfold Backend.injectEach
    simp only [hholds, Bool.false_eq_true, if_false, apply_of_yielding hy hf, hadd, hrest,
      List.append_assoc, List.singleton_append]
    rfl

/-- What is on record is taken out, all of it. -/
theorem revertEach_of_yielding (hy : h.rest.Yielding) (hfs : List.Forall₂ Fix.Carries fs ps)
    (hn : (fs.map Fix.key).Nodup) :
    (r.backend PatchTree.runner).revertEach fs ⟨h, fs⟩ =
      .ok [] ⟨h.holding (h.rest.applied.diff ps), []⟩ := by
  induction hfs generalizing h with
  | nil => rfl
  | @cons f p rest ps hf _ ih =>
    rw [List.map_cons, List.nodup_cons] at hn
    have hholds : (Tracked.mk h (f :: rest)).holds f = true := Tracked.holds_iff.mpr (by simp)
    have hdrop (world : Host PatchTree) :
        Tracked.drop f ⟨world, f :: rest⟩ = ⟨world, rest⟩ := by
      have hothers : (f :: rest).filter (fun g => decide (g.key ≠ f.key)) = rest := by
        rw [List.filter_cons_of_neg (by simp), List.filter_eq_self]
        intro g hg
        exact decide_eq_true fun hkey => hn.1 (hkey ▸ List.mem_map_of_mem hg)
      unfold Tracked.drop
      rw [hothers]
    have hrest := ih (h := h.holding (h.rest.applied.erase p)) ⟨hy.conflicts, hy.stuck, hy.leaky⟩
      hn.2
    unfold Backend.revertEach
    simp only [hholds, Bool.not_true, Bool.false_eq_true, if_false, remove_of_yielding hy hf, hdrop,
      hrest, List.diff_cons]
    rfl

theorem union_eq_append (A ps : List String) : ∃ new, Keyed.union id A ps = A ++ new ∧ new.Nodup ∧
    ∀ p ∈ new, p ∈ ps ∧ p ∉ A := by
  induction ps generalizing A with
  | nil => exact ⟨[], (List.append_nil A).symm, List.nodup_nil, by simp⟩
  | cons q ps ih =>
    change ∃ new, Keyed.union id (Keyed.insert id A q) ps = A ++ new ∧ _
    unfold Keyed.insert
    by_cases hq : q ∈ A
    · rw [if_pos (Keyed.has_iff.mpr (by simpa using hq))]
      obtain ⟨new, hnew, hn, hmem⟩ := ih A
      exact ⟨new, hnew, hn, fun p hp => ⟨List.mem_cons_of_mem q (hmem p hp).1, (hmem p hp).2⟩⟩
    · rw [if_neg (by rw [Keyed.has_iff]; simpa using hq)]
      obtain ⟨new, hnew, hn, hmem⟩ := ih (A ++ [q])
      have hapart : ∀ p ∈ new, p ∉ A ∧ p ≠ q := by simpa using fun p hp => (hmem p hp).2
      refine ⟨q :: new, by rw [hnew, List.append_assoc, List.singleton_append],
        List.nodup_cons.mpr ⟨fun hmem => (hapart q hmem).2 rfl, hn⟩, ?_⟩
      refine List.forall_mem_cons.mpr ⟨⟨List.mem_cons_self, hq⟩, fun p hp => ?_⟩
      exact ⟨List.mem_cons_of_mem q (hmem p hp).1, (hapart p hp).1⟩

/-- What was put in goes out again, and with it goes what of `ps` was in already. -/
theorem diff_append (hn : new.Nodup) (hnew : ∀ p ∈ new, p ∈ ps ∧ p ∉ A) :
    (A ++ new).diff ps = A.diff ps := by
  induction ps generalizing A new with
  | nil =>
    have hnil : new = [] := List.eq_nil_iff_forall_not_mem.mpr fun p hp => by simpa using hnew p hp
    rw [hnil, List.append_nil]
  | cons q ps ih =>
    rw [List.diff_cons, List.diff_cons]
    by_cases hq : q ∈ A
    · rw [List.erase_append_left new hq]
      refine ih hn fun p hp => ⟨?_, fun hmem => (hnew p hp).2 (List.mem_of_mem_erase hmem)⟩
      exact (List.mem_cons.mp (hnew p hp).1).resolve_left fun hpq => (hnew p hp).2 (hpq ▸ hq)
    · rw [List.erase_append_right new hq, List.erase_of_not_mem hq]
      refine ih (hn.erase q) fun p hp => ?_
      obtain ⟨hpq, hp⟩ := hn.mem_erase_iff.mp hp
      exact ⟨(List.mem_cons.mp (hnew p hp).1).resolve_left hpq, (hnew p hp).2⟩

theorem diff_eq_self_iff : A.diff ps = A ↔ ∀ p ∈ ps, p ∉ A := by
  constructor
  · intro hdiff p hp hin
    have hcount := congrArg (List.count p) hdiff
    have hps : 0 < ps.count p := List.count_pos_iff.mpr hp
    have hA : 0 < A.count p := List.count_pos_iff.mpr hin
    rw [List.count_diff] at hcount
    omega
  · intro hapart
    induction ps with
    | nil => rfl
    | cons q ps ih =>
      rw [List.forall_mem_cons] at hapart
      rw [List.diff_cons, List.erase_of_not_mem hapart.1, ih hapart.2]

theorem carries_dedupe {fixes : List Fix} (hfixes : ∀ f ∈ fixes, ∃ p, f.Carries p) :
    ∃ ps, List.Forall₂ Fix.Carries (Fix.dedupe fixes) ps := by
  have hall : ∀ f ∈ Fix.dedupe fixes, ∃ p, f.Carries p := by
    refine Fix.forall_mem_dedupe (fun g f ⟨p, s, hs, hp⟩ _ => ⟨p, s, ?_, hp⟩) hfixes
    change (g.patch <|> f.patch) = _
    rw [hs]
    rfl
  generalize Fix.dedupe fixes = batch at hall
  induction batch with
  | nil => exact ⟨[], .nil⟩
  | cons f rest ih =>
    rw [List.forall_mem_cons] at hall
    obtain ⟨⟨p, hp⟩, hrest⟩ := hall
    obtain ⟨ps, hps⟩ := ih hrest
    exact ⟨p :: ps, .cons hp hps⟩

section
variable {β : Type} {fixes : List Fix} {own v : Act (Host PatchTree) (List Diagnostic)}

/-- With what it put in on record, a batch is taken out, and says nothing of it. -/
theorem close_of_yielding (hy : h.rest.Yielding) (hfs : List.Forall₂ Fix.Carries fs ps)
    (hn : (fs.map Fix.key).Nodup) :
    Batch.close ((r.backend PatchTree.runner).workspace own) fs ⟨h, fs⟩ =
      (.ok none, ⟨⟨h.holding (h.rest.applied.diff ps), []⟩, false⟩) := by
  refine Batch.close_of_revert ?_
  change (r.backend PatchTree.runner).revert fs ⟨h, fs⟩ = _
  unfold Backend.revert
  rw [Fix.dedupe_of_nodup hn, bind_of_ok (revertEach_of_yielding hy hfs hn)]
  rfl

/-- Whatever the build and the measurement come to, a batch is off the record at the end, and each
of its patches is out of the tree once, where it was in before just as where it was not. So the tree
is as it was if and only if it held none of them. But a fault of the build that is no workspace error
leaves the batch in. -/
theorem batch_restored (hy : h.rest.Yielding) (own : Act (Host PatchTree) (List Diagnostic))
    (hv : Keeps (fun h => h.rest) v) (hfixes : ∀ f ∈ fixes, ∃ p, f.Carries p) (locked : Bool)
    (m : List Diagnostic → Site (Tracked (Host PatchTree)) → β × Except Fault Unit) :
    ∃ run t' ps, Batch.run ((r.backend PatchTree.runner).workspace own) (Tracked.inside v) fixes m
        ⟨Tracked.start h, locked⟩ = (run, ⟨t', false⟩) ∧
      List.Forall₂ Fix.Carries (Fix.dedupe fixes) ps ∧
      (((∀ e world, v (h.holding (Keyed.union id h.rest.applied ps)) = .error e world →
            e.Expected) ∧ t'.injected = [] ∧
          t'.world.rest = { h.rest with applied := h.rest.applied.diff ps } ∧
          (t'.world.rest = h.rest ↔ ∀ p ∈ ps, p ∉ h.rest.applied)) ∨
        ∃ e world, v (h.holding (Keyed.union id h.rest.applied ps)) = .error e world ∧
          ¬ e.Expected ∧ run.outcome = .error e ∧ t' = ⟨world, Fix.dedupe fixes⟩ ∧
          world.rest = { h.rest with applied := Keyed.union id h.rest.applied ps }) := by
  obtain ⟨ps, hps⟩ := carries_dedupe hfixes
  have hnodup : ((Fix.dedupe fixes).map Fix.key).Nodup := Fix.nodup_keys_dedupe
  obtain ⟨new, hunion, hn, hnew⟩ := union_eq_append h.rest.applied ps
  generalize hin : h.holding (Keyed.union id h.rest.applied ps) = full
  have hinject : ((r.backend PatchTree.runner).workspace own).inject (Fix.dedupe fixes)
      (Tracked.start h) = .ok () ⟨full, Fix.dedupe fixes⟩ := by
    change (r.backend PatchTree.runner).injectEach (Fix.dedupe (Fix.dedupe fixes)) _ = _
    rw [Fix.dedupe_of_nodup hnodup, ← hin]
    exact injectEach_of_yielding (t := Tracked.start h) hy hps hnodup
  have hbuilds : Batch.build ((r.backend PatchTree.runner).workspace own) (Tracked.inside v)
      (Fix.dedupe fixes) (Tracked.start h) = Tracked.inside v ⟨full, Fix.dedupe fixes⟩ :=
    bind_of_ok hinject
  unfold Tracked.inside at hbuilds
  have hfull : full.rest = { h.rest with applied := h.rest.applied ++ new } := by
    rw [← hin, ← hunion]
    rfl
  have hclose : ∀ world, world.rest = full.rest →
      Batch.close ((r.backend PatchTree.runner).workspace own) (Fix.dedupe fixes)
        ⟨world, Fix.dedupe fixes⟩ =
          (.ok none, ⟨⟨world.holding (h.rest.applied.diff ps), []⟩, false⟩) := by
    intro world hworld
    have happlied : world.rest.applied = h.rest.applied ++ new := by rw [hworld, hfull]
    have hyielding : world.rest.Yielding := by
      rw [hworld, hfull]
      exact ⟨hy.conflicts, hy.stuck, hy.leaky⟩
    rw [close_of_yielding hyielding hps hnodup, happlied, diff_append hn hnew]
  have hleft : ∀ world : Host PatchTree, world.rest = full.rest →
      (world.holding (h.rest.applied.diff ps)).rest =
          { h.rest with applied := h.rest.applied.diff ps } ∧
        ((world.holding (h.rest.applied.diff ps)).rest = h.rest ↔ ∀ p ∈ ps, p ∉ h.rest.applied) := by
    intro world hworld
    have hrest : (world.holding (h.rest.applied.diff ps)).rest =
        { h.rest with applied := h.rest.applied.diff ps } := by
      unfold Host.holding
      rw [hworld, hfull]
    refine ⟨hrest, ?_⟩
    rw [hrest, ← diff_eq_self_iff]
    exact ⟨congrArg PatchTree.applied, fun hdiff => by rw [hdiff]⟩
  have hkept : (final (v full)).rest = full.rest := hv full
  cases hbuild : v full with
  | ok ds world =>
    simp only [hbuild] at hbuilds hkept
    refine ⟨_, _, ps, Batch.run_of_build hbuilds (hclose world hkept), hps, .inl ⟨?_, rfl, ?_⟩⟩
    · intro e _ herror
      rw [hin, hbuild] at herror
      cases herror
    · exact hleft world hkept
  | error e world =>
    simp only [hbuild] at hbuilds hkept
    by_cases he : e.Expected
    · obtain ⟨e, rfl⟩ := he
      refine ⟨_, _, ps, Batch.run_of_failure hbuilds (hclose world hkept), hps, .inl ⟨?_, rfl, ?_⟩⟩
      · intro _ _ herror
        rw [hin, hbuild] at herror
        cases herror
        exact ⟨e, rfl⟩
      · exact hleft world hkept
    · refine ⟨_, _, ps, Batch.run_of_fault hbuilds he, hps,
        .inr ⟨e, world, by rw [hin, hbuild], he, rfl, rfl, ?_⟩⟩
      rw [hunion, ← hfull]
      exact hkept

end

/-- A tree that takes every patch. -/
def unruled (applied : List String) : PatchTree :=
  { head := none, conflicts := [], stuck := [], leaky := [], applied }

/-- The completed patch that replaces an old line. -/
def replacedOld : String :=
  "diff --git a/mod.py b/mod.py\n--- a/mod.py\n+++ b/mod.py\n@@ -1 +1 @@\n-old\n+new\n"

theorem carries_replacing (member : String) :
    (replacing member "old").Carries replacedOld :=
  have hnormal : Patch.normalize "diff --git a/mod.py b/mod.py\n@@ -1 +1 @@\n-old\n+new\n" =
      .ok replacedOld := by
    decide +kernel
  ⟨_, rfl, by decide +kernel, hnormal⟩

/-- Two fixes share a patch, and their measurement fails; of the tree they leave what was there. -/
theorem batch_restored_shared : ∃ run t',
    Batch.run (((Repository.mk "w").backend PatchTree.runner).workspace (pure []))
        (Tracked.inside (pure [])) [replacing "x" "old", replacing "y" "old"]
        (fun _ _ => ((), .error (.measurement "no")))
        ⟨Tracked.start ⟨.empty, unruled ["other"]⟩, false⟩ = (run, ⟨t', false⟩) ∧
      t'.injected = [] ∧ t'.world.rest = unruled ["other"] := by
  have hcarries : ∀ f ∈ [replacing "x" "old", replacing "y" "old"], f.Carries replacedOld := by
    simp only [List.forall_mem_cons, List.not_mem_nil, false_imp_iff, implies_true, and_true]
    exact ⟨carries_replacing "x", carries_replacing "y"⟩
  have hapart : replacedOld ≠ "other" := by decide +kernel
  obtain ⟨run, t', ps, hrun, hps, hend⟩ :=
    batch_restored (r := ⟨"w"⟩) (h := ⟨.empty, unruled ["other"]⟩) ⟨rfl, rfl, rfl⟩ (pure [])
      (v := pure []) Keeps.of_pure (fun f hf => ⟨_, hcarries f hf⟩) false
      fun _ _ => ((), .error (.measurement "no"))
  rw [Fix.dedupe_of_nodup (by decide)] at hps
  obtain _ | ⟨hx, _ | ⟨hy, ⟨⟩⟩⟩ := hps
  obtain rfl := (carries_replacing "x").inj hx
  obtain rfl := (carries_replacing "y").inj hy
  rcases hend with ⟨-, hoff, -, hback⟩ | ⟨e, world, hbuild, -⟩
  · exact ⟨run, t', hrun, hoff, hback.mpr (by simpa [unruled] using hapart)⟩
  · cases hbuild

/-- A successful batch, and a tree from which it took `p`. -/
def quietlyTakes (p : String) : BatchRun Unit × Site (Tracked (Host PatchTree)) → Bool
  | (⟨.ok result, _⟩, ⟨t', false⟩) =>
    result.ok && result.logs.isEmpty && t'.injected.isEmpty && !t'.world.rest.applied.contains p
  | _ => false

/-- The patch of the only fix is in the tree when the batch starts. The batch succeeds, logs nothing,
and the patch is gone. -/
theorem batch_takes_what_was_there : ∃ run result t',
    Batch.run (((Repository.mk "w").backend PatchTree.runner).workspace (pure []))
        (Tracked.inside (pure [])) [replacing "x" "old"] (fun _ _ => ((), .ok ()))
        ⟨Tracked.start ⟨.empty, unruled [replacedOld]⟩, false⟩ = (run, ⟨t', false⟩) ∧
      run.outcome = .ok result ∧ result.ok = true ∧ result.logs = [] ∧ t'.injected = [] ∧
      replacedOld ∉ t'.world.rest.applied := by
  have hrun : quietlyTakes replacedOld
      (Batch.run (((Repository.mk "w").backend PatchTree.runner).workspace (pure []))
        (Tracked.inside (pure [])) [replacing "x" "old"] (fun _ _ => ((), .ok ()))
        ⟨Tracked.start ⟨.empty, unruled [replacedOld]⟩, false⟩) = true := by
    decide +kernel
  unfold quietlyTakes at hrun
  split at hrun
  next result _ t' heq =>
    simp only [Bool.and_eq_true, Bool.not_eq_true', List.isEmpty_iff] at hrun
    obtain ⟨⟨⟨hok, hlogs⟩, hoff⟩, hgone⟩ := hrun
    exact ⟨_, result, t', heq, rfl, hok, hlogs, hoff, by simpa using hgone⟩
  next => cases hrun

end Repository
end FixTrial
