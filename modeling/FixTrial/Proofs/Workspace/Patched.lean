import FixTrial.Proofs.Batch
import FixTrial.Proofs.Patch
import FixTrial.Proofs.Workspace.Tracked
import FixTrial.Scripted.PatchTree
import FixTrial.Workspace.Repository
import Mathlib.Data.Finset.Erase
import Mathlib.Data.Finset.Insert

/-!
Batches of patches. If headers are complete and patches do not disturb each other, then of what a
batch leaves in the tree, or on record, it was said that it could not be taken out.
-/
namespace FixTrial
open Act

/-- The completed patch of a fix. -/
def Fix.Carries (f : Fix) (p : String) : Prop :=
  ∃ s, f.patch = some (.text s) ∧ s.isEmpty = false ∧ Patch.normalize s = .ok p

theorem Fix.Carries.inj {f : Fix} {p q : String} (h : f.Carries p) (h' : f.Carries q) : p = q := by
  obtain ⟨s, hs, -, hp⟩ := h
  obtain ⟨s', hs', -, hq⟩ := h'
  cases hs.symm.trans hs'
  exact Except.ok.inj (hp.symm.trans hq)

/-- A fix that has no patch, or one with complete headers. -/
def Fix.Patched (f : Fix) : Prop := ∀ j, f.patch = some j → ∃ s, j = .text s ∧ Patch.Complete s

/-- What is said of a fix that cannot be put in. -/
def Fix.KeptOut (f : Fix) (e : WorkspaceError) : Prop :=
  e = .noPatch f.label ∨ ∃ reason, e = .cannotInject f.label reason

/-- What is said of a fix that cannot be taken out. -/
def Fix.KeptIn (f : Fix) (e : WorkspaceError) : Prop :=
  e = .noPatch f.label ∨ ∃ reason, e = .cannotRevert f.label reason

namespace Repository
variable {σ : Type} {runner : Runner σ} {r : Repository} {has : Host σ → Finset String → Prop}
  {S : Finset String} {h h' : Host σ} {f : Fix} {fs : List Fix} {s p : String}

/-- A version control system, of which `has h S` says that just the patches of `S` are in the tree.
It answers whether a patch is in; it puts one in or takes one out, or refuses and changes nothing.
Either way the other patches stay as they are. -/
structure Served (r : Repository) (runner : Runner σ) (has : Host σ → Finset String → Prop) :
    Prop where
  check : ∀ p h S, has h S → ∃ code output errors h',
    runner ⟨["git", "apply", "-R", "--check", "-"], r.directory, some p, .null⟩ h =
      (.finished code output errors, h') ∧ has h' S ∧ (code = 0 ↔ p ∈ S)
  apply : ∀ p h S, has h S → p ∉ S → ∃ code output errors h',
    runner ⟨["git", "apply", "-"], r.directory, some p, .null⟩ h =
      (.finished code output errors, h') ∧ has h' (if code = 0 then insert p S else S)
  reverse : ∀ p h S, has h S → p ∈ S → ∃ code output errors h',
    runner ⟨["git", "apply", "-R", "-"], r.directory, some p, .null⟩ h =
      (.finished code output errors, h') ∧ has h' (if code = 0 then S.erase p else S)

/-- Some tree without the patch takes it. -/
def Takes (r : Repository) (runner : Runner σ) (has : Host σ → Finset String → Prop) (p : String) :
    Prop :=
  ∃ h S output errors h', has h S ∧ p ∉ S ∧
    runner ⟨["git", "apply", "-"], r.directory, some p, .null⟩ h = (.finished 0 output errors, h')

theorem call_of_finished {args : List String} {input : Option String} {code : Int}
    {output errors : String}
    (hr : runner ⟨"git" :: args, r.directory, input, .null⟩ h =
      (.finished code output errors, h')) :
    call runner r args input h = .ok (code, output, errors) h' := by
  unfold call
  rw [get_bind, hr]
  rfl

theorem normalized_of_ok (hp : Patch.normalize s = .ok p) :
    (normalized s : Act (Host σ) String) = pure p := by
  unfold normalized
  rw [hp]

/-- A patch is given to a call that has to succeed: it does, or its refusal is told as an error. -/
theorem refusedAs_of_finished {args : List String} {e : String → WorkspaceError} {code : Int}
    {output errors : String} {edit : Act (Host σ) Unit} (hp : Patch.normalize s = .ok p)
    (hedit : edit = do
      let input ← normalized s
      let _ ← checked runner r args (some input))
    (hr : runner ⟨"git" :: args, r.directory, some p, .null⟩ h =
      (.finished code output errors, h')) :
    if code = 0 then refusedAs e edit h = .ok () h'
    else ∃ text, refusedAs e edit h = .error (.workspace (e text)) h' := by
  have hcall : edit h = (if code = 0 then pure ()
      else throw (.versionControl (if errors.isEmpty then output else errors)) :
        Act (Host σ) Unit) h' := by
    rw [hedit, normalized_of_ok hp, pure_bind]
    unfold checked
    rw [bind_assoc, bind_of_ok (call_of_finished hr)]
    dsimp only
    split <;> rfl
  split
  next hcode =>
    rw [if_pos hcode] at hcall
    exact tryCatch_of_ok hcall
  next hcode =>
    rw [if_neg hcode] at hcall
    exact ⟨_, tryCatch_of_error hcall⟩

/-- A fix carries a patch that can be completed, or it is said to carry none. -/
theorem patchOf_patched (hf : f.Patched) :
    (∃ s p, f.Carries p ∧ Patch.normalize s = .ok p ∧ (patchOf f : Act (Host σ) String) = pure s) ∨
      (patchOf f : Act (Host σ) String) = throw (.workspace (.noPatch f.label)) := by
  unfold patchOf
  cases hj : f.patch with
  | none => exact .inr rfl
  | some j =>
    obtain ⟨s, rfl, hcomplete⟩ := hf j hj
    obtain ⟨p, hp⟩ := Patch.normalize_ok_iff.mpr hcomplete
    dsimp only
    split
    next => exact .inr rfl
    next hempty => exact .inl ⟨s, p, ⟨s, hj, Bool.not_eq_true _ ▸ hempty, hp⟩, hp, rfl⟩

section
variable (hr : r.Served runner has)
include hr

theorem isApplied_of_has (hp : Patch.normalize s = .ok p) (hs : has h S) :
    ∃ h', isApplied runner r s h = .ok (decide (p ∈ S)) h' ∧ has h' S := by
  obtain ⟨code, output, errors, h', hrun, hs', hcode⟩ := hr.check p h S hs
  refine ⟨h', ?_, hs'⟩
  unfold isApplied
  rw [normalized_of_ok hp, pure_bind, bind_of_ok (call_of_finished hrun)]
  change EStateM.Result.ok (decide (code = 0)) h' = _
  rw [decide_eq_decide.mpr hcode]

/-- A fix whose patch is in, or goes in, is put in. Of any other it is said that it cannot be, and
nothing changes. -/
theorem applyFix_of_has (hf : f.Patched) (hs : has h S) :
    (∃ p h', f.Carries p ∧ (r.backend runner).apply f h = .ok () h' ∧ has h' (insert p S) ∧
      (p ∈ S ∨ r.Takes runner has p)) ∨
    ∃ e h', (r.backend runner).apply f h = .error (.workspace e) h' ∧ f.KeptOut e ∧ has h' S := by
  change (∃ p h', _ ∧ r.applyFix runner f h = _ ∧ _) ∨ ∃ e h', r.applyFix runner f h = _ ∧ _
  unfold applyFix
  rcases patchOf_patched hf with ⟨s, p, hcarries, hp, hpatch⟩ | hpatch
  · obtain ⟨h₁, happlied, hs₁⟩ := isApplied_of_has hr hp hs
    rw [hpatch, pure_bind, bind_of_ok happlied]
    by_cases hin : p ∈ S
    · simp only [hin, decide_true, Bool.not_true, Bool.false_eq_true, if_false]
      exact .inl ⟨p, h₁, hcarries, rfl, by rwa [Finset.insert_eq_of_mem hin], .inl hin⟩
    · obtain ⟨code, output, errors, h₂, hrun, hs₂⟩ := hr.apply p h₁ S hs₁ hin
      have hedit := refusedAs_of_finished (e := .cannotInject f.label) hp rfl hrun
      simp only [hin, decide_false, Bool.not_false, if_true]
      by_cases hcode : code = 0
      · rw [if_pos hcode] at hedit hs₂
        rw [hcode] at hrun
        exact .inl ⟨p, h₂, hcarries, hedit, hs₂, .inr ⟨h₁, S, output, errors, h₂, hs₁, hin, hrun⟩⟩
      · rw [if_neg hcode] at hedit hs₂
        obtain ⟨text, hedit⟩ := hedit
        exact .inr ⟨_, h₂, hedit, .inr ⟨text, rfl⟩, hs₂⟩
  · rw [hpatch]
    exact .inr ⟨_, h, rfl, .inl rfl, hs⟩

/-- A fix is taken out, or it is said that it cannot be, and nothing changes. -/
theorem removeFix_of_has (hf : f.Patched) (hs : has h S) :
    (∃ p h', f.Carries p ∧ (r.backend runner).remove f h = .ok () h' ∧ has h' (S.erase p)) ∨
    ∃ e h', (r.backend runner).remove f h = .error (.workspace e) h' ∧ f.KeptIn e ∧ has h' S := by
  change (∃ p h', _ ∧ r.removeFix runner f h = _ ∧ _) ∨ ∃ e h', r.removeFix runner f h = _ ∧ _
  unfold removeFix
  rcases patchOf_patched hf with ⟨s, p, hcarries, hp, hpatch⟩ | hpatch
  · obtain ⟨h₁, happlied, hs₁⟩ := isApplied_of_has hr hp hs
    rw [hpatch, pure_bind, bind_of_ok happlied]
    by_cases hin : p ∈ S
    · obtain ⟨code, output, errors, h₂, hrun, hs₂⟩ := hr.reverse p h₁ S hs₁ hin
      have hedit := refusedAs_of_finished (e := .cannotRevert f.label) hp rfl hrun
      simp only [hin, decide_true, if_true]
      by_cases hcode : code = 0
      · rw [if_pos hcode] at hedit hs₂
        exact .inl ⟨p, h₂, hcarries, hedit, hs₂⟩
      · rw [if_neg hcode] at hedit hs₂
        obtain ⟨text, hedit⟩ := hedit
        exact .inr ⟨_, h₂, hedit, .inr ⟨text, rfl⟩, hs₂⟩
    · simp only [hin, decide_false, Bool.false_eq_true, if_false]
      exact .inl ⟨p, h₁, hcarries, rfl, by rwa [Finset.erase_eq_of_notMem hin]⟩
  · rw [hpatch]
    exact .inr ⟨_, h, rfl, .inl rfl, hs⟩

end

/-- With `t` on record and `S` in the tree a fix can be put in: it is on record, or its patch is in
the tree, or some tree takes it. -/
def Usable (r : Repository) (runner : Runner σ) (has : Host σ → Finset String → Prop)
    (t : Tracked (Host σ)) (S : Finset String) (f : Fix) : Prop :=
  t.holds f = true ∨ ∃ p, f.Carries p ∧ (p ∈ S ∨ r.Takes runner has p)

/-- Fixes put in one after the other: each is usable, or each before one that is kept out. -/
inductive Went (usable : Fix → Prop) : List Fix → Option WorkspaceError → Prop
  | through {fs : List Fix} (h : ∀ f ∈ fs, usable f) : Went usable fs none
  | stopped {pre post : List Fix} {g : Fix} {e : WorkspaceError} (h : ∀ f ∈ pre, usable f)
      (hg : g.KeptOut e) : Went usable (pre ++ g :: post) (some e)

/-- What putting in `fs` has made of a record and of a tree. Nothing went off the record, and the
patches that are new in the tree belong to fixes on record. -/
structure PutIn (has : Host σ → Finset String → Prop) (fs : List Fix) (t : Tracked (Host σ))
    (S : Finset String) (t' : Tracked (Host σ)) (S' : Finset String) : Prop where
  has : has t'.world S'
  held : ∀ g, t.holds g = true → t'.holds g = true
  new : ∀ p ∈ S', p ∈ S ∨ ∃ f ∈ fs, f.Carries p ∧ t'.holds f = true

/-- The end of putting fixes in, at the first error if there is one. -/
def endOf (e : Option WorkspaceError) (t : Tracked (Host σ)) :
    EStateM.Result Fault (Tracked (Host σ)) Unit :=
  match e with
  | none => .ok () t
  | some e => .error (.workspace e) t

section
variable {t t' : Tracked (Host σ)} {g : Fix} {S' : Finset String} {usable usable' : Fix → Prop}
  {e : Option WorkspaceError}

theorem Went.cons (hf : usable f) (h : Went usable fs e) : Went usable (f :: fs) e := by
  cases h with
  | through h => exact .through (List.forall_mem_cons.mpr ⟨hf, h⟩)
  | stopped h hg => exact .stopped (List.forall_mem_cons.mpr ⟨hf, h⟩) hg

theorem Went.imp (h : Went usable fs e) (hu : ∀ f ∈ fs, usable f → usable' f) :
    Went usable' fs e := by
  cases h with
  | through h => exact .through fun f hf => hu f hf (h f hf)
  | stopped h hg => exact .stopped (fun f hf => hu f (List.mem_append_left _ hf) (h f hf)) hg

theorem PutIn.cons (h : PutIn has fs t S t' S') : PutIn has (f :: fs) t S t' S' :=
  ⟨h.has, h.held, fun p hp =>
    (h.new p hp).imp_right fun ⟨g, hg, hgp⟩ => ⟨g, List.mem_cons_of_mem f hg, hgp⟩⟩

theorem PutIn.cons_added {world : Host σ} (hcarries : f.Carries p)
    (h : PutIn has fs (Tracked.add f { t with world }) (insert p S) t' S') :
    PutIn has (f :: fs) t S t' S' := by
  have hown : t'.holds f = true := h.held f (Tracked.holds_add.mpr (.inr rfl))
  refine ⟨h.has, fun g hg => h.held g (Tracked.holds_add.mpr (.inl hg)), fun q hq => ?_⟩
  rcases h.new q hq with hq | ⟨g, hg, hgq⟩
  · rcases Finset.mem_insert.mp hq with rfl | hq
    · exact .inr ⟨f, List.mem_cons_self, hcarries, hown⟩
    · exact .inl hq
  · exact .inr ⟨g, List.mem_cons_of_mem f hg, hgq⟩

/-- Putting in one fix makes no other usable. -/
theorem usable_of_add (hne : g.key ≠ f.key) (hp : p ∈ S ∨ r.Takes runner has p)
    (h : r.Usable runner has (Tracked.add f { t with world := h' }) (insert p S) g) :
    r.Usable runner has t S g := by
  rcases h with h | ⟨q, hq, h⟩
  · exact .inl ((Tracked.holds_add.mp h).resolve_right hne)
  · refine .inr ⟨q, hq, ?_⟩
    rcases h with h | h
    · rcases Finset.mem_insert.mp h with rfl | h
      · exact hp
      · exact .inl h
    · exact .inr h

variable (hr : r.Served runner has)
include hr

/-- Fixes are put in up to the first that cannot be. -/
theorem injectEach_of_has (t : Tracked (Host σ)) (S : Finset String) (hfs : ∀ f ∈ fs, f.Patched)
    (hn : (fs.map Fix.key).Nodup) (ht : has t.world S) :
    ∃ t' S' e, (r.backend runner).injectEach fs t = endOf e t' ∧ PutIn has fs t S t' S' ∧
      Went (r.Usable runner has t S) fs e := by
  induction fs generalizing t S with
  | nil => exact ⟨t, S, none, rfl, ⟨ht, fun _ => id, fun _ => .inl⟩, .through (by simp)⟩
  | cons f rest ih =>
    rw [List.forall_mem_cons] at hfs
    rw [List.map_cons, List.nodup_cons] at hn
    unfold Backend.injectEach
    by_cases hf : t.holds f
    · obtain ⟨t', S', e, hrest, hput, hwent⟩ := ih t S hfs.2 hn.2 ht
      exact ⟨t', S', e, by simp only [hf, if_true, hrest], hput.cons, hwent.cons (.inl hf)⟩
    · simp only [hf, Bool.false_eq_true, if_false]
      rcases applyFix_of_has hr hfs.1 ht with
        ⟨p, world, hcarries, ha, hworld, htaken⟩ | ⟨e, world, ha, hout, hworld⟩
      · obtain ⟨t', S', e, hrest, hput, hwent⟩ :=
          ih (Tracked.add f { t with world }) (insert p S) hfs.2 hn.2 hworld
        have hkeep : ∀ g ∈ rest,
            r.Usable runner has (Tracked.add f { t with world }) (insert p S) g →
              r.Usable runner has t S g :=
          fun g hg => usable_of_add (fun hkey => hn.1 (hkey ▸ List.mem_map_of_mem hg)) htaken
        exact ⟨t', S', e, by simp only [ha, hrest], hput.cons_added hcarries,
          (hwent.imp hkeep).cons (.inr ⟨p, hcarries, htaken⟩)⟩
      · have hstopped : Went (r.Usable runner has t S) ([] ++ f :: rest) (some e) :=
          .stopped (by simp) hout
        exact ⟨{ t with world }, S, some e, by simp only [ha, endOf],
          ⟨hworld, fun _ => id, fun _ => .inl⟩, hstopped⟩

/-- Of what was on record, a fix stays there only if that was said of it, and so does its patch. -/
theorem revertEach_of_has (t : Tracked (Host σ)) (S : Finset String) (hfs : ∀ f ∈ fs, f.Patched)
    (hn : (fs.map Fix.key).Nodup) (ht : has t.world S) :
    ∃ errors t' S', (r.backend runner).revertEach fs t = .ok errors t' ∧ has t'.world S' ∧
      S' ⊆ S ∧ (∀ g, t'.holds g = true → t.holds g = true) ∧
      ∀ f ∈ fs, t.holds f = true → (t'.holds f = true ∨ ∃ p ∈ S', f.Carries p) →
        ∃ e ∈ errors, f.KeptIn e := by
  induction fs generalizing t S with
  | nil => exact ⟨[], t, S, rfl, ht, subset_rfl, fun _ => id, by simp⟩
  | cons f rest ih =>
    rw [List.forall_mem_cons] at hfs
    rw [List.map_cons, List.nodup_cons] at hn
    have hapart : ∀ g ∈ rest, g.key ≠ f.key :=
      fun g hg hkey => hn.1 (hkey ▸ List.mem_map_of_mem hg)
    unfold Backend.revertEach
    by_cases hf : t.holds f
    · simp only [hf, Bool.not_true, Bool.false_eq_true, if_false]
      rcases removeFix_of_has hr hfs.1 ht with
        ⟨p, world, hcarries, ha, hworld⟩ | ⟨e, world, ha, hkept, hworld⟩
      · obtain ⟨errors, t', S', hrest, ht', hsub, hmono, htold⟩ :=
          ih (Tracked.drop f { t with world }) (S.erase p) hfs.2 hn.2 hworld
        refine ⟨errors, t', S', by simp only [ha, hrest], ht', hsub.trans (Finset.erase_subset p S),
          fun g hg => (Tracked.holds_drop.mp (hmono g hg)).1,
          List.forall_mem_cons.mpr ⟨fun _ h => ?_,
            fun g hg hgt => htold g hg (Tracked.holds_drop.mpr ⟨hgt, hapart g hg⟩)⟩⟩
        -- the fix was taken out, and is neither on record nor in the tree any more
        rcases h with h | ⟨q, hq, hcarriesq⟩
        · exact absurd rfl (Tracked.holds_drop.mp (hmono f h)).2
        · exact absurd (hcarries.inj hcarriesq).symm (Finset.mem_erase.mp (hsub hq)).1
      · obtain ⟨errors, t', S', hrest, ht', hsub, hmono, htold⟩ :=
          ih { t with world } S hfs.2 hn.2 hworld
        refine ⟨e :: errors, t', S', by simp only [ha, hrest], ht', hsub, hmono,
          List.forall_mem_cons.mpr ⟨fun _ _ => ⟨e, List.mem_cons_self, hkept⟩, ?_⟩⟩
        intro g hg hgt h
        obtain ⟨e', he', hkept'⟩ := htold g hg hgt h
        exact ⟨e', List.mem_cons_of_mem e he', hkept'⟩
    · simp only [hf, Bool.not_false, if_true]
      obtain ⟨errors, t', S', hrest, ht', hsub, hmono, htold⟩ := ih t S hfs.2 hn.2 ht
      exact ⟨errors, t', S', hrest, ht', hsub, hmono,
        List.forall_mem_cons.mpr ⟨fun h => absurd h hf, htold⟩⟩

end

theorem patched_dedupe (hfs : ∀ f ∈ fs, f.Patched) : ∀ f ∈ Fix.dedupe fs, f.Patched := by
  refine Fix.forall_mem_dedupe (fun g f hg hf j hj => ?_) hfs
  -- of two suggestions of one fix the first patch stays
  change (g.patch <|> f.patch) = some j at hj
  cases hgp : g.patch with
  | none => exact hf j (by simpa [hgp] using hj)
  | some j' => exact hg j (by simpa [hgp] using hj)

/-- What is left of a batch in a tree that held `S`, and on record: nothing but what `errors` tell
of, as a fix that could not be taken out. -/
structure LeftOf (has : Host σ → Finset String → Prop) (batch : List Fix) (S : Finset String)
    (errors : List WorkspaceError) (t' : Tracked (Host σ)) : Prop where
  recorded : ∀ f ∈ batch, t'.holds f = true → ∃ e ∈ errors, f.KeptIn e
  applied : ∃ S', has t'.world S' ∧
    ∀ p ∈ S', p ∈ S ∨ ∃ f ∈ batch, f.Carries p ∧ ∃ e ∈ errors, f.KeptIn e

/-- What is said of the fixes that could not be taken out. -/
def revertLog (errors : List WorkspaceError) : Option String :=
  if errors.isEmpty then none else some s!"revert failed: {(WorkspaceError.several errors).message}"

/-- Whatever its removals came to, a batch is closed, with a log of those that failed. -/
theorem close_of_revertEach {ω : Type} {b : Backend ω} {own : Act ω (List Diagnostic)}
    {t t' : Tracked ω} {errors : List WorkspaceError} (hn : (fs.map Fix.key).Nodup)
    (h : b.revertEach fs t = .ok errors t') :
    Batch.close (b.workspace own) fs t = (.ok (revertLog errors), ⟨t', false⟩) := by
  have hrevert : (b.workspace own).revert fs t =
      if errors.isEmpty then .ok () t' else .error (.workspace (.several errors)) t' :=
    Backend.revert_of_revertEach hn h
  unfold Batch.close
  rw [hrevert]
  cases errors <;> rfl

/-- A result that tells of `errors`, and, if some fix of the batch is not usable, of the first that
could not be put in. -/
structure Tells (r : Repository) (runner : Runner σ) (has : Host σ → Finset String → Prop)
    (t : Tracked (Host σ)) (batch : List Fix) (S : Finset String) (errors : List WorkspaceError)
    (result : BatchResult) : Prop where
  kept : ∀ log ∈ revertLog errors, result.ok = false ∧ log ∈ result.logs
  unusable : ∀ f ∈ batch, ¬ r.Usable runner has t S f → result.ok = false ∧
    ∃ e pre g post, batch = pre ++ g :: post ∧ f ∈ g :: post ∧ g.KeptOut e ∧
      s!"verification failed: {e.message}" ∈ result.logs

theorem Tells.of_usable {t : Tracked (Host σ)} {errors : List WorkspaceError} {result : BatchResult}
    (h : ∀ f ∈ fs, r.Usable runner has t S f)
    (hkept : ∀ log ∈ revertLog errors, result.ok = false ∧ log ∈ result.logs) :
    Tells r runner has t fs S errors result :=
  ⟨hkept, fun f hf hunusable => (hunusable (h f hf)).elim⟩

theorem Tells.of_stopped {t : Tracked (Host σ)} {errors : List WorkspaceError} {pre post : List Fix}
    {g : Fix} {e : WorkspaceError} (h : ∀ f ∈ pre, r.Usable runner has t S f) (hg : g.KeptOut e) :
    Tells r runner has t (pre ++ g :: post) S errors ⟨false, pre ++ g :: post,
      s!"verification failed: {e.message}" :: (revertLog errors).toList⟩ where
  kept _ hlog := ⟨rfl, List.mem_cons_of_mem _ (Option.mem_toList.mpr hlog)⟩
  unusable f hf hunusable :=
    have hafter : f ∈ g :: post :=
      (List.mem_append.mp hf).resolve_left fun hpre => hunusable (h f hpre)
    ⟨rfl, e, pre, g, post, rfl, hafter, hg, List.mem_cons_self⟩

/-- Builds that report, or fail as builds do, and leave the tree as it is. -/
def Builds (has : Host σ → Finset String → Prop) (v : Act (Host σ) (List Diagnostic)) : Prop :=
  ∀ h S, has h S → (∃ ds h', v h = .ok ds h' ∧ has h' S) ∨
    ∃ e h', v h = .error (.workspace e) h' ∧ has h' S

section
variable {β : Type} {t t' : Tracked (Host σ)} {own v : Act (Host σ) (List Diagnostic)}
  {S' : Finset String} (hr : r.Served runner has)
include hr

theorem close_of_has (hfs : ∀ f ∈ fs, f.Patched) (hn : (fs.map Fix.key).Nodup)
    (ht : has t.world S')
    (hnew : ∀ p ∈ S', p ∈ S ∨ ∃ f ∈ fs, f.Carries p ∧ t.holds f = true) :
    ∃ errors t', LeftOf has fs S errors t' ∧
      Batch.close ((r.backend runner).workspace own) fs t =
        (.ok (revertLog errors), ⟨t', false⟩) := by
  obtain ⟨errors, t', S'', hrevert, ht', hsub, hmono, htold⟩ :=
    revertEach_of_has hr t S' hfs hn ht
  refine ⟨errors, t', ⟨fun f hf hft => ?_, S'', ht', fun p hp => ?_⟩, ?_⟩
  · exact htold f hf (hmono f hft) (.inl hft)
  · rcases hnew p (hsub hp) with hold | ⟨f, hf, hcarries, hft⟩
    · exact .inl hold
    · exact .inr ⟨f, hf, hcarries, htold f hf hft (.inr ⟨p, hp, hcarries⟩)⟩
  · exact close_of_revertEach hn hrevert

/-- Whether a batch ends in a result or in a fault of its measurement, nothing of it is left in the
tree or on record but what was told of as not taken out. A result tells of it, and of a fix that is
not usable. -/
theorem batch_undone {fixes : List Fix} (own : Act (Host σ) (List Diagnostic)) (hv : Builds has v)
    (hfixes : ∀ f ∈ fixes, f.Patched) (ht : has t.world S) (locked : Bool)
    (m : List Diagnostic → Site (Tracked (Host σ)) → β × Except Fault Unit) :
    ∃ run t' errors, Batch.run ((r.backend runner).workspace own) (Tracked.inside v) fixes m
        ⟨t, locked⟩ = (run, ⟨t', false⟩) ∧
      LeftOf has (Fix.dedupe fixes) S errors t' ∧
      ((∃ result, run.outcome = .ok result ∧
          Tells r runner has t (Fix.dedupe fixes) S errors result) ∨
        ∃ ds site e, (m ds site).2 = .error e ∧ run.outcome = .error e) := by
  have hpatched := patched_dedupe hfixes
  have hnodup : ((Fix.dedupe fixes).map Fix.key).Nodup := Fix.nodup_keys_dedupe
  obtain ⟨t₁, S₁, e, hend, hput, hwent⟩ := injectEach_of_has hr t S hpatched hnodup ht
  have hinject : ((r.backend runner).workspace own).inject (Fix.dedupe fixes) t = endOf e t₁ := by
    change (r.backend runner).injectEach (Fix.dedupe (Fix.dedupe fixes)) t = _
    rw [Fix.dedupe_of_nodup hnodup, hend]
  have hclose : ∀ world, has world S₁ → ∃ errors t', LeftOf has (Fix.dedupe fixes) S errors t' ∧
      Batch.close ((r.backend runner).workspace own) (Fix.dedupe fixes) { t₁ with world } =
        (.ok (revertLog errors), ⟨t', false⟩) := by
    intro world hworld
    exact close_of_has hr hpatched hnodup (t := { t₁ with world }) hworld hput.new
  generalize hbatch : Fix.dedupe fixes = batch at *
  cases hwent with
  | through husable =>
    have hbuilds : Batch.build ((r.backend runner).workspace own) (Tracked.inside v) batch t =
        Tracked.inside v t₁ := bind_of_ok hinject
    unfold Tracked.inside at hbuilds
    rcases hv t₁.world S₁ hput.has with ⟨ds, world, hbuild, hworld⟩ | ⟨e, world, hbuild, hworld⟩
    · obtain ⟨errors, t', hleft, hclosed⟩ := hclose world hworld
      simp only [hbuild] at hbuilds
      subst hbatch
      refine ⟨_, t', errors, Batch.run_of_build hbuilds hclosed, hleft, ?_⟩
      cases hm : (m ds ⟨{ t₁ with world }, true⟩).2 with
      | error e => exact .inr ⟨ds, _, e, hm, rfl⟩
      | ok _ =>
        refine .inl ⟨_, rfl, .of_usable husable fun log hlog => ?_⟩
        rw [Option.mem_def.mp hlog]
        exact ⟨rfl, List.mem_cons_self⟩
    · obtain ⟨errors, t', hleft, hclosed⟩ := hclose world hworld
      simp only [hbuild] at hbuilds
      subst hbatch
      exact ⟨_, t', errors, Batch.run_of_failure hbuilds hclosed, hleft, .inl ⟨_, rfl,
        .of_usable husable fun log hlog =>
          ⟨rfl, List.mem_cons_of_mem _ (Option.mem_toList.mpr hlog)⟩⟩⟩
  | @stopped pre post g e husable hg =>
    obtain ⟨errors, t', hleft, hclosed⟩ := hclose t₁.world hput.has
    have hbuilds : Batch.build ((r.backend runner).workspace own) (Tracked.inside v)
        (pre ++ g :: post) t = .error (.workspace e) t₁ := bind_of_error hinject
    rw [← hbatch] at hbuilds hclosed
    refine ⟨_, t', errors, Batch.run_of_failure hbuilds hclosed, hleft, .inl ⟨_, rfl, ?_⟩⟩
    rw [hbatch]
    exact .of_stopped husable hg

end

/-- On paper a tree holds the patches that are applied to it. -/
def OnPaper (conflicts : List PatchRule) (h : Host PatchTree) (S : Finset String) : Prop :=
  (h.rest.applied.Nodup ∧ h.rest.applied.toFinset = S) ∧ h.rest.conflicts = conflicts ∧
    h.rest.leaky = []

theorem served_onPaper (r : Repository) (conflicts : List PatchRule) :
    r.Served PatchTree.runner (OnPaper conflicts) := by
  constructor
  · rintro p h _ hs
    by_cases hp : p ∈ h.rest.applied
    · refine ⟨0, "", "", h, ?_, hs, by simp [← hs.1.2, hp]⟩
      change ((h.rest.check p, _) : Outcome × Host PatchTree) = _
      simp [PatchTree.check, hp]
    · refine ⟨1, "", "error: patch does not apply\n", h, ?_, hs, by simp [← hs.1.2, hp]⟩
      change ((h.rest.check p, _) : Outcome × Host PatchTree) = _
      simp [PatchTree.check, hp]
  · rintro p h _ ⟨⟨hn, rfl⟩, hc, hl⟩ hp
    change ∃ code output errors h',
      ((h.rest.apply p).1, { h with rest := (h.rest.apply p).2 }) = _ ∧ _
    unfold PatchTree.apply
    cases PatchTree.rule? h.rest.conflicts p with
    | some rule => exact ⟨1, rule.output, rule.errors, h, rfl, ⟨hn, rfl⟩, hc, hl⟩
    | none =>
      refine ⟨0, "", "", { h with rest := { h.rest with applied := h.rest.applied ++ [p] } }, rfl,
        ⟨?_, ?_⟩, hc, hl⟩
      · rw [← List.concat_eq_append]
        exact hn.concat (by simpa using hp)
      · ext q
        rw [if_pos rfl, Finset.mem_insert, List.mem_toFinset, List.mem_toFinset, List.mem_append,
          List.mem_singleton, or_comm]
  · rintro p h _ ⟨⟨hn, rfl⟩, hc, hl⟩ hp
    change ∃ code output errors h',
      ((h.rest.reverse p).1, { h with rest := (h.rest.reverse p).2 }) = _ ∧ _
    unfold PatchTree.reverse
    cases PatchTree.rule? h.rest.stuck p with
    | some rule => exact ⟨1, rule.output, rule.errors, h, rfl, ⟨hn, rfl⟩, hc, hl⟩
    | none =>
      have hin : h.rest.applied.contains p = true := by simpa using hp
      have hnone : (PatchTree.rule? h.rest.leaky p).isSome = false := by
        rw [hl]
        rfl
      simp only [hin, hnone, Bool.not_true, Bool.false_eq_true, if_false]
      refine ⟨0, "", "", { h with rest := { h.rest with applied := h.rest.applied.erase p } }, rfl,
        ⟨hn.erase p, ?_⟩, hc, hl⟩
      ext q
      simp [hn.mem_erase_iff]

theorem rule?_of_takes {conflicts : List PatchRule}
    (ht : r.Takes PatchTree.runner (OnPaper conflicts) p) : PatchTree.rule? conflicts p = none := by
  obtain ⟨h, S, output, errors, h', ⟨-, hc, -⟩, -, hrun⟩ := ht
  change ((h.rest.apply p).1, { h with rest := (h.rest.apply p).2 }) = _ at hrun
  unfold PatchTree.apply at hrun
  rw [hc] at hrun
  cases hrule : PatchTree.rule? conflicts p with
  | none => rfl
  | some rule => simp [hrule] at hrun

/-- A fix that replaces one line by another. -/
def replacing (member old : String) : Fix :=
  { Fix.ofField "A" member with
    patch := some (.text ("diff --git a/mod.py b/mod.py\n@@ -1 +1 @@\n-" ++ old ++ "\n+new\n")) }

/-- A tree that refuses to replace a line that is not there. -/
def sheet : PatchTree :=
  { head := none, conflicts := [⟨"-gone", "", "error: patch failed: mod.py:1\n"⟩], stuck := []
    leaky := [], applied := [] }

theorem patched_replacing {member old : String} (h : Patch.Complete
    ("diff --git a/mod.py b/mod.py\n@@ -1 +1 @@\n-" ++ old ++ "\n+new\n")) :
    (replacing member old).Patched := by
  rintro j hj
  exact ⟨_, (Option.some.inj hj).symm, h⟩

theorem dedupe_replacing : Fix.dedupe [replacing "x" "old", replacing "y" "gone"] =
    [replacing "x" "old", replacing "y" "gone"] :=
  Fix.dedupe_of_nodup (by decide)

theorem not_usable_replacing : ¬ Usable ⟨"w"⟩ PatchTree.runner (OnPaper sheet.conflicts)
    (Tracked.start ⟨.empty, sheet⟩) ∅ (replacing "y" "gone") := by
  have hnormal : Patch.normalize "diff --git a/mod.py b/mod.py\n@@ -1 +1 @@\n-gone\n+new\n" = .ok
      "diff --git a/mod.py b/mod.py\n--- a/mod.py\n+++ b/mod.py\n@@ -1 +1 @@\n-gone\n+new\n" := by
    decide +kernel
  have hrefused : (PatchTree.rule? sheet.conflicts
      "diff --git a/mod.py b/mod.py\n--- a/mod.py\n+++ b/mod.py\n@@ -1 +1 @@\n-gone\n+new\n").isSome :=
    by decide +kernel
  have hcarries : (replacing "y" "gone").Carries _ := ⟨_, rfl, by decide +kernel, hnormal⟩
  rintro (hheld | ⟨p, hp, hin | htakes⟩)
  · cases hheld
  · exact absurd hin (Finset.notMem_empty p)
  · obtain rfl := hcarries.inj hp
    simp [rule?_of_takes htakes] at hrefused

/-- The second fix is refused, and the batch says so and leaves nothing that it does not tell of. -/
theorem batch_undone_refused : ∃ run t' errors result,
    Batch.run (((Repository.mk "w").backend PatchTree.runner).workspace (pure []))
        (Tracked.inside (pure [])) [replacing "x" "old", replacing "y" "gone"]
        (fun _ _ => ((), .ok ())) ⟨Tracked.start ⟨.empty, sheet⟩, false⟩ = (run, ⟨t', false⟩) ∧
      LeftOf (OnPaper sheet.conflicts) [replacing "x" "old", replacing "y" "gone"] ∅ errors t' ∧
      run.outcome = .ok result ∧ result.ok = false := by
  have hbuilds : Builds (OnPaper sheet.conflicts) (pure []) := fun h S hs => .inl ⟨[], h, rfl, hs⟩
  have hpatched : ∀ f ∈ [replacing "x" "old", replacing "y" "gone"], f.Patched := by
    simp only [List.forall_mem_cons, List.not_mem_nil, false_imp_iff, implies_true, and_true]
    exact ⟨patched_replacing (by decide +kernel), patched_replacing (by decide +kernel)⟩
  have hclean : OnPaper sheet.conflicts (Tracked.start (Host.mk .empty sheet)).world ∅ :=
    ⟨⟨List.nodup_nil, rfl⟩, rfl, rfl⟩
  obtain ⟨run, t', errors, hrun, hleft, hend⟩ :=
    batch_undone (served_onPaper ⟨"w"⟩ sheet.conflicts) (pure []) hbuilds hpatched hclean false
      fun _ _ => ((), .ok ())
  rw [dedupe_replacing] at hleft hend
  rcases hend with ⟨result, hok, htells⟩ | ⟨ds, site, e, hm, -⟩
  · have hunusable := htells.unusable (replacing "y" "gone") (by simp) not_usable_replacing
    exact ⟨run, t', errors, result, hrun, hleft, hok, hunusable.1⟩
  · cases hm

/-- A fix whose patch ends in the middle of a section header. -/
def cutOff : Fix := { Fix.ofField "A" "y" with patch := some (.text "diff --git a/mod.py") }

/-- A batch that ended at a cut-off header, with `f` on record and one patch in the tree. -/
def stopsAtHeader (f : Fix) : BatchRun Unit × Site (Tracked (Host PatchTree)) → Bool
  | (⟨.error .truncatedHeader, _⟩, ⟨t', false⟩) =>
    t'.holds f && t'.world.rest.applied.length == 1
  | _ => false

/-- A header that names one file is no workspace error, and the fix put in before it stays, in the
tree and on record. -/
theorem batch_cut_off : ∃ run t',
    Batch.run (((Repository.mk "w").backend PatchTree.runner).workspace (pure []))
        (Tracked.inside (pure [])) [replacing "x" "old", cutOff]
        (fun _ _ => ((), .ok ())) ⟨Tracked.start ⟨.empty, sheet⟩, false⟩ = (run, ⟨t', false⟩) ∧
      run.outcome = .error .truncatedHeader ∧ t'.holds (replacing "x" "old") = true ∧
      t'.world.rest.applied.length = 1 := by
  have hrun : stopsAtHeader (replacing "x" "old")
      (Batch.run (((Repository.mk "w").backend PatchTree.runner).workspace (pure []))
        (Tracked.inside (pure [])) [replacing "x" "old", cutOff]
        (fun _ _ => ((), .ok ())) ⟨Tracked.start ⟨.empty, sheet⟩, false⟩) = true := by
    decide +kernel
  unfold stopsAtHeader at hrun
  split at hrun
  next t' heq =>
    simp only [Bool.and_eq_true, beq_iff_eq] at hrun
    exact ⟨_, t', heq, rfl, hrun⟩
  next => cases hrun

end Repository
end FixTrial
