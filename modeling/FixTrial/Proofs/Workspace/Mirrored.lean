import FixTrial.Proofs.Suggestions
import FixTrial.Proofs.Workspace.Restored

/-!
The record of a tracker and the tree behind it. A fix is known by its place and its mark, and a
change of the tree by its patch; where these two part, a fix may be on record and its patch not be in
the tree, or the other way around.
-/
namespace FixTrial
open Act

theorem Fix.exists_carries_of_mem_dedupe {f : Fix} {fixes : List Fix} {p : String}
    (hf : f ∈ dedupe fixes) (hp : f.Carries p) : ∃ g ∈ fixes, g.key = f.key ∧ g.Carries p := by
  obtain ⟨s, hs, hempty, hnormal⟩ := hp
  obtain ⟨g, hg, hkey, hpatch⟩ := exists_patch_of_mem_dedupe hf hs
  exact ⟨g, hg, hkey, s, hpatch, hempty, hnormal⟩

/-- The patch of a fix tells it from the others just as its key does. -/
def Fix.ToldByPatch (fixes : List Fix) : Prop :=
  ∀ f ∈ fixes, ∀ g ∈ fixes, ∀ p q, f.Carries p → g.Carries q → (f.key = g.key ↔ p = q)

namespace Tracked
variable {ω : Type}

/-- A fix on record carries the patch. -/
def Carries (t : Tracked ω) (p : String) : Prop := ∃ f ∈ t.injected, f.Carries p

/-- Of the fixes `fs`, those that go off the record between `t` and `t'` take exactly those patches
along that no fix left on record carries. -/
structure Parts (fs : List Fix) (t t' : Tracked ω) : Prop where
  spares : ∀ f ∈ fs, t.holds f = true → t'.holds f = false → ∀ p, f.Carries p → ¬ t'.Carries p
  clears : ∀ p, t.Carries p → ¬ t'.Carries p →
    ∃ f ∈ fs, t.holds f = true ∧ t'.holds f = false ∧ f.Carries p

/-- The tree holds the patches of the fixes on record, each once, and else only what it held at
first. -/
def Mirrors (first : List String) (t : Tracked (Host PatchTree)) : Prop :=
  ∃ new, t.world.rest.applied = first ++ new ∧ new.Nodup ∧ ∀ p, p ∈ new ↔ t.Carries p

end Tracked

namespace Repository
variable {r : Repository} {t : Tracked (Host PatchTree)} {f : Fix} {fs fixes : List Fix}
  {first ps new : List String} {p : String} {edits : List Edit}

/-- A fix without a patch that can be completed is neither put in nor taken out. -/
theorem refuses_of_not_carries (hf : ¬ ∃ p, f.Carries p) (h : Host PatchTree) :
    ∃ e, (r.backend PatchTree.runner).apply f h = .error e h ∧
      (r.backend PatchTree.runner).remove f h = .error e h := by
  change ∃ e, r.applyFix PatchTree.runner f h = _ ∧ r.removeFix PatchTree.runner f h = _
  unfold applyFix removeFix patchOf
  cases hj : f.patch with
  | none => exact ⟨_, rfl, rfl⟩
  | some j =>
    split
    next s hs =>
      cases hs
      by_cases hempty : s.isEmpty
      · simp only [hempty, if_true]
        exact ⟨_, rfl, rfl⟩
      · cases hp : Patch.normalize s with
        | ok p => exact absurd ⟨p, s, hj, by simpa using hempty, hp⟩ hf
        | error e =>
          have happlied : isApplied PatchTree.runner r s h = .error .truncatedHeader h := by
            unfold isApplied normalized
            rw [hp]
            rfl
          simp only [hempty, Bool.false_eq_true, if_false, pure_bind]
          exact ⟨_, bind_of_error happlied, bind_of_error happlied⟩
    next => exact ⟨_, rfl, rfl⟩
    next hnone => cases hnone

/-- An injection puts some of its fixes in and on record, as they come. -/
theorem final_injectEach (hy : t.world.rest.Yielding) : ∃ put ps, List.Forall₂ Fix.Carries put ps ∧
    put.Sublist fs ∧ final ((r.backend PatchTree.runner).injectEach fs t) =
      ⟨t.world.holding (Keyed.union id t.world.rest.applied ps), t.injected ++ put⟩ := by
  have hstays (t : Tracked (Host PatchTree)) :
      t = ⟨t.world.holding (Keyed.union id t.world.rest.applied []), t.injected ++ []⟩ := by
    rw [List.append_nil]
    rfl
  induction fs generalizing t with
  | nil => exact ⟨[], [], .nil, .slnil, hstays t⟩
  | cons f rest ih =>
    unfold Backend.injectEach
    cases hf : t.holds f with
    | true =>
      obtain ⟨put, ps, hps, hput, hfinal⟩ := ih hy
      exact ⟨put, ps, hps, hput.cons f, hfinal⟩
    | false =>
      simp only [Bool.false_eq_true, if_false]
      by_cases hp : ∃ p, f.Carries p
      · obtain ⟨p, hp⟩ := hp
        obtain ⟨put, ps, hps, hput, hfinal⟩ := ih
          (t := ⟨t.world.holding (Keyed.insert id t.world.rest.applied p), t.injected ++ [f]⟩)
          ⟨hy.conflicts, hy.stuck, hy.leaky⟩
        have hadd (world : Host PatchTree) :
            Tracked.add f ⟨world, t.injected⟩ = ⟨world, t.injected ++ [f]⟩ :=
          Tracked.add_of_new hf
        refine ⟨f :: put, p :: ps, .cons hp hps, hput.cons_cons f, ?_⟩
        simp only [apply_of_yielding hy hp, hadd, hfinal, List.append_assoc, List.singleton_append]
        rfl
      · obtain ⟨e, happly, -⟩ := refuses_of_not_carries (r := r) hp t.world
        rw [happly]
        exact ⟨[], [], .nil, List.nil_sublist _, hstays t⟩

/-- A revert takes some of its fixes out and off the record, as they come. -/
theorem final_revertEach (hy : t.world.rest.Yielding) :
    ∃ out ps, List.Forall₂ Fix.Carries out ps ∧ out.Sublist fs ∧ (∀ f ∈ out, t.holds f = true) ∧
      final ((r.backend PatchTree.runner).revertEach fs t) =
        ⟨t.world.holding (t.world.rest.applied.diff ps), Keyed.without Fix.key t.injected out⟩ := by
  have hstays (t : Tracked (Host PatchTree)) :
      t = ⟨t.world.holding (t.world.rest.applied.diff []), Keyed.without Fix.key t.injected []⟩ := by
    have hall : Keyed.without Fix.key t.injected [] = t.injected :=
      List.filter_eq_self.mpr fun _ _ => rfl
    rw [hall]
    rfl
  induction fs generalizing t with
  | nil => exact ⟨[], [], .nil, .slnil, by simp, hstays t⟩
  | cons f rest ih =>
    unfold Backend.revertEach
    cases hf : t.holds f with
    | false =>
      obtain ⟨out, ps, hps, hout, hheld, hfinal⟩ := ih hy
      exact ⟨out, ps, hps, hout.cons f, hheld, hfinal⟩
    | true =>
      simp only [Bool.not_true, Bool.false_eq_true, if_false]
      by_cases hp : ∃ p, f.Carries p
      · obtain ⟨p, hp⟩ := hp
        obtain ⟨out, ps, hps, hout, hheld, hfinal⟩ := ih
          (t := Tracked.drop f { t with world := t.world.holding (t.world.rest.applied.erase p) })
          ⟨hy.conflicts, hy.stuck, hy.leaky⟩
        have hdrop : Keyed.without Fix.key (t.injected.filter fun g => g.key ≠ f.key) out =
            Keyed.without Fix.key t.injected (f :: out) := by
          unfold Keyed.without
          rw [List.filter_filter]
          refine List.filter_congr fun g _ => ?_
          by_cases hg : g.key = f.key <;> simp [Keyed.has, hg, eq_comm]
        refine ⟨f :: out, p :: ps, .cons hp hps, hout.cons_cons f, ?_, ?_⟩
        · exact List.forall_mem_cons.mpr ⟨hf, fun g hg => (Tracked.holds_drop.mp (hheld g hg)).1⟩
        · simp only [remove_of_yielding hy hp, hfinal, List.diff_cons]
          rw [← hdrop]
          rfl
      · obtain ⟨e, -, hremove⟩ := refuses_of_not_carries (r := r) hp t.world
        rw [hremove]
        cases e with
        | workspace e =>
          obtain ⟨out, ps, hps, hout, hheld, hfinal⟩ := ih hy
          refine ⟨out, ps, hps, hout.cons f, hheld, ?_⟩
          rw [← hfinal]
          dsimp only
          cases (r.backend PatchTree.runner).revertEach rest t <;> rfl
        | _ => exact ⟨[], [], .nil, List.nil_sublist _, by simp, hstays t⟩

theorem leaves_inject (hy : t.world.rest.Yielding) (fixes : List Fix) :
    ∃ put ps, List.Forall₂ Fix.Carries put ps ∧ put.Sublist (Fix.dedupe fixes) ∧
      Edit.leaves (r.backend PatchTree.runner) t (.inject fixes) =
        ⟨t.world.holding (Keyed.union id t.world.rest.applied ps), t.injected ++ put⟩ :=
  final_injectEach hy

theorem leaves_revert (hy : t.world.rest.Yielding) (fixes : List Fix) :
    ∃ out ps, List.Forall₂ Fix.Carries out ps ∧ out.Sublist (Fix.dedupe fixes) ∧
      (∀ f ∈ out, t.holds f = true) ∧
      Edit.leaves (r.backend PatchTree.runner) t (.revert fixes) =
        ⟨t.world.holding (t.world.rest.applied.diff ps), Keyed.without Fix.key t.injected out⟩ := by
  rw [Edit.leaves, Backend.final_revert]
  exact final_revertEach hy

theorem yielding_leaves (hy : t.world.rest.Yielding) (e : Edit) :
    (Edit.leaves (r.backend PatchTree.runner) t e).world.rest.Yielding := by
  cases e with
  | inject fixes =>
    obtain ⟨_, _, _, _, hleaves⟩ := leaves_inject (r := r) hy fixes
    rw [hleaves]
    exact ⟨hy.conflicts, hy.stuck, hy.leaky⟩
  | revert fixes =>
    obtain ⟨_, _, _, _, _, hleaves⟩ := leaves_revert (r := r) hy fixes
    rw [hleaves]
    exact ⟨hy.conflicts, hy.stuck, hy.leaky⟩

theorem mem_carried (hps : List.Forall₂ Fix.Carries fs ps) : p ∈ ps ↔ ∃ f ∈ fs, f.Carries p := by
  induction hps with
  | nil => simp
  | cons hf _ ih =>
    rw [List.mem_cons, ih, List.exists_mem_cons_iff]
    exact or_congr_left ⟨fun hp => hp ▸ hf, fun hp => hp.inj hf⟩

theorem carries_of_mem (hps : List.Forall₂ Fix.Carries fs ps) (hf : f ∈ fs) : ∃ p, f.Carries p := by
  induction hps with
  | nil => cases hf
  | cons hg _ ih =>
    rcases List.mem_cons.mp hf with rfl | hf
    · exact ⟨_, hg⟩
    · exact ih hf

theorem append_diff (h : ∀ p ∈ ps, p ∉ first) : (first ++ new).diff ps = first ++ new.diff ps := by
  induction ps generalizing new with
  | nil => rfl
  | cons p ps ih =>
    rw [List.forall_mem_cons] at h
    rw [List.diff_cons, List.erase_append_right _ h.1, ih h.2, List.diff_cons]

theorem apart_of_sublist (hps : List.Forall₂ Fix.Carries fs ps) (hfs : fs.Sublist (Fix.dedupe fixes))
    (hapart : ∀ f ∈ fixes, ∀ p, f.Carries p → p ∉ first) : ∀ p ∈ ps, p ∉ first := by
  intro p hp
  obtain ⟨f, hf, hcarries⟩ := (mem_carried hps).mp hp
  obtain ⟨g, hg, -, hcarries⟩ := Fix.exists_carries_of_mem_dedupe (hfs.subset hf) hcarries
  exact hapart g hg p hcarries

/-- What an injection puts in comes on record with it. -/
theorem mirrors_inject (hy : t.world.rest.Yielding) (hm : t.Mirrors first)
    (hapart : ∀ f ∈ fixes, ∀ p, f.Carries p → p ∉ first) :
    (Edit.leaves (r.backend PatchTree.runner) t (.inject fixes)).Mirrors first := by
  obtain ⟨put, ps, hps, hput, hleaves⟩ := leaves_inject (r := r) hy fixes
  obtain ⟨new, happlied, hn, hnew⟩ := hm
  have hown : ∀ p ∈ ps, p ∉ first := apart_of_sublist hps hput hapart
  obtain ⟨more, hunion, hn', hmore⟩ := union_eq_append t.world.rest.applied ps
  have hmem : ∀ p, p ∈ more ↔ p ∈ ps ∧ p ∉ new := by
    intro p
    constructor
    · exact fun hp => ⟨(hmore p hp).1, fun hin => (hmore p hp).2 (by simp [happlied, hin])⟩
    · rintro ⟨hp, hout⟩
      have hin : p ∈ t.world.rest.applied ++ more := by
        rw [← hunion, Keyed.mem_union]
        exact .inr hp
      simpa [happlied, hown p hp, hout] using hin
  rw [hleaves]
  refine ⟨new ++ more, ?_, ?_, fun p => ?_⟩
  · change Keyed.union id t.world.rest.applied ps = _
    rw [hunion, happlied, List.append_assoc]
  · exact List.nodup_append.mpr ⟨hn, hn', fun p hp q hq hpq => ((hmem q).mp hq).2 (hpq ▸ hp)⟩
  · have hcarries : Tracked.Carries ⟨t.world.holding (Keyed.union id t.world.rest.applied ps),
        t.injected ++ put⟩ p ↔ t.Carries p ∨ p ∈ ps := by
      rw [mem_carried hps]
      simp only [Tracked.Carries, List.mem_append, or_and_right, exists_or]
    rw [List.mem_append, hmem, hcarries, hnew]
    tauto

/-- Nothing goes off the record at an injection. -/
theorem parts_inject (hy : t.world.rest.Yielding) (fixes : List Fix) :
    t.Parts (Fix.dedupe fixes) (Edit.leaves (r.backend PatchTree.runner) t (.inject fixes)) := by
  obtain ⟨put, _, _, _, hleaves⟩ := leaves_inject (r := r) hy fixes
  rw [hleaves]
  constructor
  · intro f _ hin hout
    rw [Tracked.holds_iff] at hin
    rw [Tracked.holds, Keyed.has_eq_false_iff, List.map_append, List.mem_append] at hout
    exact absurd (.inl hin) hout
  · rintro p ⟨f, hf, hp⟩ hnot
    exact absurd ⟨f, List.mem_append_left put hf, hp⟩ hnot

theorem holds_without {world : Host PatchTree} :
    Tracked.holds ⟨world, Keyed.without Fix.key t.injected fs⟩ f = true ↔
      t.holds f = true ∧ f.key ∉ fs.map Fix.key := by
  rw [Tracked.holds_iff, Keyed.mem_keys_without, Tracked.holds_iff]

/-- The fixes of a revert that go off the record are those that it took out. -/
theorem gone_iff {out : List Fix} {world : Host PatchTree} (hout : out.Sublist (Fix.dedupe fixes))
    (hheld : ∀ f ∈ out, t.holds f = true) (hf : f ∈ Fix.dedupe fixes) :
    t.holds f = true ∧ Tracked.holds ⟨world, Keyed.without Fix.key t.injected out⟩ f = false ↔
      f ∈ out := by
  rw [← Bool.not_eq_true, holds_without]
  constructor
  · rintro ⟨hin, hnot⟩
    obtain ⟨g, hg, hkey⟩ := List.mem_map.mp (not_not.mp fun hmem => hnot ⟨hin, hmem⟩)
    rwa [← List.inj_on_of_nodup_map Fix.nodup_keys_dedupe (hout.subset hg) hf hkey]
  · exact fun hmem => ⟨hheld f hmem, fun hleft => hleft.2 (List.mem_map_of_mem hmem)⟩

/-- After a revert the tree mirrors the record exactly if the fixes that went off it part cleanly
from those that stay. -/
theorem mirrors_revert (hy : t.world.rest.Yielding) (hm : t.Mirrors first)
    (hapart : ∀ f ∈ fixes, ∀ p, f.Carries p → p ∉ first) :
    (Edit.leaves (r.backend PatchTree.runner) t (.revert fixes)).Mirrors first ↔
      t.Parts (Fix.dedupe fixes) (Edit.leaves (r.backend PatchTree.runner) t (.revert fixes)) := by
  obtain ⟨out, ps, hps, hout, hheld, hleaves⟩ := leaves_revert (r := r) hy fixes
  obtain ⟨new, happlied, hn, hnew⟩ := hm
  generalize Edit.leaves (r.backend PatchTree.runner) t (.revert fixes) = t' at hleaves ⊢
  have hpatches : ∀ p, p ∈ ps ↔ ∃ f ∈ Fix.dedupe fixes, t.holds f = true ∧ t'.holds f = false ∧
      f.Carries p := by
    intro p
    rw [mem_carried hps, hleaves]
    constructor
    · rintro ⟨f, hf, hp⟩
      exact ⟨f, hout.subset hf, and_assoc.mp ⟨(gone_iff hout hheld (hout.subset hf)).mpr hf, hp⟩⟩
    · rintro ⟨f, hf, hin, hnot, hp⟩
      exact ⟨f, (gone_iff hout hheld hf).mp ⟨hin, hnot⟩, hp⟩
  have hless : ∀ p, t'.Carries p → t.Carries p := by
    rintro p ⟨f, hf, hp⟩
    rw [hleaves] at hf
    exact ⟨f, (List.mem_filter.mp hf).1, hp⟩
  have hleft : t'.Mirrors first ↔ ∀ p, t'.Carries p ↔ t.Carries p ∧ p ∉ ps := by
    have happlied' : t'.world.rest.applied = first ++ new.diff ps := by
      rw [hleaves, ← append_diff (apart_of_sublist hps hout hapart), ← happlied]
      rfl
    have hmem : ∀ p, p ∈ new.diff ps ↔ t.Carries p ∧ p ∉ ps := by
      intro p
      rw [hn.mem_sdiff_iff, hnew]
    constructor
    · rintro ⟨new', heq, -, hnew'⟩ p
      obtain rfl : new.diff ps = new' := List.append_cancel_left (happlied'.symm.trans heq)
      rw [← hnew', hmem]
    · exact fun hall => ⟨new.diff ps, happlied', hn.diff, fun p => (hmem p).trans (hall p).symm⟩
  rw [hleft]
  constructor
  · intro hall
    refine ⟨fun f hf hin hnot p hp hcarries => ?_, fun p hp hnot => ?_⟩
    · exact ((hall p).mp hcarries).2 ((hpatches p).mpr ⟨f, hf, hin, hnot, hp⟩)
    · rw [← hpatches]
      exact not_not.mp fun hps => hnot ((hall p).mpr ⟨hp, hps⟩)
  · rintro ⟨hspares, hclears⟩ p
    constructor
    · intro hcarries
      refine ⟨hless p hcarries, fun hp => ?_⟩
      obtain ⟨f, hf, hin, hnot, hp⟩ := (hpatches p).mp hp
      exact hspares f hf hin hnot p hp hcarries
    · rintro ⟨hp, hps⟩
      exact not_not.mp fun hnot => hps ((hpatches p).mpr (hclears p hp hnot))

/-- An edit that finds a mirrored record leaves one exactly if it parts cleanly. -/
theorem mirrors_leaves (hy : t.world.rest.Yielding) (hm : t.Mirrors first) (e : Edit)
    (hapart : ∀ f ∈ e.fixes, ∀ p, f.Carries p → p ∉ first) :
    (Edit.leaves (r.backend PatchTree.runner) t e).Mirrors first ↔
      t.Parts (Fix.dedupe e.fixes) (Edit.leaves (r.backend PatchTree.runner) t e) := by
  cases e with
  | inject fixes => exact iff_of_true (mirrors_inject hy hm hapart) (parts_inject hy fixes)
  | revert fixes => exact mirrors_revert hy hm hapart

theorem yielding_after (hy : t.world.rest.Yielding) (past : List Edit) :
    (Edit.after (r.backend PatchTree.runner) past t).world.rest.Yielding := by
  induction past using List.reverseRecOn with
  | nil => exact hy
  | append_singleton past e ih =>
    rw [Edit.after_snoc]
    exact yielding_leaves ih e

/-- What is on record stems from a fix of an edit, by its key and its patch. -/
theorem stems_after (hy : t.world.rest.Yielding) (past : List Edit)
    (hstems : ∀ f ∈ t.injected, ∀ p, f.Carries p → ∃ g ∈ fs, g.key = f.key ∧ g.Carries p)
    (hfs : ∀ e ∈ past, e.fixes ⊆ fs) :
    ∀ f ∈ (Edit.after (r.backend PatchTree.runner) past t).injected, ∀ p, f.Carries p →
      ∃ g ∈ fs, g.key = f.key ∧ g.Carries p := by
  induction past using List.reverseRecOn with
  | nil => exact hstems
  | append_singleton past e ih =>
    rw [List.forall_mem_append, List.forall_mem_singleton] at hfs
    rw [Edit.after_snoc]
    intro f hf p hp
    cases e with
    | inject fixes =>
      obtain ⟨put, _, _, hput, hleaves⟩ := leaves_inject (r := r) (yielding_after hy past) fixes
      rw [hleaves] at hf
      rcases List.mem_append.mp hf with hf | hf
      · exact ih hfs.1 f hf p hp
      · obtain ⟨g, hg, hcarries⟩ := Fix.exists_carries_of_mem_dedupe (hput.subset hf) hp
        exact ⟨g, hfs.2 hg, hcarries⟩
    | revert fixes =>
      obtain ⟨_, _, _, _, _, hleaves⟩ := leaves_revert (r := r) (yielding_after hy past) fixes
      rw [hleaves] at hf
      exact ih hfs.1 f (List.mem_filter.mp hf).1 p hp

/-- Where each patch tells its fix, no patch goes but with the one fix that carries it. -/
theorem parts_revert (hy : t.world.rest.Yielding) (htold : Fix.ToldByPatch fs) (hfixes : fixes ⊆ fs)
    (hstems : ∀ f ∈ t.injected, ∀ p, f.Carries p → ∃ g ∈ fs, g.key = f.key ∧ g.Carries p) :
    t.Parts (Fix.dedupe fixes) (Edit.leaves (r.backend PatchTree.runner) t (.revert fixes)) := by
  obtain ⟨out, ps, hps, hout, hheld, hleaves⟩ := leaves_revert (r := r) hy fixes
  rw [hleaves]
  have hsame : ∀ f ∈ Fix.dedupe fixes, ∀ g ∈ t.injected, ∀ p q, f.Carries p → g.Carries q →
      (f.key = g.key ↔ p = q) := by
    intro f hf g hg p q hp hq
    obtain ⟨f', hf', hfkey, hp⟩ := Fix.exists_carries_of_mem_dedupe hf hp
    obtain ⟨g', hg', hgkey, hq⟩ := hstems g hg q hq
    rw [← hfkey, ← hgkey]
    exact htold f' (hfixes hf') g' hg' p q hp hq
  constructor
  · rintro f hf - hnot p hp ⟨g, hg, hgp⟩
    have hkey : f.key = g.key := (hsame f hf g (List.mem_filter.mp hg).1 p p hp hgp).mpr rfl
    rw [Tracked.holds, Keyed.has_eq_false_iff, hkey] at hnot
    exact hnot (List.mem_map_of_mem hg)
  · rintro p ⟨g, hg, hgp⟩ hnot
    have hmem : g.key ∈ out.map Fix.key := by
      by_contra hstays
      refine hnot ⟨g, List.mem_filter.mpr ⟨hg, ?_⟩, hgp⟩
      rw [Keyed.has_eq_false_iff.mpr hstays]
      rfl
    obtain ⟨f, hf, hkey⟩ := List.mem_map.mp hmem
    obtain ⟨q, hq⟩ := carries_of_mem hps hf
    obtain rfl := (hsame f (hout.subset hf) g hg q p hq hgp).mp hkey
    exact ⟨f, hout.subset hf, and_assoc.mp ⟨(gone_iff hout hheld (hout.subset hf)).mpr hf, hq⟩⟩

/-- A tree that takes every patch mirrors the record after every edit exactly if, at every edit, the
fixes that go off the record part cleanly from those that stay. It does where the patch of a fix
tells it from the others just as its key does. -/
theorem tree_mirrors_record {h : Host PatchTree} (hy : h.rest.Yielding) (edits : List Edit)
    (hapart : ∀ f ∈ edits.flatMap Edit.fixes, ∀ p, f.Carries p → p ∉ h.rest.applied) :
    ((∀ past, past <+: edits →
        (Edit.after (r.backend PatchTree.runner) past (Tracked.start h)).Mirrors h.rest.applied) ↔
      ∀ past e, past ++ [e] <+: edits →
        (Edit.after (r.backend PatchTree.runner) past (Tracked.start h)).Parts (Fix.dedupe e.fixes)
          (Edit.after (r.backend PatchTree.runner) (past ++ [e]) (Tracked.start h))) ∧
    (Fix.ToldByPatch (edits.flatMap Edit.fixes) → ∀ past, past <+: edits →
      (Edit.after (r.backend PatchTree.runner) past (Tracked.start h)).Mirrors h.rest.applied) := by
  have hstart : (Tracked.start h).Mirrors h.rest.applied :=
    ⟨[], (List.append_nil _).symm, List.nodup_nil, by simp [Tracked.Carries, Tracked.start]⟩
  have hown : ∀ past e, past ++ [e] <+: edits → e.fixes ⊆ edits.flatMap Edit.fixes := by
    intro past e hpast f hf
    exact List.mem_flatMap.mpr ⟨e, hpast.subset (by simp), hf⟩
  have hstep : ∀ past e, past ++ [e] <+: edits →
      (Edit.after (r.backend PatchTree.runner) past (Tracked.start h)).Mirrors h.rest.applied →
      ((Edit.after (r.backend PatchTree.runner) (past ++ [e]) (Tracked.start h)).Mirrors
          h.rest.applied ↔
        (Edit.after (r.backend PatchTree.runner) past (Tracked.start h)).Parts (Fix.dedupe e.fixes)
          (Edit.after (r.backend PatchTree.runner) (past ++ [e]) (Tracked.start h))) := by
    intro past e hpast hm
    rw [Edit.after_snoc]
    exact mirrors_leaves (yielding_after hy past) hm e fun f hf => hapart f (hown past e hpast hf)
  have hmirrors : (∀ past e, past ++ [e] <+: edits →
        (Edit.after (r.backend PatchTree.runner) past (Tracked.start h)).Parts (Fix.dedupe e.fixes)
          (Edit.after (r.backend PatchTree.runner) (past ++ [e]) (Tracked.start h))) →
      ∀ past, past <+: edits →
        (Edit.after (r.backend PatchTree.runner) past (Tracked.start h)).Mirrors
          h.rest.applied := by
    intro hparts past
    -- from the end, as an edit parts cleanly or not in the state that all edits before it left
    induction past using List.reverseRecOn with
    | nil => exact fun _ => hstart
    | append_singleton past e ih =>
      intro hpast
      have hbefore := ih ((List.prefix_append past [e]).trans hpast)
      exact (hstep past e hpast hbefore).mpr (hparts past e hpast)
  refine ⟨⟨fun hall past e hpast => ?_, hmirrors⟩, fun htold => hmirrors fun past e hpast => ?_⟩
  · have hbefore := hall past ((List.prefix_append past [e]).trans hpast)
    exact (hstep past e hpast hbefore).mp (hall _ hpast)
  · have hfixes : ∀ e' ∈ past, e'.fixes ⊆ edits.flatMap Edit.fixes := fun e' he' f hf =>
      List.mem_flatMap.mpr ⟨e', hpast.subset (List.mem_append_left [e] he'), hf⟩
    have hstems := stems_after (r := r) (t := .start h) hy past (fun f hf => nomatch hf) hfixes
    rw [Edit.after_snoc]
    cases e with
    | inject fixes => exact parts_inject (yielding_after hy past) fixes
    | revert fixes =>
      exact parts_revert (yielding_after hy past) htold (hown past _ hpast) hstems

/-- Two fixes with a patch each; one goes, and the tree keeps the patch of the other. -/
theorem tree_mirrors_record_replacing :
    (Edit.after ((Repository.mk "w").backend PatchTree.runner)
      [.inject [replacing "x" "old", replacing "y" "gone"], .revert [replacing "x" "old"]]
      (Tracked.start ⟨.empty, unruled ["other"]⟩)).Mirrors ["other"] := by
  have hgone : ∃ p, (replacing "y" "gone").Carries p ∧ p ≠ replacedOld ∧ p ≠ "other" := by
    have hnormal : Patch.normalize "diff --git a/mod.py b/mod.py\n@@ -1 +1 @@\n-gone\n+new\n" = .ok
        "diff --git a/mod.py b/mod.py\n--- a/mod.py\n+++ b/mod.py\n@@ -1 +1 @@\n-gone\n+new\n" := by
      decide +kernel
    exact ⟨_, ⟨_, rfl, by decide +kernel, hnormal⟩, by decide +kernel, by decide +kernel⟩
  obtain ⟨p, hy, hold, hother⟩ := hgone
  have hx : (replacing "x" "old").Carries replacedOld := carries_replacing "x"
  have hall : ∀ f ∈ [Edit.inject [replacing "x" "old", replacing "y" "gone"],
      .revert [replacing "x" "old"]].flatMap Edit.fixes,
      f = replacing "x" "old" ∨ f = replacing "y" "gone" := by
    intro f hf
    simp [Edit.fixes] at hf
    tauto
  refine (tree_mirrors_record (r := ⟨"w"⟩) (h := ⟨.empty, unruled ["other"]⟩) ⟨rfl, rfl, rfl⟩ _ ?_).2
    ?_ _ (List.prefix_refl _)
  · intro f hf q hq
    rcases hall f hf with rfl | rfl
    · obtain rfl := hq.inj hx
      exact by decide +kernel
    · obtain rfl := hq.inj hy
      simpa [unruled] using hother
  · intro f hf g hg q q' hq hq'
    rcases hall f hf with rfl | rfl <;> rcases hall g hg with rfl | rfl
    · exact iff_of_true rfl (hq.inj hq')
    · obtain rfl := hq.inj hx
      obtain rfl := hq'.inj hy
      exact iff_of_false (by decide) hold.symm
    · obtain rfl := hq.inj hy
      obtain rfl := hq'.inj hx
      exact iff_of_false (by decide) hold
    · exact iff_of_true rfl (hq.inj hq')

/-- Two fixes share a patch. One goes, and so does the patch; the other stays on record. -/
theorem record_outlives_patch : ∃ t',
    Edit.after ((Repository.mk "w").backend PatchTree.runner)
        [.inject [replacing "x" "old", replacing "y" "old"], .revert [replacing "x" "old"]]
        (Tracked.start ⟨.empty, unruled []⟩) = t' ∧
      replacing "y" "old" ∈ t'.injected ∧ (replacing "y" "old").Carries replacedOld ∧
      t'.world.rest.applied = [] ∧ ¬ t'.Mirrors [] := by
  have hx : (replacing "x" "old").Carries replacedOld := carries_replacing "x"
  have hy : (replacing "y" "old").Carries replacedOld := carries_replacing "y"
  have hinject : Edit.leaves ((Repository.mk "w").backend PatchTree.runner)
        (Tracked.start ⟨.empty, unruled []⟩)
        (.inject [replacing "x" "old", replacing "y" "old"]) =
      ⟨⟨.empty, unruled [replacedOld]⟩, [replacing "x" "old", replacing "y" "old"]⟩ := by
    have hunion : Keyed.union id [] [replacedOld, replacedOld] = [replacedOld] := by
      simp [Keyed.union, Keyed.insert, Keyed.has]
    have hfinal := injectEach_of_yielding (r := ⟨"w"⟩) (t := .start ⟨.empty, unruled []⟩)
      ⟨rfl, rfl, rfl⟩ (.cons hx (.cons hy .nil)) (by decide)
    change final (Backend.injectEach _ (Fix.dedupe _) _) = _
    rw [Fix.dedupe_of_nodup (by decide), hfinal]
    change (⟨⟨.empty, unruled (Keyed.union id [] _)⟩, _⟩ : Tracked (Host PatchTree)) = _
    rw [hunion]
    rfl
  have hrevert : Edit.leaves ((Repository.mk "w").backend PatchTree.runner)
        ⟨⟨.empty, unruled [replacedOld]⟩, [replacing "x" "old", replacing "y" "old"]⟩
        (.revert [replacing "x" "old"]) =
      ⟨⟨.empty, unruled []⟩, [replacing "y" "old"]⟩ := by
    have hremove := remove_of_yielding (r := ⟨"w"⟩) (h := ⟨.empty, unruled [replacedOld]⟩)
      ⟨rfl, rfl, rfl⟩ hx
    have hremoved : (Host.mk Files.empty (unruled [replacedOld])).holding
        ([replacedOld].erase replacedOld) = ⟨.empty, unruled []⟩ := by
      rw [List.erase_cons_head]
      rfl
    rw [Edit.leaves, Backend.final_revert, Fix.dedupe_of_nodup (by decide)]
    unfold Backend.revertEach
    rw [hremove]
    change final (EStateM.Result.ok _ (Tracked.mk (Host.holding _ ([replacedOld].erase _)) _)) = _
    rw [hremoved]
    rfl
  refine ⟨_, congrArg (fun t => Edit.leaves _ t _) hinject |>.trans hrevert, List.mem_cons_self, hy,
    rfl, ?_⟩
  rintro ⟨new, hnew, -, hmem⟩
  obtain rfl : [] = new := hnew
  exact absurd ((hmem replacedOld).mpr ⟨_, List.mem_cons_self, hy⟩) List.not_mem_nil

end Repository
end FixTrial
