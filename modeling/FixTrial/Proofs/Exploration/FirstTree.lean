import FixTrial.Proofs.Exploration.Additive
import FixTrial.Proofs.Exploration.Estimated
import FixTrial.Proofs.Exploration.Growth

/-!
Explorations of one root where nothing fails but builds of the target. Its bounds are those of the
tree that it was first tried with: they are estimated once, and what is followed up later is measured
in the target only.
-/
namespace FixTrial
open Act
variable {ω : Type} {w : Workspace ω} {v : Act ω (List Diagnostic)} {holds : ω → Finset FixKey}

/-- A build that changes nothing of what is in, and ends in no fault but a workspace error. -/
def Calm (holds : ω → Finset FixKey) (v : Act ω (List Diagnostic)) : Prop :=
  ∀ s, (∃ ds s', v s = .ok ds s' ∧ holds s' = holds s) ∨
    ∃ e s', v s = .error (.workspace e) s' ∧ holds s' = holds s

/-- A build that reports what the fixes that are in say. -/
def Determined (holds : ω → Finset FixKey) (V : Finset FixKey → List Diagnostic)
    (v : Act ω (List Diagnostic)) : Prop :=
  ∀ s, ∃ s', v s = .ok (V (holds s)) s' ∧ holds s' = holds s

/-- A workspace that takes in every fix and gives it back. -/
structure Workspace.Obliging (w : Workspace ω) (holds : ω → Finset FixKey) : Prop where
  inject : ∀ fixes s, ∃ s', w.inject fixes s = .ok () s' ∧ holds s' = holds s ∪ Fix.keys fixes
  revert : ∀ fixes s, ∃ s', w.revert fixes s = .ok () s' ∧ holds s' = holds s \ Fix.keys fixes
  verify : Calm holds w.verify

theorem Determined.calm {V : Finset FixKey → List Diagnostic} (h : Determined holds V v) :
    Calm holds v :=
  fun s => .inl ((h s).elim fun s' hs => ⟨V (holds s), s', hs⟩)

theorem Determined.buildsBy {V : Finset FixKey → List Diagnostic} (h : Determined holds V v) :
    BuildsBy holds (fun S => some (V S)) v := by
  constructor
  · intro s ds s' hs
    obtain ⟨s₁, hv, hsame⟩ := h s
    cases hv.symm.trans hs
    exact ⟨rfl, hsame⟩
  · intro s e s' hs
    obtain ⟨s₁, hv, -⟩ := h s
    cases hv.symm.trans hs

theorem Workspace.Obliging.selective (h : w.Obliging holds) :
    w.Selective holds fun _ _ => false := by
  constructor
  · intro fixes s s' hs
    obtain ⟨s₁, hi, hin⟩ := h.inject fixes s
    cases hi.symm.trans hs
    exact ⟨rfl, hin⟩
  · intro fixes s e s' hs
    obtain ⟨s₁, hi, -⟩ := h.inject fixes s
    cases hi.symm.trans hs
  · exact h.revert

namespace Estimate
variable {V : DependentModule ω → Finset FixKey → List Diagnostic}
  {modules : List (DependentModule ω)} {active : List (DependentModule ω × Snapshot)}
  {groups : List (List Candidate)} {t : Trial ω}

/-- What the build of a group in a module finds for a root. -/
def foreseenShares (V : DependentModule ω → Finset FixKey → List Diagnostic) (f : Fix)
    (slot : (DependentModule ω × Snapshot) × List Candidate × Nat) : List Bounds :=
  (slot.2.1.filter fun c => f.key = c.root.key).map fun c =>
    .count (news slot.1.2 (V slot.1.1 (Fix.keys (slot.2.1.flatMap (·.linked))))) c.linked

/-- The bounds of an estimate whose modules report what `V` says. -/
def foreseen (V : DependentModule ω → Finset FixKey → List Diagnostic)
    (modules : List (DependentModule ω)) (groups : List (List Candidate)) : Table :=
  (Keyed.distinct Fix.key (groups.flatten.map (·.root))).map fun f =>
    (f, .sum ((slots (modules.map fun m => (m, ⟨V m ∅⟩)) groups 0).flatMap (foreseenShares V f)))

/-- What is found from a clean world, where nothing is refused and every module builds. -/
theorem finds_foreseen (V : DependentModule ω → Finset FixKey → List Diagnostic) (number : Nat)
    (f : Fix) :
    ((cleared ∅ groups).flatMap fun build => active.flatMap fun m =>
      finds (fun _ _ => false) (fun S => some (V m.1 S)) m.2 build f) =
    (slots active groups number).flatMap (foreseenShares V f) := by
  induction groups generalizing number with
  | nil => rfl
  | cons group rest ih =>
    rw [cleared, Finset.empty_sdiff, List.flatMap_cons, ih (number + 1), slots, slots,
      List.zipIdx_cons, List.flatMap_cons, List.flatMap_append, List.flatMap_map]
    congr 1
    refine List.flatMap_congr fun m _ => ?_
    have hreport : attempted (fun _ _ => false) (fun S => some (V m.1 S)) ∅ (groupKeys group) =
        some (V m.1 (groupKeys group)) := by
      rw [attempted, Finset.empty_union]
      rfl
    rw [finds, hreport, Option.map_some, Option.getD_some, contribution, List.filter_map,
      List.map_map]
    rfl

/-- What an estimate says depends on nothing but the modules and the groups. -/
theorem run_foreseen (hw : w.Obliging holds)
    (hmodules : ∀ m ∈ modules, Determined holds (V m) m.verify) (groups : List (List Candidate))
    (hs : holds t.site.world = ∅) :
    ∃ t', run w modules groups t = .ok (foreseen V modules groups) t' := by
  obtain ⟨t', -, hrun⟩ := run_finds hw.selective (fun m hm => (hmodules m hm).buildsBy) groups t
  refine ⟨t', hrun.trans (congrArg (EStateM.Result.ok · t') ?_)⟩
  rw [hs, start, foreseen, List.map_map]
  refine List.map_congr_left fun f _ => congrArg (fun bs => (f, Bounds.sum bs)) ?_
  rw [← finds_foreseen V 0]
  simp [building]

end Estimate

namespace Exploration
open FixTrial.Graph
variable {ctx : Context ω} {V : DependentModule ω → Finset FixKey → List Diagnostic} {root : Fix}
  {fixes : List Fix} {source : RegionSource} {g h : Graph} {depth : Nat} {rs : Reports}
  {t t' : Trial ω} {m n : Node} {result : ExplorationResult} {baseline : Snapshot} {r : Report}

/-- A trial whose world is clean, twice. -/
def Clean (holds : ω → Finset FixKey) (t' t : Trial ω) : Prop := t' = t ∧ holds t.site.world = ∅

theorem buildsAlike_clean (hw : w.Obliging holds) (hv : Calm holds v) :
    BuildsAlike (Clean holds) (fun _ => True) (fun _ => True) w w v v := by
  constructor
  · rintro β fixes m - - t _ ⟨rfl, hs⟩
    obtain ⟨s₁, hi, h₁⟩ := hw.inject (Fix.dedupe fixes) t.site.world
    rw [hs, Finset.empty_union] at h₁
    -- whatever the build came to, the batch is all that is in
    have hreverted : ∀ s₂, holds s₂ = holds s₁ →
        ∃ s₃, w.revert (Fix.dedupe fixes) s₂ = .ok () s₃ ∧ holds s₃ = ∅ := by
      intro s₂ h₂
      obtain ⟨s₃, hr, h₃⟩ := hw.revert (Fix.dedupe fixes) s₂
      exact ⟨s₃, hr, by rw [h₃, h₂, h₁, Finset.sdiff_self]⟩
    unfold Trial.batch
    rcases hv s₁ with ⟨ds, s₂, hb, h₂⟩ | ⟨e, s₂, hb, h₂⟩
    · obtain ⟨s₃, hr, h₃⟩ := hreverted s₂ h₂
      have hbuild : Batch.build w v (Fix.dedupe fixes) t.site.world = .ok ds s₂ :=
        (bind_of_ok hi).trans hb
      rw [Batch.run_of_build hbuild (Batch.close_of_revert hr)]
      exact .ok ⟨rfl, fun _ _ => trivial⟩ ⟨rfl, h₃⟩
    · obtain ⟨s₃, hr, h₃⟩ := hreverted s₂ h₂
      have hbuild : Batch.build w v (Fix.dedupe fixes) t.site.world = .error (.workspace e) s₂ :=
        (bind_of_ok hi).trans hb
      rw [Batch.run_of_failure hbuild (Batch.close_of_revert hr)]
      exact .ok ⟨rfl, fun _ _ => trivial⟩ ⟨rfl, h₃⟩
  · rintro t _ ⟨rfl, hs⟩
    unfold Trial.onSite Site.holding
    rcases hv t.site.world with ⟨ds, s', hb, h⟩ | ⟨e, s', hb, h⟩
    · rw [hb]
      exact .ok ⟨rfl, trivial⟩ ⟨rfl, h.trans hs⟩
    · rw [hb]
      exact .error (.inl trivial) ⟨rfl, h.trans hs⟩

theorem twins_clean (hw : ctx.workspace.Obliging holds)
    (hmodules : ∀ m ∈ ctx.modules, Determined holds (V m) m.verify) :
    Twins (Clean holds) (fun _ => True) (fun _ => True) ctx.workspace ctx.workspace ctx.modules
      ctx.modules := by
  constructor
  · rintro _ t ⟨rfl, -⟩
    exact ⟨rfl, rfl, rfl, rfl⟩
  · rintro _ t ⟨rfl, hs⟩ _ _ _ _
    exact ⟨rfl, hs⟩
  · rintro _ t e - ⟨rfl, hs⟩
    exact ⟨rfl, hs⟩
  · exact buildsAlike_clean hw hw.verify
  · exact List.forall₂_same.mpr fun m hm => ⟨rfl, buildsAlike_clean hw (hmodules m hm).calm⟩

theorem clean_of_alike {α : Type} {Q : α → Prop} {x : Act (Trial ω) α} {a : α}
    (hx : Alike (Clean holds) (fun _ => True) (Both Q) x x) (hs : holds t.site.world = ∅)
    (h : x t = .ok a t') : holds t'.site.world = ∅ := by
  have hends := hx t t ⟨rfl, hs⟩
  rw [h] at hends
  cases hends with
  | ok _ hr => exact hr.2

theorem clean_of_level {p : Graph × Reports} (hw : ctx.workspace.Obliging holds)
    (hmodules : ∀ m ∈ ctx.modules, Determined holds (V m) m.verify) (hg : g.Arena)
    (hs : holds t.site.world = ∅) (hl : level ctx g depth rs t = .ok p t') :
    holds t'.site.world = ∅ :=
  clean_of_alike ((twins_clean hw hmodules).level hg allows_all depth rs) hs hl

theorem clean_of_buildBaseline {built : Except WorkspaceError (List Diagnostic)}
    (hw : ctx.workspace.Obliging holds)
    (hmodules : ∀ m ∈ ctx.modules, Determined holds (V m) m.verify)
    (hs : holds t.site.world = ∅) (h : buildBaseline ctx t = .ok built t') :
    holds t'.site.world = ∅ :=
  clean_of_alike (twins_clean hw hmodules).buildBaseline hs h

/-- What a root is tried with first. -/
def firstTree (ctx : Context ω) (baseline : Snapshot) (root : Fix) : List Fix :=
  Keyed.union Fix.key [root] (ctx.link baseline root)

/-- The graph of one root. -/
theorem firstLevel_single :
    firstLevel ctx baseline [root] =
      (⟨[Node.start 0 root (ctx.link baseline root)], []⟩,
        [Report.start root (firstTree ctx baseline root)]) := rfl

/-- After its pass the graph of one root has its node, and asks for estimates unless that failed. -/
theorem single_of_bare
    (hb : h.bare = (prepared source ⟨[Node.start 0 root fixes], []⟩).bare) :
    ∃ m, h.nodes = [m] ∧ m.root = root ∧ m.fixes = Keyed.union Fix.key [root] fixes ∧
      candidates h = if m.failed then [] else [[⟨root, m.fixes⟩]] := by
  have hnodes : h.nodes.map Node.bare = _ := congrArg Graph.nodes hb
  have hgroups : h.groups = [[0]] := congrArg Graph.groups hb
  obtain ⟨m, hm, hbare⟩ := List.map_eq_singleton_iff.mp hnodes
  have hroot : m.bare.root = root := congrArg Node.root hbare
  have hfixes : m.bare.fixes = Keyed.union Fix.key [root] fixes := congrArg Node.fixes hbare
  refine ⟨m, hm, hroot, hfixes, ?_⟩
  have hmembers : h.members [0] = [m] := by simp [members, hm]
  unfold candidates
  rw [hgroups]
  cases hf : m.failed with
  | true => simp [hmembers, hf]
  | false => simp [hmembers, hf, show m.root = root from hroot]

/-- A failed report stays so. -/
theorem lasting_failed : Lasting ctx fun r => r.failed = true := by
  refine ⟨fun final settled r h => ?_, fun g depth r _ h => ?_⟩
  · unfold settle
    split <;> exact h
  · unfold refresh Reports.absorb
    split
    · split
      · simp [h]
      · exact h
    · exact h

/-- Only a pass over follow-ups changes a tree, and the depth of its report with it. -/
theorem lasting_tree (tree : List Fix) : Lasting ctx fun r => r.depth = 0 → r.tree = tree := by
  refine ⟨fun final settled r h => ?_, fun g depth r hdepth h => ?_⟩
  · rw [tree_settle, depth_settle]
    exact h
  · intro hzero
    rcases refresh_cases g depth r with ⟨-, hsame⟩ | ⟨-, -, -, hsame⟩ | ⟨-, -, -, -, hmeasured⟩
    · rw [hsame] at hzero ⊢
      exact h hzero
    · rw [hsame] at hzero ⊢
      exact h hzero
    · rw [hmeasured] at hzero
      exact absurd (Int.ofNat_eq_zero.mp hzero) hdepth

/-- The bounds of a report are those of a tree, and so is what it reports if it was not followed up. -/
structure Tried (V : DependentModule ω → Finset FixKey → List Diagnostic) (ctx : Context ω)
    (root : Fix) (tree : List Fix) (r : Report) : Prop where
  bounds : Estimate.foreseen V ctx.modules [[⟨root, tree⟩]] = [(root, r.bounds)]
  tree : r.depth = 0 → r.tree = tree

theorem lasting_tried (tree : List Fix) : Lasting ctx (Tried V ctx root tree) := by
  have htree : Lasting ctx fun r => r.depth = 0 → r.tree = tree := lasting_tree tree
  refine ⟨fun final settled r h => ⟨?_, ?_⟩, fun g depth r hd h => ⟨?_, ?_⟩⟩
  · rw [bounds_settle]
    exact h.bounds
  · exact htree.settle final settled r h.tree
  · rw [bounds_refresh]
    exact h.bounds
  · exact htree.refresh g depth r hd h.tree

theorem foreseen_single (V : DependentModule ω → Finset FixKey → List Diagnostic)
    (modules : List (DependentModule ω)) (root : Fix) (tree : List Fix) :
    ∃ b, Estimate.foreseen V modules [[⟨root, tree⟩]] = [(root, b)] := ⟨_, rfl⟩

theorem bounds_bounded_single {b : Bounds} : (bounded [(r.root, b)] r).bounds = b := by
  simp [bounded, Report.bounds]

/-- After the first level and its estimate the only report has failed, or its bounds are those of
the tree that it was tried with. -/
theorem tried_first {p : Graph × Reports} {estimated : Reports} {t₁ t₂ : Trial ω}
    (hw : ctx.workspace.Obliging holds)
    (hmodules : ∀ m ∈ ctx.modules, Determined holds (V m) m.verify) (hs : holds t.site.world = ∅)
    (hl : level ctx ⟨[Node.start 0 root (ctx.link baseline root)], []⟩ 0
      [Report.start root (firstTree ctx baseline root)] t = .ok p t₁)
    (hest : ctx.modules = [] ∧ estimated = p.2 ∧ t₂ = t₁ ∨
      estimate ctx p.1 p.2 t₁ = .ok estimated t₂) :
    (∀ r ∈ estimated, r.failed = true) ∨
      ∀ r ∈ estimated, Tried V ctx root (firstTree ctx baseline root) r := by
  have hg : Graph.Arena ⟨[Node.start 0 root (ctx.link baseline root)], []⟩ :=
    arena_of_built (Built.empty.insert root (ctx.link baseline root))
  obtain ⟨hbare, hfold, -⟩ := level_returned hg hl
  obtain ⟨m, hm, hroot, hfixes, hcandidates⟩ := single_of_bare hbare
  have hfound : p.1.find? root = some m := by simp [Graph.find?, hm, hroot]
  have hp : p.2 = [Reports.absorb 0 m (Report.start root (firstTree ctx baseline root))] := by
    rw [hfold, fold_eq, List.map_singleton]
    exact congrArg (fun r => [r]) (refresh_of_find? hfound)
  cases hf : m.failed with
  | true =>
    left
    have hfailed : ∀ r ∈ p.2, r.failed = true := by simp [hp, Reports.absorb, hf]
    rcases hest with ⟨-, rfl, -⟩ | hest
    · exact hfailed
    · obtain ⟨table, -, rfl⟩ := estimate_of_run hest
      exact List.forall_mem_map.mpr fun r hr => failed_bounded.trans (hfailed r hr)
  | false =>
    right
    have htree : ∀ r ∈ p.2, r.root = root ∧ r.tree = firstTree ctx baseline root ∧
        r.bounds = .zero := by
      rw [hp, absorb_of_measured hf]
      exact List.forall_mem_singleton.mpr ⟨rfl, hfixes, rfl⟩
    rcases hest with ⟨hnone, rfl, -⟩ | hest
    · intro r hr
      obtain ⟨-, htree, hbounds⟩ := htree r hr
      refine ⟨?_, fun _ => htree⟩
      rw [hnone, hbounds]
      rfl
    · obtain ⟨table, hrun, rfl⟩ := estimate_of_run hest
      obtain ⟨t₃, hforeseen⟩ := Estimate.run_foreseen hw hmodules (candidates p.1)
        (clean_of_level hw hmodules hg hs hl)
      cases hrun.symm.trans hforeseen
      obtain ⟨b, hb⟩ := foreseen_single V ctx.modules root (firstTree ctx baseline root)
      have hentry : Estimate.foreseen V ctx.modules (candidates p.1) = [(root, b)] := by
        rw [hcandidates, hf, hfixes]
        exact hb
      rw [hentry]
      refine List.forall_mem_map.mpr fun r hr => ?_
      obtain ⟨rfl, htree, -⟩ := htree r hr
      refine ⟨?_, fun _ => tree_bounded.trans htree⟩
      rw [hb, bounds_bounded_single]

/-- The only report of an exploration of one root has failed, or has the bounds of an estimate of the
tree that the root was first tried with, made from any clean world. The tree in the report is another
one as soon as something was followed up. -/
theorem bounds_of_first_tree (hw : ctx.workspace.Obliging holds)
    (hmodules : ∀ m ∈ ctx.modules, Determined holds (V m) m.verify) (hs : holds t.site.world = ∅)
    (he : explore ctx (some [root]) t = .ok result t') :
    ∃ r, result.reports = [r] ∧ r.root = root ∧ (r.failed = false →
      ∃ base site, ctx.workspace.baseline t.site = .ok base site ∧
        (∀ t₀ : Trial ω, holds t₀.site.world = ∅ → ∃ t₁,
          Estimate.run ctx.workspace ctx.modules [[⟨root, firstTree ctx ⟨base⟩ root⟩]] t₀ =
            .ok [(root, r.bounds)] t₁) ∧
        (r.depth = 0 → r.tree = firstTree ctx ⟨base⟩ root)) := by
  obtain ⟨course, hseen⟩ := seen_of_explore he
  rcases exploreSeen_cases hseen with ⟨e, t₁, -, hc, -⟩ | ⟨base, t₁, hbuild, hfrom⟩
  · have hreports : result.reports = [hopeless root] := (conclude_returned hc).1
    refine ⟨hopeless root, hreports, rfl, fun hf => ?_⟩
    cases hf
  obtain ⟨site, hbase⟩ := baseline_of_buildBaseline hbuild
  have hclean : holds t₁.site.world = ∅ := by
    refine clean_of_buildBaseline hw hmodules ?_ hbuild
    exact hs
  rcases exploreFromSeen_cases firstLevel_single hfrom with
    ⟨hnone, -⟩ | ⟨p, t₂, estimated, t₃, rest, hl, hest, hb, -⟩
  · cases hnone
  obtain ⟨D, -, -, -, -, hD, -⟩ := belowSeen_cases hb
  obtain ⟨r, hr, hroot⟩ : ∃ r, result.reports = [r] ∧ r.root = root :=
    List.map_eq_singleton_iff.mp (roots_of_explore hD he)
  refine ⟨r, hr, hroot, fun hf => ⟨base, site, hbase, ?_⟩⟩
  have hfirst : (∀ r ∈ estimated, r.failed = true) ∨
      ∀ r ∈ estimated, Tried V ctx root (firstTree ctx ⟨base⟩ root) r := by
    refine tried_first hw hmodules ?_ hl hest
    exact hclean
  rcases hfirst with hfailed | htried
  · have hlast := (lasting_failed.below hfailed hb).2 r (by simp [hr])
    rw [hf] at hlast
    cases hlast
  · have hlast := ((lasting_tried (firstTree ctx ⟨base⟩ root)).below htried hb).2 r (by simp [hr])
    refine ⟨fun t₀ ht₀ => ?_, hlast.tree⟩
    rw [← hlast.bounds]
    exact Estimate.run_foreseen hw hmodules _ ht₀

theorem obliging_inMemory (build : List Fix → Except WorkspaceError (List Diagnostic)) :
    (Workspace.inMemory build).Obliging Fix.keys := by
  refine ⟨fun fixes s => ⟨_, rfl, Fix.keys_union⟩, fun fixes s => ⟨_, rfl, Fix.keys_without⟩,
    fun s => ?_⟩
  unfold Workspace.inMemory
  cases hb : build s with
  | ok ds => exact .inl ⟨ds, s, by simp only [hb], rfl⟩
  | error e => exact .inr ⟨e, s, by simp only [hb], rfl⟩

/-- A field that lacks something as long as a second one is not in, in the build of some type. -/
def lacking (type : String) (asked : Fix) (S : Finset FixKey) : List Diagnostic :=
  if (Fix.ofField "A" "x").key ∈ S ∧ (Fix.ofField "B" "y").key ∉ S then
    [⟨"null", "", .ofType type, [asked]⟩]
  else []

/-- The target asks for a second field, which also resolves what another module reports. -/
def outgrown : Context (List Fix) :=
  { workspace := .inMemory fun held => .ok (lacking "A" (.ofField "B" "y") (Fix.keys held))
    regions := fun l => some [l.region], mode := .upperBound, depth := .whole 1, retry := true
    declared := fun _ => true, link := fun _ f => [f], destructive := fun _ => false
    modules := [
      { name := .text "client"
        verify := fun held => .ok (lacking "Client" (.ofField "A" "x") (Fix.keys held)) held }] }

theorem obliging_outgrown : outgrown.workspace.Obliging Fix.keys :=
  obliging_inMemory fun held => .ok (lacking "A" (.ofField "B" "y") (Fix.keys held))

theorem determined_outgrown : ∀ m ∈ outgrown.modules,
    Determined Fix.keys (lacking "Client" (.ofField "A" "x")) m.verify := by
  intro m hm held
  obtain rfl := List.mem_singleton.mp hm
  exact ⟨held, rfl, rfl⟩

/-- What an estimate of the tree in a report says now. -/
def reestimated (ctx : Context (List Fix)) (r : Report) : Option Estimate.Table :=
  match Estimate.run ctx.workspace ctx.modules [[⟨r.root, r.tree⟩]] (Trial.start []) with
  | .ok table _ => some table
  | .error _ _ => none

/-- The second field is followed up: with it nothing is left to report anywhere. -/
theorem explore_outgrown : ∃ result t' r,
    explore outgrown (some [.ofField "A" "x"]) (Trial.start []) = .ok result t' ∧
    result.reports = [r] ∧ r.failed = false ∧ r.tag = .discard ∧ r.localEffect = 0 ∧
    r.bounds = ⟨1, 1⟩ ∧ (reestimated outgrown r).map (·.map Prod.snd) = some [⟨0, 0⟩] := by
  have hrun : (match explore outgrown (some [.ofField "A" "x"]) (Trial.start []) with
      | .ok result _ => result.reports.map fun r => (r.failed, r.tag, r.localEffect, r.bounds,
          (reestimated outgrown r).map (·.map Prod.snd))
      | .error _ _ => []) = [(false, .discard, 0, ⟨1, 1⟩, some [⟨0, 0⟩])] := by
    decide +kernel
  cases he : explore outgrown (some [.ofField "A" "x"]) (Trial.start []) with
  | error e t' => simp [he] at hrun
  | ok result t' =>
    simp only [he] at hrun
    obtain ⟨r, hr, hvalues⟩ := List.map_eq_singleton_iff.mp hrun
    simp only [Prod.mk.injEq] at hvalues
    exact ⟨result, t', r, rfl, hr, hvalues⟩

theorem bounds_of_first_tree_outgrown : ∃ result t' r,
    explore outgrown (some [.ofField "A" "x"]) (Trial.start []) = .ok result t' ∧
    result.reports = [r] ∧ ∃ t₁, Estimate.run outgrown.workspace outgrown.modules
      [[⟨.ofField "A" "x", [.ofField "A" "x"]⟩]] (Trial.start []) =
        .ok [(.ofField "A" "x", ⟨1, 1⟩)] t₁ := by
  obtain ⟨result, t', r, he, hr, hf, -, -, hbounds, -⟩ := explore_outgrown
  obtain ⟨r', hr', -, hfirst⟩ := bounds_of_first_tree (t := Trial.start []) obliging_outgrown
    determined_outgrown rfl he
  obtain rfl : r = r' := List.singleton_inj.mp (hr.symm.trans hr')
  obtain ⟨base, site, -, hestimates, -⟩ := hfirst hf
  obtain ⟨t₁, hrun⟩ := hestimates (Trial.start []) rfl
  exact ⟨result, t', r, he, hr, t₁, hbounds ▸ hrun⟩

/-- The bounds in the report are not those of the tree in it, whose effect on the target it also
reports: with them the policy would have applied it. -/
theorem bounds_not_of_last_tree :
    outgrown.workspace.Obliging Fix.keys ∧
    (∀ m ∈ outgrown.modules, Determined Fix.keys (lacking "Client" (.ofField "A" "x")) m.verify) ∧
    ∃ result t' r table, explore outgrown (some [.ofField "A" "x"]) (Trial.start []) =
        .ok result t' ∧
      result.reports = [r] ∧ r.failed = false ∧ reestimated outgrown r = some table ∧
      (∀ e ∈ table, e.2 ≠ r.bounds) ∧ r.tag = .discard ∧
      ∀ e ∈ table, Policy.ofEffect (r.localEffect + e.2.upper) = .apply := by
  obtain ⟨result, t', r, he, hr, hf, htag, heffect, hbounds, htable⟩ := explore_outgrown
  obtain ⟨table, hrun, hentries⟩ := Option.map_eq_some_iff.mp htable
  have hzero : ∀ e ∈ table, e.2 = ⟨0, 0⟩ := by
    intro e hmem
    exact List.mem_singleton.mp (hentries ▸ List.mem_map_of_mem hmem)
  refine ⟨obliging_outgrown, determined_outgrown, result, t', r, table, he, hr, hf, hrun,
    fun e hmem => ?_, htag, fun e hmem => ?_⟩
  · rw [hzero e hmem, hbounds]
    decide
  · rw [hzero e hmem, heffect]
    rfl

end Exploration
end FixTrial
