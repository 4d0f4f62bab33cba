import FixTrial.Proofs.Exploration.Replays
import Mathlib.Algebra.BigOperators.Group.Multiset.Basic

/-!
Estimates over several modules. Where the reports of the modules and the refusals of the workspace are
functions of the fixes that are in, and everything that is put in comes out again, one module's builds
leave nothing behind that another one's could see. So an estimate adds up what the estimates with each
of the modules alone come to.
-/
namespace FixTrial

namespace Bounds

instance : Zero Bounds := ⟨zero⟩

instance : Add Bounds := ⟨add⟩

theorem zero_eq : (0 : Bounds) = ⟨0, 0⟩ := rfl

theorem add_eq (a b : Bounds) : a + b = ⟨a.lower + b.lower, a.upper + b.upper⟩ := rfl

instance : AddCommMonoid Bounds where
  add_assoc a b c := by simp [add_eq, Int.add_assoc]
  zero_add a := by simp [add_eq, zero_eq]
  add_zero a := by simp [add_eq, zero_eq]
  add_comm a b := by simp [add_eq, Int.add_comm]
  nsmul := nsmulRec

theorem sum_eq (bs : List Bounds) : sum bs = bs.sum := List.sum_eq_foldl.symm

theorem sum_flatMap {α : Type} (xs : List α) (f : α → List Bounds) :
    (xs.flatMap f).sum = (xs.map fun x => (f x).sum).sum := by
  rw [List.flatMap_def, List.sum_flatten, List.map_map]
  rfl

/-- Findings in a square are added up by rows or by columns. -/
theorem sum_swap {α β : Type} (xs : List α) (ys : List β) (f : α → β → Bounds) :
    (xs.map fun x => (ys.map (f x)).sum).sum =
      (ys.map fun y => (xs.map fun x => f x y).sum).sum := by
  simpa using Multiset.sum_map_sum_map (xs : Multiset α) (ys : Multiset β) (f := f)

end Bounds

/-- A workspace that may refuse to put fixes in, and takes out whatever it is asked to. What it
refuses depends on the fixes that are to go in and on the others that are in. -/
structure Workspace.Selective {ω : Type} (w : Workspace ω) (holds : ω → Finset FixKey)
    (refuses : Finset FixKey → Finset FixKey → Bool) : Prop where
  put : ∀ fixes s s', w.inject fixes s = .ok () s' →
    refuses (holds s \ Fix.keys fixes) (Fix.keys fixes) = false ∧ holds s' = holds s ∪ Fix.keys fixes
  refused : ∀ fixes s e s', w.inject fixes s = .error e s' →
    e.Expected ∧ refuses (holds s \ Fix.keys fixes) (Fix.keys fixes) = true ∧
      holds s' \ Fix.keys fixes = holds s \ Fix.keys fixes
  taken : ∀ fixes s, ∃ s', w.revert fixes s = .ok () s' ∧ holds s' = holds s \ Fix.keys fixes

/-- A build whose report is a function of the fixes that are in, `none` where it fails. -/
structure BuildsBy {ω : Type} (holds : ω → Finset FixKey)
    (out : Finset FixKey → Option (List Diagnostic)) (v : Act ω (List Diagnostic)) : Prop where
  built : ∀ s ds s', v s = .ok ds s' → out (holds s) = some ds ∧ holds s' = holds s
  failed : ∀ s e s', v s = .error e s' → e.Expected ∧ out (holds s) = none ∧ holds s' = holds s

namespace Estimate
open Act
variable {ω : Type} {w : Workspace ω} {holds : ω → Finset FixKey}
  {refuses : Finset FixKey → Finset FixKey → Bool} {S : Finset FixKey}

/-- What a build of a batch reports with `others` in besides it. -/
def attempted (refuses : Finset FixKey → Finset FixKey → Bool)
    (out : Finset FixKey → Option (List Diagnostic)) (others batch : Finset FixKey) :
    Option (List Diagnostic) :=
  if refuses others batch then none else out (others ∪ batch)

section Builds
variable {out : Finset FixKey → Option (List Diagnostic)} {v : Act ω (List Diagnostic)}
  {batch : List Fix} {s s' : ω} {ds : List Diagnostic} {e : Fault} {o : Outcome}
  (hw : w.Selective holds refuses) (hv : BuildsBy holds out v)
include hw hv

theorem attempted_of_build (hb : Batch.build w v batch s = .ok ds s') :
    attempted refuses out (holds s \ Fix.keys batch) (Fix.keys batch) = some ds ∧
      holds s' \ Fix.keys batch = holds s \ Fix.keys batch := by
  obtain ⟨_, s₁, hinject, hbuild⟩ := bind_eq_ok.mp hb
  obtain ⟨haccepts, hin⟩ := hw.put batch s s₁ hinject
  obtain ⟨hout, hsame⟩ := hv.built s₁ ds s' hbuild
  constructor
  · rw [attempted, haccepts, Finset.sdiff_union_self_eq_union, ← hin]
    exact hout
  · rw [hsame, hin, Finset.union_sdiff_right]

theorem attempted_of_failure (hb : Batch.build w v batch s = .error e s') :
    attempted refuses out (holds s \ Fix.keys batch) (Fix.keys batch) = none ∧
      holds s' \ Fix.keys batch = holds s \ Fix.keys batch := by
  cases hinject : w.inject batch s with
  | ok _ s₁ =>
    obtain ⟨haccepts, hin⟩ := hw.put batch s s₁ hinject
    have hbuild : v s₁ = .error e s' := (bind_of_ok hinject).symm.trans hb
    obtain ⟨-, hout, hsame⟩ := hv.failed s₁ e s' hbuild
    constructor
    · rw [attempted, haccepts, Finset.sdiff_union_self_eq_union, ← hin]
      exact hout
    · rw [hsame, hin, Finset.union_sdiff_right]
  | error e₁ s₁ =>
    obtain ⟨-, hrefuses, hin⟩ := hw.refused batch s e₁ s₁ hinject
    cases (bind_of_error hinject).symm.trans hb
    exact ⟨by rw [attempted, hrefuses]; rfl, hin⟩

/-- What a batch reports depends on what is in besides it, and that is all it leaves there. -/
theorem report_of_ran (h : Ran w v batch s o s') :
    o.report? = attempted refuses out (holds s \ Fix.keys batch) (Fix.keys batch) ∧
      holds s' = holds s \ Fix.keys batch := by
  have htaken : ∀ s₁, w.revert batch s₁ = .ok () s' → holds s' = holds s₁ \ Fix.keys batch := by
    intro s₁ hr
    obtain ⟨s₂, hr', hout⟩ := hw.taken batch s₁
    cases hr.symm.trans hr'
    exact hout
  have htakes : ∀ e s₁, w.revert batch s₁ ≠ .error e s' := by
    intro e s₁ hr
    obtain ⟨s₂, hr', -⟩ := hw.taken batch s₁
    cases hr.symm.trans hr'
  cases h with
  | measured hb hr =>
    obtain ⟨hreport, hin⟩ := attempted_of_build hw hv hb
    exact ⟨hreport.symm, (htaken _ hr).trans hin⟩
  | stuck hb hr => exact absurd hr (htakes _ _)
  | failed hb hr =>
    obtain ⟨hreport, hin⟩ := attempted_of_failure hw hv hb
    exact ⟨hreport.symm, (htaken _ hr).trans hin⟩
  | lost hb hr => exact absurd hr (htakes _ _)

theorem expected_of_raises (h : w.Raises v e) : e.Expected := by
  cases h with
  | inject fixes h =>
    obtain ⟨s, s', hs⟩ := h
    exact (hw.refused fixes s e s' hs).1
  | revert fixes h =>
    obtain ⟨s, s', hs⟩ := h
    obtain ⟨s₁, hr, -⟩ := hw.taken fixes s
    cases hs.symm.trans hr
  | verify h =>
    obtain ⟨s, s', hs⟩ := h
    exact (hv.failed s e s' hs).1

end Builds

/-- The fixes of the candidates of a group. -/
def groupKeys (group : List Candidate) : Finset FixKey := Fix.keys (group.flatMap (·.linked))

/-- The groups of an estimate, each with what is in besides it when it is put in: what was in at
first, less what was taken out along with the groups before it. -/
def cleared (S : Finset FixKey) : List (List Candidate) → List (Finset FixKey × List Candidate)
  | [] => []
  | group :: rest => (S \ groupKeys group, group) :: cleared (S \ groupKeys group) rest

/-- What a build of a group finds for a root in a module, compared with the module's baseline. -/
def finds (refuses : Finset FixKey → Finset FixKey → Bool)
    (out : Finset FixKey → Option (List Diagnostic)) (baseline : Snapshot)
    (build : Finset FixKey × List Candidate) (f : Fix) : List Bounds :=
  ((((attempted refuses out build.1 (groupKeys build.2)).map
    (contribution baseline build.2)).getD []).filter fun e => f.key = e.1.key).map (·.2)

/-- What an estimate with one module alone finds for a root. -/
def alone (refuses : Finset FixKey → Finset FixKey → Bool)
    (out : Finset FixKey → Option (List Diagnostic)) (S : Finset FixKey)
    (groups : List (List Candidate)) (f : Fix) : Bounds :=
  match out S with
  | some ds => .sum ((cleared S groups).flatMap fun build => finds refuses out ⟨ds⟩ build f)
  | none => .zero

theorem Replays.split {s s' : ω} {rs rs' : List (Replay ω)} (h : Replays w s (rs ++ rs') s') :
    ∃ s₁, Replays w s rs s₁ ∧ Replays w s₁ rs' s' := by
  induction rs generalizing s with
  | nil => exact ⟨s, .nil s, h⟩
  | cons r rs ih =>
    cases h with
    | cons head rest =>
      obtain ⟨s₁, hrs, hrs'⟩ := ih rest
      exact ⟨s₁, .cons head hrs, hrs'⟩

/-- The modules that build with what is in, each with what it then reports. -/
def building (out : DependentModule ω → Finset FixKey → Option (List Diagnostic))
    (S : Finset FixKey) (modules : List (DependentModule ω)) :
    List (DependentModule ω × Snapshot) :=
  modules.filterMap fun m => (out m S).map fun ds => (m, ⟨ds⟩)

section Sums
variable {out : DependentModule ω → Finset FixKey → Option (List Diagnostic)}
  {modules : List (DependentModule ω)} {active : List (DependentModule ω × Snapshot)}
  {group : List Candidate} {groups : List (List Candidate)} {number : Nat} {events : List Event}
  {rs : List (Replay ω)} {s s' : ω} {t : Trial ω}
  (hw : w.Selective holds refuses) (hm : ∀ m ∈ modules, BuildsBy holds (out m) m.verify)

theorem active_of_mem_slots {x : (DependentModule ω × Snapshot) × List Candidate × Nat}
    (h : x ∈ slots active groups number) : x.1 ∈ active := by
  obtain ⟨⟨group, n⟩, -, hx⟩ := List.mem_flatMap.mp h
  obtain ⟨m, hm, rfl⟩ := List.mem_map.mp hx
  exact hm

theorem dependent_mem_of_slots (h : rs.map Replay.slot = slots active groups number) :
    ∀ r ∈ rs, r.dependent ∈ active := by
  intro r hr
  have hslot : r.slot ∈ slots active groups number := h ▸ List.mem_map_of_mem hr
  exact active_of_mem_slots hslot

include hm in
/-- The modules that take part are those that build with what is in, and no fix comes or goes. -/
theorem building_of_surveyed (h : Surveyed modules s active events s') :
    active = building out (holds s) modules ∧ holds s' = holds s := by
  induction h with
  | nil => exact ⟨rfl, rfl⟩
  | builds head _ ih =>
    rw [List.forall_mem_cons] at hm
    obtain ⟨hout, hsame⟩ := hm.1.built _ _ _ head
    obtain ⟨hactive, hrest⟩ := ih hm.2
    rw [hsame] at hactive hrest
    refine ⟨?_, hrest⟩
    rw [hactive, building, building, List.filterMap_cons, hout]
    rfl
  | fails head _ ih =>
    rw [List.forall_mem_cons] at hm
    obtain ⟨-, hout, hsame⟩ := hm.1.failed _ _ _ head
    obtain ⟨hactive, hrest⟩ := ih hm.2
    rw [hsame] at hactive hrest
    refine ⟨?_, hrest⟩
    rw [hactive, building, building, List.filterMap_cons, hout]
    rfl

include hw hm

/-- One group built in several modules: each build finds what it would find alone, since the builds
before it left in only what is in besides the group. -/
theorem shares_of_group (hmodules : ∀ r ∈ rs, r.dependent.1 ∈ modules)
    (hgroup : ∀ r ∈ rs, r.group = group) (h : Replays w s rs s') :
    (∀ r ∈ rs, ∀ f, r.shares f =
      finds refuses (out r.dependent.1) r.dependent.2 (holds s \ groupKeys group, group) f) ∧
    (rs ≠ [] → holds s' = holds s \ groupKeys group) := by
  induction h with
  | nil => exact ⟨fun r hr => absurd hr List.not_mem_nil, fun hne => absurd rfl hne⟩
  | @cons s s₁ s' r rs head rest ih =>
    rw [List.forall_mem_cons] at hmodules hgroup
    obtain ⟨hreport, hleft⟩ := report_of_ran hw (hm _ hmodules.1) head
    have hbatch : Fix.keys r.batch = groupKeys group := by
      rw [Replay.batch, Fix.keys_dedupe, hgroup.1, groupKeys]
    rw [hbatch] at hreport hleft
    obtain ⟨hshares, hrest⟩ := ih hmodules.2 hgroup.2
    rw [hleft, sdiff_idem] at hshares hrest
    refine ⟨List.forall_mem_cons.mpr ⟨fun f => ?_, hshares⟩, fun _ => ?_⟩
    · rw [Replay.shares_eq, Replay.contribution, hreport, hgroup.1]
      rfl
    · cases rest with
      | nil => exact hleft
      | cons _ _ => exact hrest (List.cons_ne_nil _ _)

/-- The builds of an estimate find in each module what they would find in it alone. -/
theorem shares_of_replays (hactive : ∀ m ∈ active, m.1 ∈ modules) (h : Replays w s rs s')
    (hslots : rs.map Replay.slot = slots active groups number) (f : Fix) :
    rs.flatMap (·.shares f) = (cleared (holds s) groups).flatMap fun build =>
      active.flatMap fun m => finds refuses (out m.1) m.2 build f := by
  by_cases hnone : active = []
  · have hempty : rs = [] := List.eq_nil_iff_forall_not_mem.mpr fun r hr =>
      List.not_mem_nil (hnone ▸ dependent_mem_of_slots hslots r hr)
    simp [hempty, hnone]
  induction groups generalizing number s rs with
  | nil =>
    have hempty : rs = [] := by simpa [slots] using hslots
    rw [hempty]
    rfl
  | cons group rest ih =>
    have hslots' : rs.map Replay.slot =
        active.map (fun m => (m, group, number)) ++ slots active rest (number + 1) := by
      rw [hslots, slots, List.zipIdx_cons, List.flatMap_cons, slots]
    obtain ⟨first, others, rfl, hfirst, hothers⟩ := List.map_eq_append_iff.mp hslots'
    obtain ⟨s₁, hfirstRun, hothersRun⟩ := h.split
    have hdependents : first.map (·.dependent) = active := by
      have hslot := congrArg (List.map Prod.fst) hfirst
      rw [List.map_map, List.map_map] at hslot
      simpa [Function.comp_def, Replay.slot] using hslot
    have hmodules : ∀ r ∈ first, r.dependent.1 ∈ modules := fun r hr =>
      hactive _ (hdependents ▸ List.mem_map_of_mem hr)
    have hgroup : ∀ r ∈ first, r.group = group := by
      intro r hr
      have hslot : r.slot ∈ active.map fun m => (m, group, number) :=
        hfirst ▸ List.mem_map_of_mem hr
      obtain ⟨m, -, hslot⟩ := List.mem_map.mp hslot
      exact (congrArg (fun p => p.2.1) hslot).symm
    obtain ⟨hshares, hleft⟩ := shares_of_group hw hm hmodules hgroup hfirstRun
    have hne : first ≠ [] := by
      rintro rfl
      exact hnone hdependents.symm
    rw [List.flatMap_append, ih hothersRun hothers, hleft hne, cleared, List.flatMap_cons]
    congr 1
    rw [List.flatMap_congr fun r hr => hshares r hr f, ← hdependents, List.flatMap_map]

/-- The builds of an estimate leave in no more than was in. -/
theorem holds_of_replays (hmodules : ∀ r ∈ rs, r.dependent.1 ∈ modules) (h : Replays w s rs s') :
    holds s' ⊆ holds s := by
  induction h with
  | nil => exact Finset.Subset.refl _
  | cons head _ ih =>
    rw [List.forall_mem_cons] at hmodules
    obtain ⟨-, hleft⟩ := report_of_ran hw (hm _ hmodules.1) head
    rw [hleft] at ih
    exact (ih hmodules.2).trans Finset.sdiff_subset

/-- An estimate gives each root what the modules that build at first find for it in the groups. -/
theorem run_finds (groups : List (List Candidate)) (t : Trial ω) :
    ∃ t', holds t'.site.world ⊆ holds t.site.world ∧
      run w modules groups t = .ok ((start groups).map fun e => (e.1,
        .sum ((cleared (holds t.site.world) groups).flatMap fun build =>
          (building out (holds t.site.world) modules).flatMap fun m =>
            finds refuses (out m.1) m.2 build e.1))) t' := by
  rcases account_or_stops w modules groups t with
    ⟨active, lost, rs, t', hrun, ⟨s, hsurveyed, hreplays⟩, hslots, -⟩ | hstops
  · obtain ⟨hactive, hsame⟩ := building_of_surveyed hm hsurveyed
    have hmodules := mem_modules_of_surveyed hsurveyed
    have hleft : holds t'.site.world ⊆ holds s :=
      holds_of_replays hw hm (fun r hr => hmodules _ (dependent_mem_of_slots hslots r hr)) hreplays
    refine ⟨t', hsame ▸ hleft, hrun.trans (congrArg (EStateM.Result.ok · t') ?_)⟩
    rw [start, totals, List.map_map]
    refine List.map_congr_left fun f _ => congrArg (fun bs => (f, Bounds.sum bs)) ?_
    rw [shares_of_replays hw hm hmodules hreplays hslots, hsame, hactive]
  · obtain ⟨e, -, -, he, m, hmem, hraises⟩ := hstops
    exact absurd (expected_of_raises hw (hm m hmem) hraises) he

omit hw hm in
/-- Modules that do not build at first find nothing. -/
theorem sum_building (f : Fix) :
    Bounds.sum ((building out S modules).map fun m =>
      .sum ((cleared S groups).flatMap fun build => finds refuses (out m.1) m.2 build f)) =
    .sum (modules.map fun m => alone refuses (out m) S groups f) := by
  rw [Bounds.sum_eq, Bounds.sum_eq, building]
  induction modules with
  | nil => rfl
  | cons m modules ih =>
    rw [List.map_cons, List.sum_cons, ← ih, List.filterMap_cons, alone]
    cases out m S with
    | none => exact (zero_add _).symm
    | some ds => exact List.sum_cons

/-- An estimate finds for each root the sum of what it would find in the modules alone. -/
theorem run_eq_sum (groups : List (List Candidate)) (t : Trial ω) :
    ∃ t', holds t'.site.world ⊆ holds t.site.world ∧
      run w modules groups t = .ok ((start groups).map fun e =>
        (e.1, .sum (modules.map fun m => alone refuses (out m) (holds t.site.world) groups e.1))) t' := by
  obtain ⟨t', hleft, hrun⟩ := run_finds hw hm groups t
  refine ⟨t', hleft, hrun.trans (congrArg (EStateM.Result.ok · t') ?_)⟩
  refine List.map_congr_left fun e _ => congrArg (Prod.mk e.1) ?_
  rw [← sum_building]
  -- by groups and then by modules, or the other way round
  simp only [Bounds.sum_eq, Bounds.sum_flatMap]
  exact Bounds.sum_swap _ _ _

end Sums

/-- Whatever groups there are and whatever is in, if the workspace takes out all that it put in, and
what it refuses and what the modules report depends on nothing but the fixes: an estimate over several
modules, in any order, gives each root the sum of what the estimates with each of them alone give it.
None of these leaves anything behind, and a module that does not build at first counts for nothing. -/
theorem run_additive {modules : List (DependentModule ω)} (hw : w.Selective holds refuses)
    (hm : ∀ m ∈ modules, ∃ out, BuildsBy holds out m.verify) (S : Finset FixKey)
    (groups : List (List Candidate)) :
    ∃ each : DependentModule ω → Fix → Bounds,
      (∀ m ∈ modules, ∀ t : Trial ω, holds t.site.world = S →
        ∃ t', holds t'.site.world ⊆ S ∧
          run w [m] groups t = .ok ((start groups).map fun e => (e.1, each m e.1)) t') ∧
      (∀ ms, ms.Perm modules → ∀ t : Trial ω, holds t.site.world = S →
        ∃ t', holds t'.site.world ⊆ S ∧ run w ms groups t =
          .ok ((start groups).map fun e => (e.1, .sum (modules.map fun m => each m e.1))) t') ∧
      ∀ m ∈ modules, ∀ s e s', holds s = S → m.verify s = .error e s' → ∀ f, each m f = .zero := by
  choose! out hout using hm
  refine ⟨fun m => alone refuses (out m) S groups, fun m hmem t ht => ?_, fun ms hperm t ht => ?_,
    fun m hmem s e s' hs hfails f => ?_⟩
  · have hone : ∀ m' ∈ [m], BuildsBy holds (out m') m'.verify :=
      List.forall_mem_singleton.mpr (hout m hmem)
    obtain ⟨t', hleft, hrun⟩ := run_eq_sum hw hone groups t
    rw [ht] at hleft hrun
    refine ⟨t', hleft, hrun.trans (congrArg (EStateM.Result.ok · t') ?_)⟩
    refine List.map_congr_left fun e _ => congrArg (Prod.mk e.1) ?_
    rw [Bounds.sum_eq, List.map_singleton, List.sum_singleton]
  · obtain ⟨t', hleft, hrun⟩ := run_eq_sum hw (fun m hmem => hout m (hperm.mem_iff.mp hmem)) groups t
    rw [ht] at hleft hrun
    refine ⟨t', hleft, hrun.trans (congrArg (EStateM.Result.ok · t') ?_)⟩
    refine List.map_congr_left fun e _ => congrArg (Prod.mk e.1) ?_
    rw [Bounds.sum_eq, Bounds.sum_eq, (hperm.map _).sum_eq]
  · obtain ⟨-, hnone, -⟩ := (hout m hmem).failed s e s' hfails
    rw [hs] at hnone
    simp only [alone, hnone]

/-- A workspace that does not let in one field. -/
def picky : Workspace (List Fix) :=
  { Workspace.inMemory (fun _ => .ok []) with
    inject := fun fixes held =>
      if (Fix.ofField "C" "u").key ∈ Fix.keys fixes then
        .error (.workspace (.refused "no such class")) held
      else .ok () (Keyed.union Fix.key held fixes) }

theorem selective_picky :
    picky.Selective Fix.keys fun _ batch => decide ((Fix.ofField "C" "u").key ∈ batch) := by
  constructor
  · intro fixes s s' h
    change (if _ then _ else _) = _ at h
    split at h
    · cases h
    · cases h
      exact ⟨decide_eq_false ‹_›, Fix.keys_union⟩
  · intro fixes s e s' h
    change (if _ then _ else _) = _ at h
    split at h
    · cases h
      exact ⟨⟨_, rfl⟩, decide_eq_true ‹_›, rfl⟩
    · cases h
  · exact fun fixes s => ⟨_, rfl, Fix.keys_without⟩

/-- A module that is built by a function of the fixes that are in. -/
def reporting (name : String) (out : Finset FixKey → Option (List Diagnostic)) :
    DependentModule (List Fix) :=
  { name := .text name
    verify := fun held =>
      match out (Fix.keys held) with
      | some ds => .ok ds held
      | none => .error (.workspace .noCommand) held }

theorem buildsBy_reporting (name : String) (out : Finset FixKey → Option (List Diagnostic)) :
    BuildsBy Fix.keys out (reporting name out).verify := by
  constructor
  · intro s ds s' h
    unfold reporting at h
    dsimp only at h
    split at h
    · cases h
      exact ⟨‹_›, rfl⟩
    · cases h
  · intro s e s' h
    unfold reporting at h
    dsimp only at h
    split at h
    · cases h
    · cases h
      exact ⟨⟨_, rfl⟩, ‹_›, rfl⟩

/-- A module that reports one field and does not build with another one, one that does not build
unless that one is in, and one that reports both. -/
def threeModules : List (DependentModule (List Fix)) :=
  [reporting "client" fun S =>
      if (Fix.ofField "B" "z").key ∈ S then none
      else if (Fix.ofField "A" "x").key ∈ S then
        some [⟨"null", "p", .ofType "Client", [.ofField "A" "x"]⟩]
      else some [],
    reporting "broken" fun S => if (Fix.ofField "B" "z").key ∈ S then some [] else none,
    reporting "server" fun S =>
      if (Fix.ofField "B" "z").key ∈ S then
        some [⟨"null", "q", .ofType "Server", [.ofField "B" "z"]⟩]
      else if (Fix.ofField "A" "x").key ∈ S then
        some [⟨"null", "r", .ofType "Server", [.ofField "A" "x"]⟩]
      else some []]

/-- The bounds in the table that an estimate returns. -/
def table? (r : EStateM.Result Fault (Trial (List Fix)) Table) : List (FixKey × Bounds) :=
  match r with
  | .ok table _ => table.map fun (f, b) => (f.key, b)
  | .error _ _ => []

/-- Two of the modules report the first field, and one of them a second one. -/
theorem run_additive_three : ∃ each : DependentModule (List Fix) → Fix → Bounds,
    (threeModules.map fun m => (start threeGroups).map fun e => each m e.1) =
      [[⟨1, 1⟩, ⟨0, 0⟩, ⟨0, 0⟩, ⟨0, 0⟩], [⟨0, 0⟩, ⟨0, 0⟩, ⟨0, 0⟩, ⟨0, 0⟩],
        [⟨1, 1⟩, ⟨0, 0⟩, ⟨1, 1⟩, ⟨0, 0⟩]] ∧
    table? (run picky threeModules.reverse threeGroups (Trial.start [])) =
      (start threeGroups).map (fun e =>
        (e.1.key, Bounds.sum (threeModules.map fun m => each m e.1))) := by
  have hm : ∀ m ∈ threeModules, ∃ out, BuildsBy Fix.keys out m.verify := by
    intro m hmem
    simp only [threeModules, List.mem_cons, List.not_mem_nil, or_false] at hmem
    rcases hmem with rfl | rfl | rfl <;> exact ⟨_, buildsBy_reporting _ _⟩
  obtain ⟨each, halone, htogether, -⟩ := run_additive selective_picky hm ∅ threeGroups
  refine ⟨each, ?_, ?_⟩
  · have heach : ∀ m ∈ threeModules, (start threeGroups).map (fun e => each m e.1) =
        (table? (run picky [m] threeGroups (Trial.start []))).map (·.2) := by
      intro m hmem
      obtain ⟨t', -, hrun⟩ := halone m hmem (Trial.start []) rfl
      rw [hrun, table?, List.map_map, List.map_map]
      rfl
    rw [List.map_congr_left heach]
    decide +kernel
  · obtain ⟨t', -, hrun⟩ := htogether _ threeModules.reverse_perm (Trial.start []) rfl
    rw [hrun, table?, List.map_map]
    rfl

end Estimate
end FixTrial
