import FixTrial.Proofs.Act
import FixTrial.Proofs.Exploration.Levels
import FixTrial.Proofs.Graph.Bare

/-!
An exploration knows its workspace by what batches and baseline builds answer, and by nothing else:
where two workspaces answer alike, so do the explorations of them. Of a level this is known from the
batches of its own nodes.
-/
namespace FixTrial

/-- The same exploration of another workspace. -/
def Context.on {ω ω' : Type} (ctx : Context ω) (w : Workspace ω')
    (modules : List (DependentModule ω')) : Context ω' :=
  { workspace := w, modules, regions := ctx.regions, mode := ctx.mode, depth := ctx.depth
    retry := ctx.retry, declared := ctx.declared, link := ctx.link
    destructive := ctx.destructive }

namespace Event

/-- Whether an event tells of a verdict. -/
def isVerdict : Event → Bool
  | .tagged .. => true
  | _ => false

/-- The level that an event tells to be opened. -/
def level? : Event → Option Nat
  | .level depth _ => some depth
  | _ => none

/-- Whether an event tells how far an exploration has come: of a verdict, or of a level opened. -/
def isMilestone (e : Event) : Bool := e.isVerdict || e.level?.isSome

end Event

namespace Exploration
open Act
variable {ω ω' : Type} {R : Trial ω' → Trial ω → Prop} {E : Fault → Prop} {A : List Fix → Prop}
  {w' : Workspace ω'} {w : Workspace ω} {ctx : Context ω}
  {ms' : List (DependentModule ω')} {ms : List (DependentModule ω)}

/-- The graph that a pass starts from, its regions looked up and its groups formed. -/
def prepared (source : RegionSource) (g : Graph) : Graph := (g.updateRegions source).findGroups

/-- Two builds that cannot be told apart, in a batch that `A` allows or alone. A build alone may also
end in a fault that is expected, as no exploration ends with that. -/
structure BuildsAlike (R : Trial ω' → Trial ω → Prop) (E : Fault → Prop) (A : List Fix → Prop)
    (w' : Workspace ω') (w : Workspace ω) (v' : Act ω' (List Diagnostic))
    (v : Act ω (List Diagnostic)) : Prop where
  batch : ∀ {β : Type} (fixes : List Fix) (m : List Diagnostic → β × Except Fault Unit), A fixes →
    (∀ ds e, (m ds).2 = .error e → E e) →
    Alike R E (Both fun run => ∀ e, run.outcome = .error e → E e)
      (Trial.batch w' v' fixes fun ds _ => m ds) (Trial.batch w v fixes fun ds _ => m ds)
  alone : Alike R (fun e => E e ∨ e.Expected) (Both fun _ => True)
    (Trial.onSite (Site.holding v')) (Trial.onSite (Site.holding v))

def ModulesAlike (R : Trial ω' → Trial ω → Prop) (E : Fault → Prop) (A : List Fix → Prop)
    (w' : Workspace ω') (w : Workspace ω) (m' : DependentModule ω') (m : DependentModule ω) : Prop :=
  m'.name = m.name ∧ BuildsAlike R E A w' w m'.verify m.verify

/-- Two trials that are related, and stay so, as far as an exploration can tell that runs no batch
but those that `A` allows. -/
structure Twins (R : Trial ω' → Trial ω → Prop) (E : Fault → Prop) (A : List Fix → Prop)
    (w' : Workspace ω') (w : Workspace ω) (ms' : List (DependentModule ω'))
    (ms : List (DependentModule ω)) : Prop where
  same : ∀ {t' t}, R t' t → t'.bank = t.bank ∧ t'.builds = t.builds ∧
    t'.failedGroups = t.failedGroups ∧ t'.failures = t.failures
  set : ∀ {t' t}, R t' t → ∀ bank builds failedGroups failures,
    R { t' with bank, builds, failedGroups, failures } { t with bank, builds, failedGroups, failures }
  log : ∀ {t' t} (e : Event), e.isMilestone = false → R t' t →
    R { t' with journal := t'.journal ++ [e] } { t with journal := t.journal ++ [e] }
  target : BuildsAlike R E A w' w w'.verify w.verify
  modules : List.Forall₂ (ModulesAlike R E A w' w) ms' ms

/-- Whatever nodes of a graph are put together, `A` allows the batch of their fixes. It does not
matter what the nodes were measured to be. -/
def Allows (A : List Fix → Prop) (g : Graph) : Prop :=
  ∀ (h : Graph) (ns : List Node), h.bare = g.bare → (∀ n ∈ ns, n ∈ h.nodes) →
    A (ns.flatMap (·.fixes))

theorem allows_all {g : Graph} : Allows (fun _ => True) g := fun _ _ _ _ => trivial

theorem Allows.of_bare_eq {g h : Graph} (hA : Allows A g) (hb : h.bare = g.bare) : Allows A h :=
  fun k ns hk => hA k ns (hk.trans hb)

theorem Allows.members {g : Graph} (hA : Allows A g) (group : List Nat) :
    A ((g.members group).flatMap (·.fixes)) := by
  refine hA g _ rfl fun n hn => ?_
  obtain ⟨i, -, hi⟩ := Graph.mem_members.mp hn
  exact List.mem_of_getElem? hi

theorem Allows.candidates {g : Graph} (hA : Allows A g) :
    ∀ group ∈ candidates g, A (group.flatMap (·.linked)) := by
  intro group hgroup
  obtain ⟨is, -, rfl⟩ := List.mem_map.mp (List.mem_filter.mp hgroup).1
  rw [List.flatMap_map]
  refine hA g _ rfl fun n hn => ?_
  obtain ⟨i, -, hi⟩ := Graph.mem_members.mp (List.mem_filter.mp hn).1
  exact List.mem_of_getElem? hi

theorem measured_of_run {β : Type} {v : Act ω (List Diagnostic)} {fixes : List Fix}
    {m : List Diagnostic → β × Except Fault Unit} {t t' : Trial ω} {run : BatchRun β} {b : β}
    (h : Trial.batch w v fixes (fun ds _ => m ds) t = .ok run t') (hb : run.measured = some b) :
    ∃ ds, b = (m ds).1 := by
  unfold Trial.batch Batch.run at h
  dsimp only at h
  split at h
  · simp only [EStateM.Result.ok.injEq] at h
    rw [← h.1] at hb
    simp [Batch.abandon] at hb
  · simp only [EStateM.Result.ok.injEq] at h
    rw [← h.1] at hb
    simp at hb
  next ds _ _ =>
    simp only [EStateM.Result.ok.injEq] at h
    rw [← h.1] at hb
    exact ⟨ds, (Option.some.inj hb).symm⟩

/-- What holds of a batch whose measurement raises only what is allowed. -/
def Measured {β : Type} (E : Fault → Prop) (m : List Diagnostic → β × Except Fault Unit)
    (run : BatchRun β) : Prop :=
  (∀ e, run.outcome = .error e → E e) ∧ ∀ b, run.measured = some b → ∃ ds, b = (m ds).1

theorem BuildsAlike.measured {β : Type} {v' : Act ω' (List Diagnostic)}
    {v : Act ω (List Diagnostic)} (h : BuildsAlike R E A w' w v' v) (fixes : List Fix)
    (m : List Diagnostic → β × Except Fault Unit) (hA : A fixes)
    (hm : ∀ ds e, (m ds).2 = .error e → E e) :
    Alike R E (Both (Measured E m)) (Trial.batch w' v' fixes fun ds _ => m ds)
      (Trial.batch w v fixes fun ds _ => m ds) := by
  intro s' s hr
  have hb := h.batch fixes m hA hm s' s hr
  cases hx : Trial.batch w v fixes (fun ds _ => m ds) s with
  | error e t =>
    rw [hx] at hb
    generalize Trial.batch w' v' fixes (fun ds _ => m ds) s' = r' at hb ⊢
    cases hb with
    | error he hr => exact .error he hr
  | ok run t =>
    rw [hx] at hb
    generalize Trial.batch w' v' fixes (fun ds _ => m ds) s' = r' at hb ⊢
    cases hb with
    | ok hv hr => exact .ok ⟨hv.1, hv.2, fun b hb => measured_of_run hx hb⟩ hr

theorem roots_add (table : Estimate.Table) (root : Fix) (b : Bounds) :
    (table.add root b).map Prod.fst = table.map Prod.fst := by
  unfold Estimate.Table.add
  rw [List.map_map]
  apply List.map_congr_left
  rintro ⟨f, c⟩ _
  by_cases h : f.key = root.key <;> simp [h]

theorem roots_foldl_add (bs : List (Fix × Bounds)) (table : Estimate.Table) :
    (bs.foldl (fun t (root, b) => t.add root b) table).map Prod.fst = table.map Prod.fst := by
  induction bs generalizing table with
  | nil => rfl
  | cons b bs ih => rw [List.foldl_cons, ih, roots_add]

/-- A verdict asks nothing of the workspace. -/
theorem verdict?_on (final : Bool) (settled : List Fix) (r : Report) :
    verdict? (ctx.on w' ms') final settled r = verdict? ctx final settled r := rfl

namespace Twins
section
variable (H : Twins R E A w' w ms' ms)
include H

theorem of_log (e : Event) (he : e.isMilestone = false) :
    Alike R E (fun _ _ => True) (Trial.log e : Act (Trial ω') Unit) (Trial.log e) :=
  Alike.of_modify fun _ _ hr => H.log e he hr

/-- Both trials may change what is counted and kept in them in one way. -/
theorem of_set {u' : Trial ω' → Trial ω'} {u : Trial ω → Trial ω}
    (h : ∀ t' t, R t' t → ∃ bank builds failedGroups failures,
      u' t' = { t' with bank, builds, failedGroups, failures } ∧
      u t = { t with bank, builds, failedGroups, failures }) :
    Alike R E (fun _ _ => True) (modify u' : Act (Trial ω') Unit) (modify u) := by
  refine .of_modify fun t' t hr => ?_
  obtain ⟨bank, builds, failedGroups, failures, h', h⟩ := h t' t hr
  rw [h', h]
  exact H.set hr bank builds failedGroups failures

theorem countBuild : Alike R E (fun _ _ => True)
    (modify fun t : Trial ω' => { t with builds := t.builds + 1 })
    (modify fun t : Trial ω => { t with builds := t.builds + 1 }) := by
  apply H.of_set
  intro t' t hr
  obtain ⟨hb, hn, hf, hs⟩ := H.same hr
  exact ⟨t.bank, t.builds + 1, t.failedGroups, t.failures, by simp [← hb, ← hn, ← hf, ← hs], rfl⟩

theorem keepBank (bank : Bank) : Alike R E (fun _ _ => True)
    (modify fun t : Trial ω' => { t with bank }) (modify fun t : Trial ω => { t with bank }) := by
  apply H.of_set
  intro t' t hr
  obtain ⟨_, hn, hf, hs⟩ := H.same hr
  exact ⟨bank, t.builds, t.failedGroups, t.failures, by simp [← hn, ← hf, ← hs], rfl⟩

theorem recordFailure (g : Graph) (group : List Nat) (depth number : Nat) (logs : List String) :
    Alike R E (Both fun h => h.bare = g.bare)
      (recordFailure g group depth number logs : Act (Trial ω') Graph)
      (recordFailure g group depth number logs) := by
  refine (H.of_set fun t' t hr => ?_).bind fun _ _ _ => (H.of_log _ rfl).bind fun _ _ _ =>
    .of_pure ⟨rfl, Graph.bare_modifyGroup fun _ => rfl⟩
  obtain ⟨hb, hn, hf, hs⟩ := H.same hr
  exact ⟨t.bank, t.builds, t.failedGroups + 1, t.failures ++ [_], by simp [hb, hn, hf, hs], rfl⟩

theorem buildGroup (g : Graph) (group : List Nat) (depth number : Nat)
    (hA : A ((g.members group).flatMap (·.fixes))) (hc : g.checkGroup group = .ok ()) :
    Alike R E (Both fun p => p.1.bare = g.bare)
      (buildGroup (ctx.on w' ms') g group depth number)
      (buildGroup (ctx.on w ms) g group depth number) := by
  refine (H.of_log _ rfl).bind fun _ _ _ => H.countBuild.bind fun _ _ _ =>
    Alike.of_get.bind fun t' t hr => ?_
  rw [(H.same hr).1]
  refine (H.target.measured _ _ hA fun ds e he => ?_).bind ?_
  · rw [Graph.measureGroup_of_ok hc] at he
    simp at he
  rintro run _ ⟨rfl, hE, hm⟩
  have hbare : ((run.measured.join).getD (g, t.bank)).1.bare = g.bare := by
    cases hj : run.measured.join with
    | none => rfl
    | some p =>
      obtain ⟨ds, hds⟩ := hm _ (Option.join_eq_some_iff.mp hj)
      exact Graph.bare_measureGroup hds.symm
  generalize (run.measured.join).getD (g, t.bank) = p at hbare ⊢
  obtain ⟨h, bank⟩ := p
  refine (H.keepBank bank).bind fun _ _ _ => ?_
  cases ho : run.outcome with
  | error e => exact .of_throw (hE e ho)
  | ok result =>
    refine .ite Iff.rfl (fun _ => ?_) fun _ => ?_
    · exact (H.of_log _ rfl).bind fun _ _ _ => .of_pure ⟨rfl, hbare⟩
    · refine (H.recordFailure h group depth number result.logs).bind ?_
      rintro k _ ⟨rfl, hk⟩
      exact .of_pure ⟨rfl, hk.trans hbare⟩

theorem retryEach (depth number : Nat) (group : List Nat) (g : Graph) (hA : Allows A g) :
    Alike R E (Both fun h => h.bare = g.bare) (retryEach (ctx.on w' ms') depth number g group)
      (retryEach (ctx.on w ms) depth number g group) := by
  unfold Exploration.retryEach
  refine Alike.foldlM (T := Eq) (List.forall₂_refl group) ?_ ⟨rfl, rfl⟩
  rintro h _ i _ ⟨rfl, hh⟩ rfl
  have hcleared : (h.modify i fun n => { n with failed := false }).bare = h.bare :=
    Graph.bare_modify fun _ => rfl
  refine (H.buildGroup _ [i] depth number ((hA.of_bare_eq (hcleared.trans hh)).members [i])
    Graph.checkGroup_singleton).bind ?_
  rintro p _ ⟨rfl, hp⟩
  exact .of_pure ⟨rfl, (hp.trans hcleared).trans hh⟩

theorem runGroup (g : Graph) (group : List Nat) (depth number : Nat) (hA : Allows A g)
    (hc : g.checkGroup group = .ok ()) :
    Alike R E (Both fun h => h.bare = g.bare) (runGroup (ctx.on w' ms') g group depth number)
      (runGroup (ctx.on w ms) g group depth number) := by
  refine (H.buildGroup g group depth number (hA.members group) hc).bind ?_
  rintro ⟨h, ok⟩ _ ⟨rfl, hh⟩
  refine .ite Iff.rfl (fun _ => ?_) fun _ => .of_pure ⟨rfl, hh⟩
  refine (H.of_log _ rfl).bind fun _ _ _ =>
    (H.retryEach depth number group h (hA.of_bare_eq hh)).mono ?_
  rintro k _ ⟨rfl, hk⟩
  exact ⟨rfl, hk.trans hh⟩

theorem runGroups (depth number : Nat) (g : Graph) (groups : List (List Nat)) (hA : Allows A g)
    (hc : ∀ group ∈ groups, g.checkGroup group = .ok ()) :
    Alike R E (Both fun h => h.bare = g.bare) (runGroups (ctx.on w' ms') depth number g groups)
      (runGroups (ctx.on w ms) depth number g groups) := by
  induction groups generalizing number g with
  | nil => exact .of_pure ⟨rfl, rfl⟩
  | cons group rest ih =>
    rw [List.forall_mem_cons] at hc
    refine (H.runGroup g group depth number hA hc.1).bind ?_
    rintro h _ ⟨rfl, hh⟩
    -- the check reads no measurement, so the groups to come are still accepted
    refine (ih (number + 1) h (hA.of_bare_eq hh)
      fun k hk => Graph.checkGroup_of_bare_eq hh (hc.2 k hk)).mono ?_
    rintro k _ ⟨rfl, hk⟩
    exact ⟨rfl, hk.trans hh⟩

/-- A pass changes only the measurements of a graph. -/
theorem pass {g : Graph} (hg : g.Arena) (hA : Allows A (prepared ctx.regions g)) (depth : Nat) :
    Alike R E (Both fun h => h.bare = (prepared ctx.regions g).bare)
      (pass (ctx.on w' ms') g depth) (pass (ctx.on w ms) g depth) :=
  (H.of_log _ rfl).bind fun _ _ _ => (H.of_log _ rfl).bind fun _ _ _ =>
    H.runGroups depth 0 _ _ hA fun _ hk => Graph.checkGroup_partition hg hk

/-- A module that built alone, on either side, with what it then reported. -/
def BaselinesAlike (R : Trial ω' → Trial ω → Prop) (E : Fault → Prop) (A : List Fix → Prop)
    (w' : Workspace ω') (w : Workspace ω) (p' : DependentModule ω' × Snapshot)
    (p : DependentModule ω × Snapshot) : Prop :=
  ModulesAlike R E A w' w p'.1 p.1 ∧ p'.2 = p.2

theorem baselines {ns' : List (DependentModule ω')} {ns : List (DependentModule ω)}
    (hms : List.Forall₂ (ModulesAlike R E A w' w) ns' ns) :
    Alike R E (List.Forall₂ (BaselinesAlike R E A w' w)) (Estimate.baselines ns')
      (Estimate.baselines ns) := by
  induction hms with
  | nil => exact .of_pure .nil
  | @cons m' m rest' rest hm _ ih =>
    refine Alike.bind (V := Both fun _ => True)
      (.tryCatch (F := fun e => E e ∨ e.Expected) (V := Both fun _ => True) ?_ ?_) ?_
    · exact hm.2.alone.map fun _ _ hv => ⟨congrArg some hv.1, trivial⟩
    · intro e he
      cases e with
      | workspace e =>
        dsimp only
        rw [hm.1]
        exact (H.of_log _ rfl).bind fun _ _ _ => .of_pure ⟨rfl, trivial⟩
      | _ => exact .of_throw (he.resolve_right fun ⟨_, h⟩ => nomatch h)
    · rintro built _ ⟨rfl, -⟩
      refine ih.bind fun others' others ho => ?_
      cases built with
      | none => exact .of_pure ho
      | some ds => exact .of_pure (.cons ⟨hm, rfl⟩ ho)

theorem replay (number : Nat) (group : List Candidate) (table : Estimate.Table)
    {m' : DependentModule ω' × Snapshot} {m : DependentModule ω × Snapshot}
    (hA : A (group.flatMap (·.linked))) (hm : BaselinesAlike R E A w' w m' m) :
    Alike R E (Both fun t => t.map Prod.fst = table.map Prod.fst)
      (Estimate.replay w' number group table m') (Estimate.replay w number group table m) := by
  unfold Estimate.replay
  rw [hm.2, hm.1.1]
  refine (hm.1.2.batch _ (fun ds => (Estimate.contribution m.2 group ds, .ok ())) hA ?_).bind ?_
  · intro ds e he
    simp at he
  rintro run _ ⟨rfl, hE⟩
  cases ho : run.outcome with
  | error e => exact .of_throw (hE e ho)
  | ok result =>
    refine .ite Iff.rfl (fun _ => ?_) fun _ => ?_
    · exact (H.of_log _ rfl).bind fun _ _ _ => .of_pure ⟨rfl, roots_foldl_add _ _⟩
    · exact (H.of_log _ rfl).bind fun _ _ _ => .of_pure ⟨rfl, roots_foldl_add _ _⟩

theorem replayGroups {active' : List (DependentModule ω' × Snapshot)}
    {active : List (DependentModule ω × Snapshot)}
    (ha : List.Forall₂ (BaselinesAlike R E A w' w) active' active) (number : Nat)
    (groups : List (List Candidate)) (hA : ∀ group ∈ groups, A (group.flatMap (·.linked)))
    (table : Estimate.Table) :
    Alike R E (Both fun t => t.map Prod.fst = table.map Prod.fst)
      (Estimate.replayGroups w' active' number table groups)
      (Estimate.replayGroups w active number table groups) := by
  induction groups generalizing number table with
  | nil => exact .of_pure ⟨rfl, rfl⟩
  | cons group rest ih =>
    rw [List.forall_mem_cons] at hA
    refine Alike.bind (V := Both fun t => t.map Prod.fst = table.map Prod.fst) ?_ ?_
    · refine Alike.foldlM ha ?_ ⟨rfl, rfl⟩
      rintro t _ m' m ⟨rfl, ht⟩ hm
      refine (H.replay number group t hA.1 hm).mono ?_
      rintro u _ ⟨rfl, hu⟩
      exact ⟨rfl, hu.trans ht⟩
    · rintro t _ ⟨rfl, ht⟩
      refine (ih (number + 1) hA.2 t).mono ?_
      rintro u _ ⟨rfl, hu⟩
      exact ⟨rfl, hu.trans ht⟩

/-- An estimate is a table of the roots it was asked for. -/
theorem estimateRun (groups : List (List Candidate))
    (hA : ∀ group ∈ groups, A (group.flatMap (·.linked))) :
    Alike R E (Both fun t => t.map Prod.fst = (Estimate.start groups).map Prod.fst)
      (Estimate.run w' ms' groups) (Estimate.run w ms groups) := by
  have hlen := H.modules.length_eq
  unfold Estimate.run
  refine .ite ?_ (fun _ => .of_pure ⟨rfl, rfl⟩) fun _ => ?_
  · rw [List.isEmpty_iff_length_eq_zero, List.isEmpty_iff_length_eq_zero, hlen]
  · rw [hlen]
    refine (H.of_log _ rfl).bind fun _ _ _ => (H.baselines H.modules).bind fun _ _ ha => ?_
    exact H.replayGroups ha 0 groups hA _

theorem estimate (g : Graph) (rs : Reports) (hA : Allows A g) :
    Alike R E (Both fun _ => True) (estimate (ctx.on w' ms') g rs)
      (estimate (ctx.on w ms) g rs) := by
  refine (H.estimateRun (candidates g) hA.candidates).bind ?_
  rintro table _ ⟨rfl, -⟩
  exact .of_pure ⟨rfl, trivial⟩

theorem level {g : Graph} (hg : g.Arena) (hA : Allows A (prepared ctx.regions g)) (depth : Nat)
    (rs : Reports) :
    Alike R E (Both fun p => p.1.bare = (prepared ctx.regions g).bare)
      (level (ctx.on w' ms') g depth rs) (level (ctx.on w ms) g depth rs) := by
  refine (H.pass hg hA depth).bind ?_
  rintro h _ ⟨rfl, hh⟩
  exact .of_pure ⟨rfl, hh⟩

theorem conclude (rs : Reports) (reached : Nat) (exceeded : Bool) :
    Alike R E (Both fun _ => True)
      (conclude rs reached exceeded : Act (Trial ω') ExplorationResult)
      (conclude rs reached exceeded) := by
  refine Alike.of_get.bind fun t' t hr => (H.of_log _ rfl).bind fun _ _ _ => ?_
  obtain ⟨-, hn, hf, hs⟩ := H.same hr
  rw [hn, hf, hs]
  refine .ite Iff.rfl (fun _ => (H.of_log _ rfl).bind fun _ _ _ => ?_) fun _ => ?_
  · exact (H.of_log _ rfl).bind fun _ _ _ => .of_pure ⟨rfl, trivial⟩
  · exact (H.of_log _ rfl).bind fun _ _ _ => .of_pure ⟨rfl, trivial⟩

variable (hverdict : ∀ {t' t} (e : Event), e.isVerdict = true → R t' t →
  R { t' with journal := t'.journal ++ [e] } { t with journal := t.journal ++ [e] })
include hverdict

omit H in
theorem decideEach (final : Bool) (settled : List Fix) (rs : Reports) :
    Alike R E (Both fun _ => True) (decideEach (ctx.on w' ms') final settled rs)
      (decideEach (ctx.on w ms) final settled rs) := by
  induction rs with
  | nil => exact .of_pure ⟨rfl, trivial⟩
  | cons r rest ih =>
    unfold Exploration.decideEach
    rw [verdict?_on, verdict?_on]
    cases verdict? ctx final settled r with
    | none =>
      refine ih.bind ?_
      rintro others _ ⟨rfl, -⟩
      exact .of_pure ⟨rfl, trivial⟩
    | some tag =>
      refine (Alike.of_modify fun _ _ hr => hverdict _ rfl hr).bind fun _ _ _ => ih.bind ?_
      rintro others _ ⟨rfl, -⟩
      exact .of_pure ⟨rfl, trivial⟩

omit H in
theorem decideReports (final : Bool) (rs : Reports) :
    Alike R E (Both fun _ => True) (decideReports (ctx.on w' ms') final rs)
      (decideReports (ctx.on w ms) final rs) :=
  decideEach hverdict final rs.settled rs

theorem finish (rs : Reports) (reached : Nat) :
    Alike R E (Both fun _ => True) (finish (ctx.on w' ms') rs reached)
      (finish (ctx.on w ms) rs reached) := by
  refine .ite Iff.rfl (fun _ => (H.of_log _ rfl).bind fun _ _ _ => ?_) fun _ => ?_
  all_goals
    refine (decideReports hverdict true rs).bind ?_
    rintro decided _ ⟨rfl, -⟩
    exact H.conclude decided reached _

omit hverdict in
theorem buildBaseline :
    Alike R E (Both fun _ => True) (buildBaseline (ctx.on w' ms')) (buildBaseline (ctx.on w ms)) := by
  refine H.countBuild.bind fun _ _ _ =>
    .tryCatch (F := fun e => E e ∨ e.Expected) ?_ fun e he => ?_
  · exact H.target.alone.map fun _ _ hv => ⟨congrArg Except.ok hv.1, trivial⟩
  · cases e with
    | workspace e => exact .of_pure ⟨rfl, trivial⟩
    | _ => exact .of_throw (he.resolve_right fun ⟨_, h⟩ => nomatch h)

end

section
variable (H : Twins R E (fun _ => True) w' w ms' ms)
include H
variable (hlog : ∀ {t' t} (e : Event), R t' t →
  R { t' with journal := t'.journal ++ [e] } { t with journal := t.journal ++ [e] })
include hlog

theorem descend (depth : Nat) (rs : Reports) (budget : Nat) :
    Alike R E (Both fun _ => True) (descend (ctx.on w' ms') depth rs budget)
      (descend (ctx.on w ms) depth rs budget) := by
  induction budget generalizing depth rs with
  | zero => exact .of_pure ⟨rfl, trivial⟩
  | succ budget ih =>
    refine Alike.of_get.bind fun t' t hr => ?_
    rw [(H.same hr).1]
    refine .ite Iff.rfl (fun _ => .of_pure ⟨rfl, trivial⟩) fun _ => ?_
    refine (Alike.of_modify fun _ _ hr => hlog _ hr).bind fun _ _ _ =>
      (H.level (Graph.arena_of_built built_nextLevel) allows_all depth rs).bind ?_
    rintro ⟨_, folded⟩ _ ⟨rfl, -⟩
    refine (decideReports (fun e _ => hlog e) false folded).bind ?_
    rintro decided _ ⟨rfl, -⟩
    exact ih (depth + 1) decided

variable (hfraction : ctx.depth.levels? = none → E .wrongType)
include hfraction

theorem follow (rs : Reports) :
    Alike R E (Both fun _ => True) (follow (ctx.on w' ms') rs) (follow (ctx.on w ms) rs) := by
  have hdepth : (ctx.on w' ms').depth = ctx.depth ∧ (ctx.on w ms).depth = ctx.depth := ⟨rfl, rfl⟩
  unfold Exploration.follow
  rw [hdepth.1, hdepth.2]
  cases hlevels : ctx.depth.levels? with
  | none => exact .of_throw (hfraction hlevels)
  | some budget =>
    refine (H.descend hlog 1 rs budget).bind ?_
    rintro ⟨last, reached⟩ _ ⟨rfl, -⟩
    exact H.finish (fun e _ => hlog e) last reached

theorem exploreFrom (baseline : Snapshot) (fixes : Option (List Fix)) :
    Alike R E (Both fun _ => True) (exploreFrom (ctx.on w' ms') baseline fixes)
      (exploreFrom (ctx.on w ms) baseline fixes) := by
  refine (Alike.of_modify fun _ _ hr => hlog _ hr).bind fun _ _ _ => ?_
  refine .ite Iff.rfl (fun _ => H.conclude _ _ _) fun _ => ?_
  refine (H.level (Graph.arena_of_built built_firstLevel) allows_all 0 _).bind ?_
  rintro ⟨g, rs⟩ _ ⟨rfl, -⟩
  have hrest : ∀ rs : Reports, Alike R E (Both fun _ => True)
      (Exploration.decideReports (ctx.on w' ms') ctx.depth.isZero rs >>=
        Exploration.follow (ctx.on w' ms'))
      (Exploration.decideReports (ctx.on w ms) ctx.depth.isZero rs >>=
        Exploration.follow (ctx.on w ms)) := by
    intro rs
    refine (decideReports (fun e _ => hlog e) _ rs).bind ?_
    rintro decided _ ⟨rfl, -⟩
    exact H.follow hlog hfraction decided
  refine .ite ?_ (fun _ => hrest rs) fun _ => ?_
  · rw [List.isEmpty_iff_length_eq_zero, List.isEmpty_iff_length_eq_zero]
    exact H.modules.length_eq ▸ Iff.rfl
  · refine (H.estimate g rs allows_all).bind ?_
    rintro estimated _ ⟨rfl, -⟩
    exact hrest estimated

/-- Explorations of twins give one result, or end in one fault. -/
theorem explore (fixes : Option (List Fix)) :
    Alike R E (Both fun _ => True) (explore (ctx.on w' ms') fixes)
      (explore (ctx.on w ms) fixes) := by
  refine (H.of_log _ rfl).bind fun _ _ _ => H.buildBaseline.bind ?_
  rintro built _ ⟨rfl, -⟩
  cases built with
  | error e => exact (H.of_log _ rfl).bind fun _ _ _ => H.conclude _ _ _
  | ok ds =>
    exact (H.keepBank _).bind fun _ _ _ => (H.of_log _ rfl).bind fun _ _ _ =>
      H.exploreFrom hlog hfraction ⟨ds⟩ fixes

end
end Twins
end Exploration
end FixTrial
