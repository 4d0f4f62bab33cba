import FixTrial.Proofs.Batch
import FixTrial.Proofs.Exploration.Faults
import FixTrial.Proofs.Workspace.InMemory

/-!
Replays: the builds that an estimate makes of its groups in the dependent modules. An estimate is
accounted for by how each of them came out: its bounds add up what the builds reported, and its
journal says which of them succeeded.
-/
namespace FixTrial

/-- The bounds that several findings come to. -/
def Bounds.sum (bs : List Bounds) : Bounds := bs.foldl .add .zero

namespace Estimate
open Act

/-- How the build of a batch came out. -/
inductive Outcome
  /-- It was built and taken out again. -/
  | measured (ds : List Diagnostic)
  /-- It was built, but could not be taken out. -/
  | stuck (ds : List Diagnostic) (e : WorkspaceError)
  /-- It could not be put in or not be built, and perhaps not be taken out either. -/
  | failed (e : WorkspaceError) (left : Option WorkspaceError)

namespace Outcome

/-- What was built, whatever came of taking it out. -/
def report? : Outcome → Option (List Diagnostic)
  | measured ds => some ds
  | stuck ds _ => some ds
  | failed .. => none

def revertLog (e : WorkspaceError) : String := s!"revert failed: {e.message}"

def logs : Outcome → List String
  | measured _ => []
  | stuck _ e => [revertLog e]
  | failed e left => s!"verification failed: {e.message}" :: (left.map revertLog).toList

end Outcome

/-- From `s` a batch was put in, built and taken out, with an outcome, and left `s'`. -/
inductive Ran {ω : Type} (w : Workspace ω) (v : Act ω (List Diagnostic)) (batch : List Fix) (s : ω) :
    Outcome → ω → Prop
  | measured {ds : List Diagnostic} {s₁ s' : ω} (hb : Batch.build w v batch s = .ok ds s₁)
      (hr : w.revert batch s₁ = .ok () s') : Ran w v batch s (.measured ds) s'
  | stuck {ds : List Diagnostic} {e : WorkspaceError} {s₁ s' : ω}
      (hb : Batch.build w v batch s = .ok ds s₁)
      (hr : w.revert batch s₁ = .error (.workspace e) s') : Ran w v batch s (.stuck ds e) s'
  | failed {e : WorkspaceError} {s₁ s' : ω} (hb : Batch.build w v batch s = .error (.workspace e) s₁)
      (hr : w.revert batch s₁ = .ok () s') : Ran w v batch s (.failed e none) s'
  | lost {e e' : WorkspaceError} {s₁ s' : ω}
      (hb : Batch.build w v batch s = .error (.workspace e) s₁)
      (hr : w.revert batch s₁ = .error (.workspace e') s') : Ran w v batch s (.failed e (some e')) s'

variable {ω β : Type} {w : Workspace ω} {v : Act ω (List Diagnostic)} {fixes : List Fix}
  {s s' : ω} {o : Outcome} {site : Site ω} {t t' : Trial ω}

/-- A batch with an outcome reports just that, and measures what was built. -/
theorem batch_of_ran (h : Ran w v (Fix.dedupe fixes) t.site.world o s')
    (f : List Diagnostic → β) :
    Trial.batch w v fixes (fun ds _ => (f ds, .ok ())) t =
      .ok ⟨.ok ⟨o.logs.isEmpty, Fix.dedupe fixes, o.logs⟩, o.report?.map f⟩
        { t with site := ⟨s', false⟩ } := by
  unfold Trial.batch
  cases h with
  | measured hb hr =>
    rw [Batch.run_of_build hb (Batch.close_of_revert hr)]
    rfl
  | stuck hb hr =>
    rw [Batch.run_of_build hb (Batch.close_of_refusal hr)]
    rfl
  | failed hb hr =>
    rw [Batch.run_of_failure hb (Batch.close_of_revert hr)]
    rfl
  | lost hb hr =>
    rw [Batch.run_of_failure hb (Batch.close_of_refusal hr)]
    rfl

/-- A batch has an outcome, unless a fault that is no workspace error ends it. -/
theorem ran_or_fault (w : Workspace ω) (v : Act ω (List Diagnostic)) (fixes : List Fix)
    (t : Trial ω) :
    (∃ o s', Ran w v (Fix.dedupe fixes) t.site.world o s') ∨
      ∃ e, w.Raises v e ∧ ¬ e.Expected ∧
        ∀ f : List Diagnostic → β, ∃ measured t',
          Trial.batch w v fixes (fun ds _ => (f ds, .ok ())) t = .ok ⟨.error e, measured⟩ t' := by
  cases hb : Batch.build w v (Fix.dedupe fixes) t.site.world with
  | ok ds s₁ =>
    cases hr : w.revert (Fix.dedupe fixes) s₁ with
    | ok _ s' => exact .inl ⟨_, s', .measured hb hr⟩
    | error e s' =>
      by_cases he : e.Expected
      · obtain ⟨e, rfl⟩ := he
        exact .inl ⟨_, s', .stuck hb hr⟩
      · refine .inr ⟨e, .revert _ ⟨_, _, hr⟩, he, fun f => ?_⟩
        unfold Trial.batch Batch.run
        simp only [hb, Batch.close_of_fault hr he]
        exact ⟨_, _, rfl⟩
  | error e s₁ =>
    by_cases he : e.Expected
    · obtain ⟨e, rfl⟩ := he
      cases hr : w.revert (Fix.dedupe fixes) s₁ with
      | ok _ s' => exact .inl ⟨_, s', .failed hb hr⟩
      | error e' s' =>
        by_cases he' : e'.Expected
        · obtain ⟨e', rfl⟩ := he'
          exact .inl ⟨_, s', .lost hb hr⟩
        · refine .inr ⟨e', .revert _ ⟨_, _, hr⟩, he', fun f => ?_⟩
          unfold Trial.batch Batch.run Batch.abandon
          simp only [hb, Batch.close_of_fault hr he']
          exact ⟨_, _, rfl⟩
    · refine .inr ⟨e, Batch.raises_of_build hb, he, fun f => ?_⟩
      unfold Trial.batch
      rw [Batch.run_of_fault hb he]
      exact ⟨_, _, rfl⟩

/-- One build of a group in a dependent module, and how it came out. -/
structure Replay (ω : Type) where
  dependent : DependentModule ω × Snapshot
  number : Nat
  group : List Candidate
  outcome : Outcome

/-- How many times more each diagnostic is reported than before. -/
def news (baseline : Snapshot) (ds : List Diagnostic) : List (Diagnostic × Int) :=
  (baseline.compare ⟨ds⟩).addedCounts.map fun (d, n) => (d, (n : Int))

namespace Replay

/-- Which group was built in which module. -/
def slot (r : Replay ω) : (DependentModule ω × Snapshot) × List Candidate × Nat :=
  (r.dependent, r.group, r.number)

def batch (r : Replay ω) : List Fix := Fix.dedupe (r.group.flatMap (·.linked))

/-- What the replay finds for a root: bounds of the diagnostics that its build added, for each
candidate of that root. -/
def shares (r : Replay ω) (f : Fix) : List Bounds :=
  match r.outcome.report? with
  | some ds =>
    (r.group.filter fun c => f.key = c.root.key).map fun c =>
      .count (news r.dependent.2 ds) c.linked
  | none => []

/-- What the journal says of the replay. -/
def event (r : Replay ω) : Event :=
  if r.outcome.logs.isEmpty then .moduleMeasured r.dependent.1.name r.number r.group.length
  else .moduleFailed r.dependent.1.name r.number ("; ".intercalate r.outcome.logs)

/-- What the replay adds to a table. -/
def contribution (r : Replay ω) : List (Fix × Bounds) :=
  (r.outcome.report?.map (Estimate.contribution r.dependent.2 r.group)).getD []

theorem shares_eq (r : Replay ω) (f : Fix) :
    r.shares f = (r.contribution.filter fun e => f.key = e.1.key).map (·.2) := by
  unfold shares contribution
  cases r.outcome.report? with
  | none => rfl
  | some ds =>
    rw [Option.map_some, Option.getD_some, Estimate.contribution, List.filter_map, List.map_map]
    rfl

end Replay

/-- Replays one after the other, from a world to the one they leave. -/
inductive Replays (w : Workspace ω) : ω → List (Replay ω) → ω → Prop
  | nil (s : ω) : Replays w s [] s
  | cons {s s₁ s' : ω} {r : Replay ω} {rs : List (Replay ω)}
      (head : Ran w r.dependent.1.verify r.batch s r.outcome s₁) (rest : Replays w s₁ rs s') :
      Replays w s (r :: rs) s'

theorem Replays.append {s₁ : ω} {rs rs' : List (Replay ω)} (h : Replays w s rs s₁)
    (h' : Replays w s₁ rs' s') : Replays w s (rs ++ rs') s' := by
  induction h with
  | nil => exact h'
  | cons head _ ih => exact .cons head (ih h')

/-- Builds of the modules without any fix: those that succeeded, and an event for each other. -/
inductive Surveyed : List (DependentModule ω) → ω → List (DependentModule ω × Snapshot) →
    List Event → ω → Prop
  | nil (s : ω) : Surveyed [] s [] [] s
  | builds {m : DependentModule ω} {ms : List (DependentModule ω)} {s s₁ s' : ω}
      {ds : List Diagnostic} {active : List (DependentModule ω × Snapshot)} {events : List Event}
      (head : m.verify s = .ok ds s₁) (rest : Surveyed ms s₁ active events s') :
      Surveyed (m :: ms) s ((m, ⟨ds⟩) :: active) events s'
  | fails {m : DependentModule ω} {ms : List (DependentModule ω)} {s s₁ s' : ω} {e : WorkspaceError}
      {active : List (DependentModule ω × Snapshot)} {events : List Event}
      (head : m.verify s = .error (.workspace e) s₁) (rest : Surveyed ms s₁ active events s') :
      Surveyed (m :: ms) s active (.moduleUnbuildable m.name e.message :: events) s'

/-- An action ends in a fault that no estimate expects, and that some build raises. -/
def Stops (w : Workspace ω) (modules : List (DependentModule ω)) {α : Type}
    (x : Act (Trial ω) α) (t : Trial ω) : Prop :=
  ∃ e t', x t = .error e t' ∧ ¬ e.Expected ∧ ∃ m ∈ modules, w.Raises m.verify e

theorem Stops.bind {α γ : Type} {modules : List (DependentModule ω)} {x : Act (Trial ω) α}
    (h : Stops w modules x t) (f : α → Act (Trial ω) γ) : Stops w modules (x >>= f) t := by
  obtain ⟨e, t', hx, he, hm⟩ := h
  exact ⟨e, t', bind_of_error hx, he, hm⟩

/-- The fault may come after the first of two actions. -/
theorem Stops.of_bind {α γ : Type} {modules : List (DependentModule ω)} {x : Act (Trial ω) α}
    {f : α → Act (Trial ω) γ} {a : α} {t₁ : Trial ω} (hx : x t = .ok a t₁)
    (h : Stops w modules (f a) t₁) : Stops w modules (x >>= f) t := by
  obtain ⟨e, t', hf, he, hm⟩ := h
  exact ⟨e, t', (bind_of_ok hx).trans hf, he, hm⟩

theorem Stops.mono {α : Type} {modules modules' : List (DependentModule ω)} {x : Act (Trial ω) α}
    (h : Stops w modules x t) (hm : modules ⊆ modules') : Stops w modules' x t := by
  obtain ⟨e, t', hx, he, m, hmem, hr⟩ := h
  exact ⟨e, t', hx, he, m, hm hmem, hr⟩

section
variable {m : DependentModule ω} {ms : List (DependentModule ω)} {s₁ : ω} {ds : List Diagnostic}
  {e : WorkspaceError}

theorem baselines_of_build (h : m.verify t.site.world = .ok ds s₁) :
    baselines (m :: ms) t =
      (baselines ms >>= fun others => pure ((m, ⟨ds⟩) :: others)) { t with site := ⟨s₁, false⟩ } := by
  have hbuilt : (some <$> Trial.onSite (Site.holding m.verify)) t =
      .ok (some ds) { t with site := ⟨s₁, false⟩ } := by
    refine map_eq_ok.mpr ⟨ds, ?_, rfl⟩
    unfold Trial.onSite Site.holding
    rw [h]
  rw [baselines, bind_of_ok (tryCatch_of_ok hbuilt)]

theorem built_of_error {e : Fault} (h : m.verify t.site.world = .error e s₁) :
    (some <$> Trial.onSite (Site.holding m.verify)) t =
      .error e { t with site := ⟨s₁, false⟩ } := by
  change EStateM.map _ _ _ = _
  unfold EStateM.map Trial.onSite Site.holding
  rw [h]

theorem baselines_of_failure (h : m.verify t.site.world = .error (.workspace e) s₁) :
    baselines (m :: ms) t = (baselines ms >>= pure)
      { t with
        site := ⟨s₁, false⟩
        journal := t.journal ++ [.moduleUnbuildable m.name e.message] } := by
  rw [baselines]
  refine bind_of_ok (a := none) ?_
  rw [tryCatch_of_error (built_of_error h)]
  rfl

theorem baselines_of_fault {e : Fault} (h : m.verify t.site.world = .error e s₁)
    (he : ¬ e.Expected) :
    baselines (m :: ms) t = .error e { t with site := ⟨s₁, false⟩ } := by
  rw [baselines]
  refine bind_of_error ((tryCatch_of_error (built_of_error h)).trans ?_)
  cases e with
  | workspace e => exact absurd ⟨e, rfl⟩ he
  | _ => rfl

/-- The modules are built one after the other, unless one ends in an unexpected fault. -/
theorem baselines_cases (w : Workspace ω) (ms : List (DependentModule ω)) (t : Trial ω) :
    (∃ active events site, Surveyed ms t.site.world active events site.world ∧
      baselines ms t = .ok active { t with site, journal := t.journal ++ events }) ∨
    Stops w ms (baselines ms) t := by
  induction ms generalizing t with
  | nil =>
    refine .inl ⟨[], [], t.site, .nil _, ?_⟩
    rw [List.append_nil]
    rfl
  | cons m ms ih =>
    cases hv : m.verify t.site.world with
    | ok ds s₁ =>
      rw [Stops, baselines_of_build hv]
      rcases ih { t with site := ⟨s₁, false⟩ } with ⟨active, events, site, hs, hb⟩ | hstops
      · refine .inl ⟨_, events, site, .builds hv hs, ?_⟩
        rw [bind_of_ok hb]
        rfl
      · exact .inr ((hstops.mono (List.subset_cons_self m ms)).bind _)
    | error e s₁ =>
      by_cases he : e.Expected
      · obtain ⟨e, rfl⟩ := he
        rw [Stops, baselines_of_failure hv]
        rcases ih { t with
            site := ⟨s₁, false⟩
            journal := t.journal ++ [.moduleUnbuildable m.name e.message] } with
          ⟨active, events, site, hs, hb⟩ | hstops
        · refine .inl ⟨active, _, site, .fails hv hs, ?_⟩
          rw [bind_of_ok hb, List.append_assoc]
          rfl
        · exact .inr ((hstops.mono (List.subset_cons_self m ms)).bind _)
      · refine .inr ⟨e, _, baselines_of_fault hv he, he, m, List.mem_cons_self, ?_⟩
        exact .verify ⟨_, _, hv⟩

end

section
variable {number : Nat} {group : List Candidate} {table : Table}
  {active : List (DependentModule ω × Snapshot)} {groups : List (List Candidate)}
  {modules : List (DependentModule ω)}

/-- A table with further findings. -/
def Table.enter (table : Table) (found : List (Fix × Bounds)) : Table :=
  found.foldl (fun t (root, b) => t.add root b) table

theorem enter_append (table : Table) (found found' : List (Fix × Bounds)) :
    table.enter (found ++ found') = (table.enter found).enter found' := by
  rw [Table.enter, List.foldl_append]
  rfl

/-- Each root gets what was found for it, and nothing else. -/
theorem enter_eq (table : Table) (found : List (Fix × Bounds)) :
    table.enter found = table.map fun (f, b) =>
      (f, ((found.filter fun e => f.key = e.1.key).map (·.2)).foldl .add b) := by
  induction found generalizing table with
  | nil => simp [Table.enter]
  | cons e found ih =>
    have hstep : table.enter (e :: found) = (table.add e.1 e.2).enter found := rfl
    rw [hstep, ih, Table.add, List.map_map]
    refine List.map_congr_left fun (f, b) _ => ?_
    by_cases hf : f.key = e.1.key <;> simp [hf]

theorem replay_of_ran {m : DependentModule ω × Snapshot}
    (h : Ran w m.1.verify (Fix.dedupe (group.flatMap (·.linked))) t.site.world o s') :
    replay w number group table m t =
      .ok (table.enter (Replay.contribution ⟨m, number, group, o⟩))
        { t with
          site := ⟨s', false⟩
          journal := t.journal ++ [Replay.event ⟨m, number, group, o⟩] } := by
  rw [replay, bind_of_ok (batch_of_ran h (contribution m.2 group))]
  cases hlogs : o.logs.isEmpty <;> simp [Replay.event, hlogs] <;> rfl

/-- One group is built in each of the active modules, unless a fault ends this. -/
theorem replays_of_group (hactive : ∀ m ∈ active, m.1 ∈ modules) (number : Nat)
    (group : List Candidate) (table : Table) (t : Trial ω) :
    (∃ rs site, Replays w t.site.world rs site.world ∧
      rs.map Replay.slot = active.map (fun m => (m, group, number)) ∧
      active.foldlM (replay w number group) table t =
        .ok (table.enter (rs.flatMap Replay.contribution))
          { t with site, journal := t.journal ++ rs.map Replay.event }) ∨
    Stops w modules (active.foldlM (replay w number group) table) t := by
  induction active generalizing table t with
  | nil =>
    refine .inl ⟨[], t.site, .nil _, rfl, ?_⟩
    rw [List.map_nil, List.append_nil]
    rfl
  | cons m active ih =>
    rw [List.foldlM_cons]
    rcases ran_or_fault (β := List (Fix × Bounds)) w m.1.verify (group.flatMap (·.linked)) t with
      ⟨o, s', hran⟩ | ⟨e, hraises, he, hfault⟩
    · have hreplay : replay w number group table m t = .ok _ _ := replay_of_ran hran
      rcases ih (fun m hm => hactive m (List.mem_cons_of_mem _ hm))
          (table.enter (Replay.contribution ⟨m, number, group, o⟩))
          { t with
            site := ⟨s', false⟩
            journal := t.journal ++ [Replay.event ⟨m, number, group, o⟩] } with
        ⟨rs, site, hrs, hslots, hrest⟩ | hstops
      · refine .inl ⟨⟨m, number, group, o⟩ :: rs, site, .cons hran hrs, ?_, ?_⟩
        · rw [List.map_cons, hslots]
          rfl
        · rw [bind_of_ok hreplay, hrest]
          rw [List.flatMap_cons, enter_append, List.map_cons, List.append_assoc]
          rfl
      · exact .inr (hstops.of_bind hreplay)
    · obtain ⟨measured, t', hb⟩ := hfault (contribution m.2 group)
      refine .inr (Stops.bind ⟨e, t', ?_, he, m.1, hactive m List.mem_cons_self, hraises⟩ _)
      rw [replay, bind_of_ok hb]
      rfl

/-- Which group is built in which module, from number `number` on. -/
def slots (active : List (DependentModule ω × Snapshot)) (groups : List (List Candidate))
    (number : Nat) : List ((DependentModule ω × Snapshot) × List Candidate × Nat) :=
  (groups.zipIdx number).flatMap fun (group, n) => active.map fun m => (m, group, n)

/-- The groups are built one after the other, each in every active module, unless a fault ends
this. -/
theorem replays_of_groups (hactive : ∀ m ∈ active, m.1 ∈ modules) (number : Nat)
    (groups : List (List Candidate)) (table : Table) (t : Trial ω) :
    (∃ rs site, Replays w t.site.world rs site.world ∧
      rs.map Replay.slot = slots active groups number ∧
      replayGroups w active number table groups t =
        .ok (table.enter (rs.flatMap Replay.contribution))
          { t with site, journal := t.journal ++ rs.map Replay.event }) ∨
    Stops w modules (replayGroups w active number table groups) t := by
  induction groups generalizing number table t with
  | nil =>
    refine .inl ⟨[], t.site, .nil _, rfl, ?_⟩
    rw [List.map_nil, List.append_nil]
    rfl
  | cons group groups ih =>
    rw [replayGroups]
    rcases replays_of_group hactive number group table t with
      ⟨rs, site, hrs, hslots, hgroup⟩ | hstops
    · rcases ih (number + 1) (table.enter (rs.flatMap Replay.contribution))
          { t with site, journal := t.journal ++ rs.map Replay.event } with
        ⟨rs', site', hrs', hslots', hgroups⟩ | hstops
      · refine .inl ⟨rs ++ rs', site', hrs.append hrs', ?_, ?_⟩
        · rw [List.map_append, hslots, hslots', slots, slots, List.zipIdx_cons, List.flatMap_cons]
        · rw [bind_of_ok hgroup, hgroups, List.flatMap_append, enter_append, List.map_append,
            List.append_assoc]
      · exact .inr (hstops.of_bind hgroup)
    · exact .inr (hstops.bind _)

/-- The events of an estimate before any module is built. -/
def opening (modules : List (DependentModule ω)) (groups : List (List Candidate)) : List Event :=
  if modules.isEmpty then [] else [.estimateStarted modules.length groups.length]

/-- The roots of the groups, each with the sum of what the replays found for it. -/
def totals (groups : List (List Candidate)) (rs : List (Replay ω)) : Table :=
  (Keyed.distinct Fix.key (groups.flatten.map (·.root))).map fun f =>
    (f, .sum (rs.flatMap (·.shares f)))

theorem enter_start (groups : List (List Candidate)) (rs : List (Replay ω)) :
    (start groups).enter (rs.flatMap Replay.contribution) = totals groups rs := by
  rw [enter_eq, start, totals, List.map_map]
  refine List.map_congr_left fun f _ => ?_
  have hshares : (rs.flatMap (·.shares f)) =
      ((rs.flatMap Replay.contribution).filter fun e => f.key = e.1.key).map (·.2) := by
    rw [List.filter_flatMap, List.map_flatMap]
    exact List.flatMap_congr fun r _ => r.shares_eq f
  rw [hshares]
  rfl

theorem mem_modules_of_surveyed {events : List Event}
    (h : Surveyed modules s active events s') : ∀ m ∈ active, m.1 ∈ modules := by
  induction h with
  | nil => simp
  | builds _ _ ih =>
    exact List.forall_mem_cons.mpr ⟨List.mem_cons_self, fun m hm => List.mem_cons_of_mem _ (ih m hm)⟩
  | fails _ _ ih => exact fun m hm => List.mem_cons_of_mem _ (ih m hm)

/-- What an estimate did that took a state to another: it built the modules, and then each group in
those that built, and its journal says how each of these builds came out. -/
structure Account (w : Workspace ω) (modules : List (DependentModule ω))
    (groups : List (List Candidate)) (t : Trial ω) (active : List (DependentModule ω × Snapshot))
    (lost : List Event) (rs : List (Replay ω)) (t' : Trial ω) : Prop where
  builds : ∃ s, Surveyed modules t.site.world active lost s ∧ Replays w s rs t'.site.world
  slots : rs.map Replay.slot = slots active groups 0
  state : t' = { t with
    site := t'.site
    journal := t.journal ++ opening modules groups ++ lost ++ rs.map Replay.event }

/-- An estimate returns the totals of the replays that it made, unless an unexpected fault ends it. -/
theorem account_or_stops (w : Workspace ω) (modules : List (DependentModule ω))
    (groups : List (List Candidate)) (t : Trial ω) :
    (∃ active lost rs t', run w modules groups t = .ok (totals groups rs) t' ∧
      Account w modules groups t active lost rs t') ∨
    Stops w modules (run w modules groups) t := by
  rw [run]
  by_cases hnone : modules = []
  · subst hnone
    refine .inl ⟨[], [], [], t, ?_, ⟨_, .nil _, .nil _⟩, ?_, ?_⟩
    · rw [← enter_start]
      rfl
    · simp [slots]
    · simp [opening]
  · have hmodules : modules.isEmpty = false := by simpa using hnone
    have hrun : (Trial.log (.estimateStarted modules.length groups.length) : Act (Trial ω) Unit) t =
        .ok () { t with journal := t.journal ++ opening modules groups } := by
      rw [opening, hmodules]
      rfl
    rw [hmodules]
    rcases baselines_cases w modules { t with journal := t.journal ++ opening modules groups } with
      ⟨active, lost, site, hsurveyed, hbaselines⟩ | hstops
    · rcases replays_of_groups (mem_modules_of_surveyed hsurveyed) 0 groups (start groups)
          { t with site, journal := t.journal ++ opening modules groups ++ lost } with
        ⟨rs, site', hrs, hslots, hgroups⟩ | hstops
      · refine .inl ⟨active, lost, rs,
          { t with
            site := site'
            journal := t.journal ++ opening modules groups ++ lost ++ rs.map Replay.event },
          ?_, ⟨site.world, hsurveyed, hrs⟩, hslots, rfl⟩
        rw [← enter_start]
        exact (bind_of_ok hrun).trans ((bind_of_ok hbaselines).trans hgroups)
      · exact .inr ((hstops.of_bind hbaselines).of_bind hrun)
    · exact .inr ((hstops.bind _).of_bind hrun)

theorem shares_of_failed {r : Replay ω} {error : String}
    (h : r.event = .moduleFailed r.dependent.1.name r.number error) :
    (∀ f, r.shares f = []) ∨ ∃ ds e, r.outcome = .stuck ds e := by
  unfold Replay.event at h
  unfold Replay.shares
  cases ho : r.outcome with
  | measured ds => simp [ho, Outcome.logs] at h
  | stuck ds e => exact .inr ⟨ds, e, rfl⟩
  | failed e left => exact .inl fun f => rfl

theorem shares_of_measured {r : Replay ω} {size : Nat}
    (h : r.event = .moduleMeasured r.dependent.1.name r.number size) :
    ∃ ds, r.outcome = .measured ds ∧ ∀ f, r.shares f =
      (r.group.filter fun c => f.key = c.root.key).map fun c =>
        .count (news r.dependent.2 ds) c.linked := by
  unfold Replay.event at h
  unfold Replay.shares
  cases ho : r.outcome with
  | measured ds => exact ⟨ds, rfl, fun f => rfl⟩
  | stuck ds e => simp [ho, Outcome.logs] at h
  | failed e left => simp [ho, Outcome.logs] at h

/-- Whatever workspace errors come up, an estimate returns, and the bounds of each root are the sum of
what the builds of its groups reported. A replay that is recorded as measured gives each root the
bounds of its diagnostics. One that is recorded as failed gives nothing, unless only its revert
failed. -/
theorem bounds_of_replays
    (hw : ∀ m ∈ modules, ∀ e, w.Raises m.verify e → e.Expected) (groups : List (List Candidate))
    (t : Trial ω) :
    ∃ active lost rs t', run w modules groups t = .ok (totals groups rs) t' ∧
      Account w modules groups t active lost rs t' ∧
      (∀ r ∈ rs, ∀ error, r.event = .moduleFailed r.dependent.1.name r.number error →
        (∀ f, r.shares f = []) ∨ ∃ ds e, r.outcome = .stuck ds e) ∧
      ∀ r ∈ rs, ∀ size, r.event = .moduleMeasured r.dependent.1.name r.number size →
        ∃ ds, r.outcome = .measured ds ∧ ∀ f, r.shares f =
          (r.group.filter fun c => f.key = c.root.key).map fun c =>
            .count (news r.dependent.2 ds) c.linked := by
  rcases account_or_stops w modules groups t with ⟨active, lost, rs, t', hrun, haccount⟩ | hstops
  · exact ⟨active, lost, rs, t', hrun, haccount, fun r _ error => shares_of_failed,
      fun r _ size => shares_of_measured⟩
  · obtain ⟨e, -, -, he, m, hm, hraises⟩ := hstops
    exact absurd (hw m hm e hraises) he

end

/-- A workspace that does not let go of one field. -/
def gripping : Workspace (List Fix) :=
  { Workspace.inMemory (fun _ => .ok []) with
    revert := fun fixes held =>
      if Keyed.has Fix.key (Fix.ofField "A" "x").key fixes then
        .error (.workspace (.refused "in use")) held
      else .ok () (Keyed.without Fix.key held fixes) }

/-- A module that reports every field, and does not build with one of them. -/
def client : DependentModule (List Fix) :=
  { name := .text "client"
    verify := fun held =>
      if Keyed.has Fix.key (Fix.ofField "B" "z").key held then .error (.workspace .noCommand) held
      else .ok (held.map fun f => ⟨"null", f.label, .ofType "Client", [f]⟩) held }

/-- A module that does not build. -/
def broken : DependentModule (List Fix) :=
  { name := .text "broken", verify := fun held => .error (.workspace .noCommand) held }

theorem expected_gripping : ∀ m ∈ [client, broken], ∀ e, gripping.Raises m.verify e → e.Expected := by
  intro m hm e hraises
  cases hraises with
  | inject fixes h =>
    obtain ⟨s, s', hs⟩ := h
    cases hs
  | revert fixes h =>
    obtain ⟨s, s', hs⟩ := h
    change (if _ then _ else _) = _ at hs
    split at hs <;> cases hs
    exact ⟨_, rfl⟩
  | verify h =>
    obtain ⟨s, s', hs⟩ := h
    rcases List.mem_pair.mp hm with rfl | rfl
    · change (if _ then _ else _) = _ at hs
      split at hs <;> cases hs
      exact ⟨_, rfl⟩
    · cases hs
      exact ⟨_, rfl⟩

/-- Two fields together, and two others. -/
def threeGroups : List (List Candidate) :=
  [[⟨.ofField "A" "x", [.ofField "A" "x"]⟩, ⟨.ofField "A" "y", [.ofField "A" "y"]⟩],
    [⟨.ofField "B" "z", [.ofField "B" "z"]⟩], [⟨.ofField "C" "u", [.ofField "C" "u"]⟩]]

/-- The group of a replay that an event tells of, and whether it succeeded. -/
def told : Event → Option (Nat × Bool)
  | .moduleMeasured _ number _ => some (number, true)
  | .moduleFailed _ number _ => some (number, false)
  | _ => none

/-- What an estimate says in its table and in its journal. -/
def findings (table : Table) (t : Trial ω) : List (FixKey × Bounds) × List (Nat × Bool) :=
  (table.map fun (f, b) => (f.key, b), t.journal.filterMap told)

def findings? (r : EStateM.Result Fault (Trial ω) Table) :
    Option (List (FixKey × Bounds) × List (Nat × Bool)) :=
  match r with
  | .ok table t => some (findings table t)
  | .error _ _ => none

/-- The first group cannot be taken out and counts, the second cannot be built, and the third is
measured with the first one still in. -/
theorem bounds_of_replays_gripping : ∃ active lost rs t',
    run gripping [client, broken] threeGroups (Trial.start []) = .ok (totals threeGroups rs) t' ∧
    Account gripping [client, broken] threeGroups (Trial.start []) active lost rs t' ∧
    findings (totals threeGroups rs) t' =
      ([((Fix.ofField "A" "x").key, ⟨1, 1⟩), ((Fix.ofField "A" "y").key, ⟨1, 1⟩),
          ((Fix.ofField "B" "z").key, ⟨0, 0⟩), ((Fix.ofField "C" "u").key, ⟨1, 1⟩)],
        [(0, false), (1, false), (2, true)]) := by
  obtain ⟨active, lost, rs, t', hrun, haccount, -, -⟩ :=
    bounds_of_replays expected_gripping threeGroups (Trial.start [])
  refine ⟨active, lost, rs, t', hrun, haccount, Option.some.inj ?_⟩
  have hfindings : findings? (run gripping [client, broken] threeGroups (Trial.start [])) = some _ :=
    congrArg findings? hrun
  rw [← hfindings]
  decide +kernel

/-- The only field of the only group cannot be taken out of the module's build. The replay is
recorded as failed, and counts all the same. -/
theorem failed_replay_counts :
    findings? (run gripping [client] [[⟨.ofField "A" "x", [.ofField "A" "x"]⟩]] (Trial.start [])) =
      some ([((Fix.ofField "A" "x").key, ⟨1, 1⟩)], [(0, false)]) := by
  decide +kernel

end Estimate
end FixTrial
