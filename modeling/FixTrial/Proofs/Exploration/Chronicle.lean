import FixTrial.Proofs.Exploration.Estimated
import FixTrial.Proofs.Exploration.Ledger
import FixTrial.Proofs.Exploration.Trail

/-!
The journal of an exploration: how it is put together, from the builds of single groups up to the
whole, and that it agrees with what the exploration has counted.
-/
namespace FixTrial

namespace Event

def startsBatch : Event → Bool
  | .batchStarted .. => true
  | _ => false

def failsBatch : Event → Bool
  | .batchFailed .. => true
  | _ => false

/-- Whether an event belongs to the end of an exploration: that it went too deep, or the record of
what failed in it. -/
def closes : Event → Bool
  | .depthExceeded .. => true
  | .recorded name _ => name = "failures"
  | _ => false

/-- Whether nothing is counted by an event. -/
def isNeutral (e : Event) : Bool := !e.startsBatch && !e.failsBatch && !e.closes

def isEstimate : Event → Bool
  | .estimateStarted .. => true
  | .moduleUnbuildable .. => true
  | .moduleFailed .. => true
  | .moduleMeasured .. => true
  | _ => false

variable {e : Event}

theorem isNeutral_iff :
    e.isNeutral = true ↔ e.startsBatch = false ∧ e.failsBatch = false ∧ e.closes = false := by
  simp [isNeutral, and_assoc]

theorem countP_of_neutral {es : List Event} (h : ∀ e ∈ es, e.isNeutral = true) :
    es.countP startsBatch = 0 ∧ es.countP failsBatch = 0 := by
  constructor
  · exact List.countP_eq_zero.mpr fun e he => by simp [(isNeutral_iff.mp (h e he)).1]
  · exact List.countP_eq_zero.mpr fun e he => by simp [(isNeutral_iff.mp (h e he)).2.1]

theorem neutral_of_estimate (h : e.isEstimate = true) : e.isNeutral = true := by
  cases e <;> first | rfl | cases h

theorem neutral_of_verdict (h : e.isVerdict = true) : e.isNeutral = true := by
  cases e <;> first | rfl | cases h

/-- The record of the groups of a level is not that of the failures. -/
theorem neutral_groups (depth : Nat) (content : Json) :
    (Event.recorded s!"groups-{depth}" content).isNeutral = true := by
  have hname : s!"groups-{depth}" ≠ "failures" := by
    intro h
    have hhead := congrArg (fun s : String => s.toList.head?) h
    have hg : (toString "groups-").toList.head? = some 'g' := by decide
    rw [String.toList_append, List.head?_append, hg, Option.some_or] at hhead
    exact absurd hhead (by decide)
  exact isNeutral_iff.mpr ⟨rfl, rfl, decide_eq_false hname⟩

end Event

/-! The parts of a journal, by the sizes of the groups that were built. -/
namespace Chronicle

/-- One build of a group of `size` nodes, and whether it succeeded: it starts, and then it is
measured or fails. -/
inductive Build (depth number size : Nat) : Bool → List Event → Prop
  | measured (fixes : Nat) (effects : List (String × Option Int)) :
      Build depth number size true
        [.batchStarted depth number size fixes, .batchMeasured depth number effects]
  | failed (fixes : Nat) (error : String) :
      Build depth number size false
        [.batchStarted depth number size fixes, .batchFailed depth number size error]

/-- As many builds of single nodes. -/
inductive Singles (depth number : Nat) : Nat → List Event → Prop
  | nil : Singles depth number 0 []
  | cons {ok : Bool} {count : Nat} {es es' : List Event} (first : Build depth number 1 ok es)
      (rest : Singles depth number count es') : Singles depth number (count + 1) (es ++ es')

/-- A group is built once. If that fails, retries are on and there is more than one node, a retry is
announced and each node is built alone. -/
inductive Group (retry : Bool) (depth number size : Nat) : List Event → Prop
  | once {ok : Bool} {es : List Event} (settled : ok = true ∨ retry = false ∨ size ≤ 1)
      (build : Build depth number size ok es) : Group retry depth number size es
  | retried {es es' : List Event} (on : retry = true) (many : 1 < size)
      (build : Build depth number size false es) (singles : Singles depth number size es') :
      Group retry depth number size (es ++ .batchRetried depth number size :: es')

/-- Groups of these sizes in their order, numbered from `number` on. -/
inductive Groups (retry : Bool) (depth : Nat) : Nat → List Nat → List Event → Prop
  | nil (number : Nat) : Groups retry depth number [] []
  | cons {number size : Nat} {sizes : List Nat} {es es' : List Event}
      (first : Group retry depth number size es)
      (rest : Groups retry depth (number + 1) sizes es') :
      Groups retry depth number (size :: sizes) (es ++ es')

/-- A pass over a graph of `nodes` nodes: its groups are recorded, and built in that order. -/
inductive Pass (retry : Bool) (depth nodes : Nat) : List Event → Prop
  | mk {g : Graph} {es : List Event} (size : g.size = nodes)
      (groups : Groups retry depth 0 (g.groups.map List.length) es) :
      Pass retry depth nodes ([.grouped depth nodes g.groups.length,
        .recorded s!"groups-{depth}" (Exploration.groupsJson g)] ++ es)

/-- As many levels from `depth` on, each of them opened, passed and followed by its verdicts. -/
inductive Levels (retry : Bool) : Nat → Nat → List Event → Prop
  | nil (depth : Nat) : Levels retry depth 0 []
  | cons {depth nodes count : Nat} {pass verdicts rest : List Event} (some : 0 < nodes)
      (passed : Pass retry depth nodes pass) (decided : ∀ e ∈ verdicts, e.isVerdict = true)
      (below : Levels retry (depth + 1) count rest) :
      Levels retry depth (count + 1) (.level depth nodes :: (pass ++ verdicts ++ rest))

/-- An exploration says that it went too deep exactly if it returns so. -/
inductive Exceeding (depth : Depth) (result : ExplorationResult) : List Event → Prop
  | within (no : result.depthExceeded = false) : Exceeding depth result []
  | beyond (reports followups : Nat) (yes : result.depthExceeded = true) :
      Exceeding depth result [.depthExceeded depth reports followups]

/-- The records at the end of an exploration: its reports and, if there were any, its failures. -/
inductive Ending (result : ExplorationResult) : List Event → Prop
  | clean (none : result.failedGroups = 0) : Ending result
      [.recorded "reports" (Exploration.reportsJson result.reports),
        .finished result.reports.length (result.reports.countP fun r => r.tag = .apply)
          result.builds result.depthReached]
  | failed (content : Json) (some : 0 < result.failedGroups) : Ending result
      [.recorded "reports" (Exploration.reportsJson result.reports), .recorded "failures" content,
        .finished result.reports.length (result.reports.countP fun r => r.tag = .apply)
          result.builds result.depthReached]

end Chronicle

/-- The journal of an exploration that returned: it gave up on a baseline that does not build, or
had nothing to try, or passed over the levels down to the last one that it reached. -/
inductive Chronicle {ω : Type} (ctx : Context ω) (result : ExplorationResult) : List Event → Prop
  | hopeless {ending : List Event} (error : String) (reached : result.depthReached = 0)
      (within : result.depthExceeded = false) (ended : Chronicle.Ending result ending) :
      Chronicle ctx result ([.started ctx.depth ctx.mode, .baselineFailed error] ++ ending)
  | idle {ending : List Event} (diagnostics : Nat) (reached : result.depthReached = 0)
      (within : result.depthExceeded = false) (ended : Chronicle.Ending result ending) :
      Chronicle ctx result
        ([.started ctx.depth ctx.mode, .baselineBuilt diagnostics] ++ ([.level 0 0] ++ ending))
  | explored {nodes : Nat} {pass estimates first levels exceeded last ending : List Event}
      (diagnostics : Nat) (some : 0 < nodes) (passed : Chronicle.Pass ctx.retry 0 nodes pass)
      (estimated : ∀ e ∈ estimates, e.isEstimate = true)
      (decided : ∀ e ∈ first, e.isVerdict = true)
      (descended : Chronicle.Levels ctx.retry 1 result.depthReached levels)
      (exceeding : Chronicle.Exceeding ctx.depth result exceeded)
      (settled : ∀ e ∈ last, e.isVerdict = true) (ended : Chronicle.Ending result ending) :
      Chronicle ctx result ([.started ctx.depth ctx.mode, .baselineBuilt diagnostics] ++
        ((.level 0 nodes :: (pass ++ estimates ++ first ++ levels)) ++
          (exceeded ++ (last ++ ending))))

namespace Exploration
open Act
variable {ω : Type} {ctx : Context ω} {t t₁ t₂ t' : Trial ω} {es es' : List Event} {e : Event}
  {g h : Graph} {group : List Nat} {depth number : Nat} {ok : Bool} {rs rs' : Reports}

/-- What was recorded between two trials, and that it agrees with what they counted. -/
structure Wrote (t t' : Trial ω) (es : List Event) : Prop where
  journal : t'.journal = t.journal ++ es
  builds : t'.builds = t.builds + es.countP Event.startsBatch
  failedGroups : t'.failedGroups = t.failedGroups + es.countP Event.failsBatch
  failures : t'.failures.length = t.failures.length + es.countP Event.failsBatch
  quiet : ∀ e ∈ es, e.closes = false

theorem Wrote.trans (h : Wrote t t₁ es) (h' : Wrote t₁ t₂ es') : Wrote t t₂ (es ++ es') where
  journal := by rw [h'.journal, h.journal, List.append_assoc]
  builds := by rw [h'.builds, h.builds, List.countP_append, Nat.add_assoc]
  failedGroups := by rw [h'.failedGroups, h.failedGroups, List.countP_append, Nat.add_assoc]
  failures := by rw [h'.failures, h.failures, List.countP_append, Nat.add_assoc]
  quiet := fun e he => (List.mem_append.mp he).elim (h.quiet e) (h'.quiet e)

theorem wrote_of_neutral (hj : t'.journal = t.journal ++ es) (hl : t'.ledger = t.ledger)
    (hes : ∀ e ∈ es, e.isNeutral = true) : Wrote t t' es := by
  obtain ⟨-, hbuilds, hgroups, hfailures⟩ := by simpa [Trial.ledger] using hl
  obtain ⟨hstarts, hfails⟩ := Event.countP_of_neutral hes
  refine ⟨hj, ?_, ?_, ?_, fun e he => (Event.isNeutral_iff.mp (hes e he)).2.2⟩
  · rw [hstarts, hbuilds, Nat.add_zero]
  · rw [hfails, hgroups, Nat.add_zero]
  · rw [hfails, hfailures, Nat.add_zero]

theorem wrote_log (he : e.isNeutral = true) :
    Wrote t { t with journal := t.journal ++ [e] } [e] :=
  wrote_of_neutral rfl rfl (by simpa using he)

theorem wrote_of_build (hb : buildGroup ctx g group depth number t = .ok (h, ok) t') :
    ∃ es, Chronicle.Build depth number group.length ok es ∧ Wrote t t' es := by
  unfold buildGroup at hb
  rw [log_bind, modify_bind, get_bind] at hb
  dsimp only at hb
  obtain ⟨run, t₁, hrun, hb⟩ := bind_eq_ok.mp hb
  obtain ⟨site, -, rfl⟩ := batch_eq_ok hrun
  obtain ⟨_, t₂, hset, hb⟩ := bind_eq_ok.mp hb
  cases hset
  cases ho : run.outcome with
  | error e =>
    rw [ho] at hb
    cases hb
  | ok result =>
    rw [ho] at hb
    dsimp only at hb
    split at hb
    · rw [log_bind] at hb
      cases hb
      exact ⟨_, .measured _ _, List.append_assoc .., rfl, rfl, rfl, by simp [Event.closes]⟩
    · obtain ⟨k, t₃, hrecord, hb⟩ := bind_eq_ok.mp hb
      obtain ⟨_, t₄, hset, hrecord⟩ := bind_eq_ok.mp hrecord
      cases hset
      rw [log_bind] at hrecord
      cases hrecord
      cases hb
      exact ⟨_, .failed _ _, List.append_assoc .., rfl, rfl, List.length_append,
        by simp [Event.closes]⟩

theorem wrote_of_retry (hr : retryEach ctx depth number g group t = .ok h t') :
    ∃ es, Chronicle.Singles depth number group.length es ∧ Wrote t t' es := by
  unfold retryEach at hr
  induction group generalizing g t with
  | nil =>
    cases hr
    exact ⟨[], .nil, wrote_of_neutral (by simp) rfl (by simp)⟩
  | cons i rest ih =>
    rw [List.foldlM_cons] at hr
    obtain ⟨k, t₁, hfirst, hr⟩ := bind_eq_ok.mp hr
    obtain ⟨⟨k', ok⟩, t₂, hbuild, hfirst⟩ := bind_eq_ok.mp hfirst
    cases hfirst
    obtain ⟨es, hes, hwrote⟩ := wrote_of_build hbuild
    obtain ⟨es', hes', hrest⟩ := ih hr
    exact ⟨es ++ es', .cons hes hes', hwrote.trans hrest⟩

theorem wrote_of_group (hr : runGroup ctx g group depth number t = .ok h t') :
    ∃ es, Chronicle.Group ctx.retry depth number group.length es ∧ Wrote t t' es := by
  unfold runGroup at hr
  obtain ⟨⟨k, ok⟩, t₁, hbuild, hr⟩ := bind_eq_ok.mp hr
  obtain ⟨es, hes, hwrote⟩ := wrote_of_build hbuild
  dsimp only at hr
  split at hr
  next hagain =>
    rw [log_bind] at hr
    simp only [Bool.and_eq_true, Bool.not_eq_true', decide_eq_true_eq] at hagain
    obtain ⟨⟨rfl, hon⟩, hmany⟩ := hagain
    obtain ⟨es', hes', hrest⟩ := wrote_of_retry hr
    have hretried : Wrote t t' (es ++ ([.batchRetried depth number group.length] ++ es')) :=
      hwrote.trans ((wrote_log rfl).trans hrest)
    exact ⟨_, .retried hon hmany hes hes', hretried⟩
  next hagain =>
    cases hr
    simp only [Bool.and_eq_true, Bool.not_eq_true', decide_eq_true_eq, not_and_or, or_assoc,
      Bool.not_eq_false, Bool.not_eq_true, not_lt] at hagain
    exact ⟨es, .once hagain hes, hwrote⟩

theorem wrote_of_groups {groups : List (List Nat)}
    (hr : runGroups ctx depth number g groups t = .ok h t') :
    ∃ es, Chronicle.Groups ctx.retry depth number (groups.map List.length) es ∧ Wrote t t' es := by
  induction groups generalizing g number t with
  | nil =>
    cases hr
    exact ⟨[], .nil number, wrote_of_neutral (by simp) rfl (by simp)⟩
  | cons group rest ih =>
    obtain ⟨k, t₁, hfirst, hr⟩ := bind_eq_ok.mp hr
    obtain ⟨es, hes, hwrote⟩ := wrote_of_group hfirst
    obtain ⟨es', hes', hrest⟩ := ih hr
    exact ⟨es ++ es', .cons hes hes', hwrote.trans hrest⟩

theorem wrote_of_pass (hp : pass ctx g depth t = .ok h t') :
    ∃ es, Chronicle.Pass ctx.retry depth g.size es ∧ Wrote t t' es := by
  have hsize : (prepared ctx.regions g).size = g.size := by
    change (g.updateRegions ctx.regions).nodes.length = g.nodes.length
    rw [FixTrial.Graph.updateRegions_nodes, List.length_map]
  unfold pass at hp
  rw [log_bind, log_bind] at hp
  obtain ⟨es, hes, hwrote⟩ := wrote_of_groups hp
  refine ⟨_, .mk hsize hes, Wrote.trans ?_ hwrote⟩
  rw [← hsize]
  exact (wrote_log rfl).trans (wrote_log (Event.neutral_groups depth _))

theorem wrote_of_level {p : Graph × Reports} (hl : level ctx g depth rs t = .ok p t') :
    ∃ es, Chronicle.Pass ctx.retry depth g.size es ∧ Wrote t t' es := by
  obtain ⟨k, t₁, hp, hl⟩ := bind_eq_ok.mp hl
  cases hl
  exact wrote_of_pass hp

theorem estimates_of_surveyed {modules : List (DependentModule ω)} {s s' : ω}
    {active : List (DependentModule ω × Snapshot)}
    (h : Estimate.Surveyed modules s active es s') : ∀ e ∈ es, e.isEstimate = true := by
  induction h with
  | nil => simp
  | builds _ _ ih => exact ih
  | fails _ _ ih => exact List.forall_mem_cons.mpr ⟨rfl, ih⟩

theorem wrote_of_estimate (he : estimate ctx g rs t = .ok rs' t') :
    ∃ es, (∀ e ∈ es, e.isEstimate = true) ∧ Wrote t t' es := by
  obtain ⟨table, hrun, -⟩ := estimate_of_run he
  obtain ⟨active, lost, replays, -, haccount⟩ := Estimate.account_of_run hrun
  obtain ⟨⟨s, hsurveyed, -⟩, -, hstate⟩ := haccount
  have hopening : ∀ e ∈ Estimate.opening ctx.modules (candidates g), e.isEstimate = true := by
    unfold Estimate.opening
    split <;> simp [Event.isEstimate]
  have hreplays : ∀ e ∈ replays.map Estimate.Replay.event, e.isEstimate = true := by
    intro e he
    obtain ⟨r, -, rfl⟩ := List.mem_map.mp he
    unfold Estimate.Replay.event
    split <;> rfl
  have hall : ∀ e ∈ Estimate.opening ctx.modules (candidates g) ++ lost ++
      replays.map Estimate.Replay.event, e.isEstimate = true := by
    simp only [List.forall_mem_append]
    exact ⟨⟨hopening, estimates_of_surveyed hsurveyed⟩, hreplays⟩
  refine ⟨_, hall, wrote_of_neutral ?_ ?_ fun e he => Event.neutral_of_estimate (hall e he)⟩
  · rw [hstate]
    simp only [List.append_assoc]
  · rw [hstate]
    rfl

theorem verdicts_of_telling (ctx : Context ω) (final : Bool) (settled : List Fix) (rs : Reports) :
    ∀ e ∈ rs.filterMap (telling ctx final settled), e.isVerdict = true := by
  intro e he
  obtain ⟨r, -, hr⟩ := List.mem_filterMap.mp he
  obtain ⟨tag, -, rfl⟩ := Option.map_eq_some_iff.mp hr
  rfl

theorem wrote_verdicts (hes : ∀ e ∈ es, e.isVerdict = true) :
    Wrote t { t with journal := t.journal ++ es } es :=
  wrote_of_neutral rfl rfl fun e he => Event.neutral_of_verdict (hes e he)

theorem wrote_nil (t : Trial ω) : Wrote t t [] := wrote_of_neutral (by simp) rfl (by simp)

theorem wrote_of_descend {budget reached : Nat} {course : Course} {last : Reports}
    (hdepth : depth ≠ 0) (hd : descendSeen ctx depth rs budget t = .ok (course, last, reached) t') :
    ∃ count es, reached + 1 = depth + count ∧ Chronicle.Levels ctx.retry depth count es ∧
      Wrote t t' es := by
  induction budget generalizing depth rs t course with
  | zero =>
    cases hd
    exact ⟨0, [], by omega, .nil depth, wrote_nil _⟩
  | succ budget ih =>
    by_cases h0 : (nextLevel ctx t.bank.before rs).size = 0
    · unfold descendSeen at hd
      rw [get_bind] at hd
      dsimp only at hd
      rw [if_pos h0] at hd
      cases hd
      exact ⟨0, [], by omega, .nil depth, wrote_nil _⟩
    rcases descendSeen_cases hd with ⟨hnone, -⟩ | ⟨p, t₁, rest, hl, hrest, -⟩
    · exact absurd hnone h0
    obtain ⟨pass, hpass, hpassed⟩ := wrote_of_level hl
    obtain ⟨count, below, hcount, hlevels, hbelow⟩ := ih (Nat.succ_ne_zero depth) hrest
    have hverdicts := verdicts_of_telling ctx false p.2.settled p.2
    refine ⟨count + 1, _, by omega, .cons (Nat.pos_of_ne_zero h0) hpass hverdicts hlevels, ?_⟩
    exact (wrote_log rfl).trans ((hpassed.trans (wrote_verdicts hverdicts)).trans hbelow)

theorem wrote_of_conclude {reached : Nat} {exceeded : Bool} {result : ExplorationResult}
    (hc : conclude rs reached exceeded t = .ok result t')
    (ht : t.failures.length = t.failedGroups) :
    ∃ es, Chronicle.Ending result es ∧ t'.journal = t.journal ++ es := by
  unfold conclude at hc
  rw [get_bind, log_bind] at hc
  dsimp only at hc
  split at hc
  next hsome =>
    rw [log_bind, log_bind] at hc
    cases hc
    have hpos : 0 < t.failedGroups := by
      rw [← ht, List.length_pos_iff]
      simpa using hsome
    exact ⟨_, .failed _ hpos, by simp only [List.append_assoc]; rfl⟩
  next hnone =>
    rw [log_bind] at hc
    cases hc
    have hzero : t.failedGroups = 0 := by
      rw [← ht, List.length_eq_zero_iff]
      simpa using hnone
    exact ⟨_, .clean hzero, List.append_assoc ..⟩

theorem wrote_of_finish {reached : Nat} {result : ExplorationResult}
    (hf : finish ctx rs reached t = .ok result t') (ht : t.failures.length = t.failedGroups) :
    ∃ exceeded verdicts ending, Chronicle.Exceeding ctx.depth result exceeded ∧
      (∀ e ∈ verdicts, e.isVerdict = true) ∧ Chronicle.Ending result ending ∧
      t'.journal = t.journal ++ (exceeded ++ (verdicts ++ ending)) := by
  have hresult := result_of_finish hf
  have hverdicts := verdicts_of_telling ctx true rs.settled rs
  unfold finish at hf
  dsimp only at hf
  split at hf
  next hleft =>
    rw [log_bind, decideReports, bind_of_ok decideEach_eq] at hf
    obtain ⟨ending, hending, hjournal⟩ := wrote_of_conclude hf ht
    simp only [List.append_assoc] at hjournal
    have hbeyond : result.depthExceeded = true := by
      rw [hresult]
      exact hleft
    exact ⟨_, _, ending, .beyond _ _ hbeyond, hverdicts, hending, hjournal⟩
  next hleft =>
    rw [decideReports, bind_of_ok decideEach_eq] at hf
    obtain ⟨ending, hending, hjournal⟩ := wrote_of_conclude hf ht
    simp only [List.append_assoc] at hjournal
    have hwithin : result.depthExceeded = false := by
      rw [hresult]
      exact Bool.eq_false_of_not_eq_true hleft
    exact ⟨[], _, ending, .within hwithin, hverdicts, hending, hjournal⟩

theorem journal_of_buildBaseline {built : Except WorkspaceError (List Diagnostic)}
    (h : buildBaseline ctx t = .ok built t') : t'.journal = t.journal := by
  have hkeeps : Act.Keeps Trial.journal (buildBaseline ctx) := by
    refine Act.Keeps.bind (fun _ => rfl) fun _ => .tryCatch (Act.Keeps.map ?_) fun e => ?_
    · intro s
      unfold Trial.onSite
      cases ctx.workspace.baseline s.site <;> rfl
    · cases e with
      | workspace e => exact .of_pure
      | _ => exact .of_throw
  exact hkeeps.of_ok h

/-- What an exploration returns agrees with its journal: its builds are that of the baseline and the
batches that were started, and what failed and was left is told of. -/
structure Tallies (result : ExplorationResult) (es : List Event) : Prop where
  builds : result.builds = 1 + es.countP Event.startsBatch
  failedGroups : result.failedGroups = es.countP Event.failsBatch
  exceeded : (∃ depth reports followups, .depthExceeded depth reports followups ∈ es) ↔
    result.depthExceeded = true
  failures : (∃ content, .recorded "failures" content ∈ es) ↔ 0 < result.failedGroups

section
variable {result : ExplorationResult} {head middle exceeded verdicts ending : List Event}
  {asked : Depth}

theorem countP_of_ending (h : Chronicle.Ending result ending) :
    ending.countP Event.startsBatch = 0 ∧ ending.countP Event.failsBatch = 0 := by
  cases h <;> exact ⟨rfl, rfl⟩

theorem countP_of_exceeding (h : Chronicle.Exceeding asked result exceeded) :
    exceeded.countP Event.startsBatch = 0 ∧ exceeded.countP Event.failsBatch = 0 := by
  cases h <;> exact ⟨rfl, rfl⟩

theorem failures_of_ending (h : Chronicle.Ending result ending) :
    (∃ content, .recorded "failures" content ∈ ending) ↔ 0 < result.failedGroups := by
  cases h with
  | clean hnone => simp [hnone]
  | failed content hsome => simp [hsome]

theorem exceeded_not_in_ending (h : Chronicle.Ending result ending) {reports followups : Nat} :
    .depthExceeded asked reports followups ∉ ending := by
  cases h <;> simp

/-- Only the end of a journal tells of what is left; the counts are those of the middle. -/
theorem tallies_of_parts (hhead : ∀ e ∈ head, e.isNeutral = true)
    (hmiddle : Wrote t t' middle) (ht : t.builds = 1) (ht' : t.failedGroups = 0)
    (hbuilds : result.builds = t'.builds)
    (hfailed : result.failedGroups = t'.failedGroups)
    (hexceeded : Chronicle.Exceeding asked result exceeded)
    (hverdicts : ∀ e ∈ verdicts, e.isVerdict = true) (hending : Chronicle.Ending result ending) :
    Tallies result (head ++ (middle ++ (exceeded ++ (verdicts ++ ending)))) := by
  have hneutral : ∀ e ∈ verdicts, e.isNeutral = true := fun e he =>
    Event.neutral_of_verdict (hverdicts e he)
  obtain ⟨hstarts, hfails⟩ := Event.countP_of_neutral hhead
  obtain ⟨hstartsLast, hfailsLast⟩ := Event.countP_of_neutral hneutral
  obtain ⟨hstartsOver, hfailsOver⟩ := countP_of_exceeding hexceeded
  obtain ⟨hstartsEnd, hfailsEnd⟩ := countP_of_ending hending
  -- what belongs to the end is not told of before
  have hclosing : ∀ e : Event, e.closes = true →
      (e ∈ head ++ (middle ++ (exceeded ++ (verdicts ++ ending))) ↔ e ∈ exceeded ∨ e ∈ ending) := by
    intro e he
    have hnot : ∀ es : List Event, (∀ e ∈ es, e.isNeutral = true) → e ∉ es := fun es hes hmem =>
      absurd he (by simp [(Event.isNeutral_iff.mp (hes e hmem)).2.2])
    have hmid : e ∉ middle := fun hmem => absurd he (by simp [hmiddle.quiet e hmem])
    simp [hnot head hhead, hnot verdicts hneutral, hmid]
  constructor
  · rw [hbuilds, hmiddle.builds, ht]
    simp only [List.countP_append, hstarts, hstartsLast, hstartsOver, hstartsEnd, Nat.zero_add,
      Nat.add_zero]
  · rw [hfailed, hmiddle.failedGroups, ht']
    simp only [List.countP_append, hfails, hfailsLast, hfailsOver, hfailsEnd, Nat.zero_add,
      Nat.add_zero]
  · simp only [hclosing (.depthExceeded _ _ _) rfl, exceeded_not_in_ending hending, or_false]
    cases hexceeded with
    | within no => simp [no]
    | beyond reports followups yes => simp [yes]
  · have hrecord : ∀ content, .recorded "failures" content ∉ exceeded := by
      intro content
      cases hexceeded <;> simp
    simp only [hclosing (.recorded "failures" _) rfl, hrecord, false_or]
    exact failures_of_ending hending

/-- An exploration without any batch concludes at once. -/
theorem tallies_of_conclude (hhead : ∀ e ∈ head, e.isNeutral = true)
    (hc : conclude rs 0 false t = .ok result t') (ht : t.builds = 1) (ht' : t.failedGroups = 0)
    (ht'' : t.failures = []) :
    ∃ ending, Chronicle.Ending result ending ∧ t'.journal = t.journal ++ ending ∧
      Tallies result (head ++ ending) ∧ result.depthReached = 0 ∧ result.depthExceeded = false := by
  obtain ⟨ending, hending, hjournal⟩ := wrote_of_conclude hc (by rw [ht', ht'', List.length_nil])
  have hresult := result_of_conclude hc
  have hbuilds : result.builds = t.builds := by rw [hresult]
  have hfailed : result.failedGroups = t.failedGroups := by rw [hresult]
  have hwithin : result.depthExceeded = false := by rw [hresult]
  have hexceeding : Chronicle.Exceeding (.whole 0) result [] := .within hwithin
  have hnone : ∀ e ∈ ([] : List Event), e.isVerdict = true := by simp
  have htallies := tallies_of_parts hhead (wrote_nil t) ht ht' hbuilds hfailed hexceeding hnone
    hending
  exact ⟨ending, hending, hjournal, htallies, by rw [hresult], hwithin⟩

end

section
variable {baseline : Snapshot} {fixes : Option (List Fix)} {first : Reports} {course : Course}
  {result : ExplorationResult}

/-- Where there is nothing to try an exploration only says so. -/
theorem exploreFromSeen_of_size_zero
    (hstart : firstLevel ctx baseline (roots ctx baseline fixes) = (g, first)) (h0 : g.size = 0)
    (hs : exploreFromSeen ctx baseline fixes t = .ok (course, result) t') :
    conclude first 0 false { t with journal := t.journal ++ [.level 0 0] } = .ok result t' := by
  unfold exploreFromSeen at hs
  rw [hstart] at hs
  dsimp only at hs
  rw [log_bind, if_pos h0, h0] at hs
  obtain ⟨result', t₁, hc, hs⟩ := bind_eq_ok.mp hs
  cases hs
  exact hc

/-- What follows the event of a baseline that was built. -/
theorem chronicle_of_baseline (hs : exploreFromSeen ctx baseline fixes t = .ok (course, result) t')
    (ht : t.builds = 1) (ht' : t.failedGroups = 0) (ht'' : t.failures = []) (diagnostics : Nat) :
    ∃ es, t'.journal = t.journal ++ es ∧
      Chronicle ctx result ([.started ctx.depth ctx.mode, .baselineBuilt diagnostics] ++ es) ∧
      Tallies result ([.started ctx.depth ctx.mode, .baselineBuilt diagnostics] ++ es) := by
  have hhead : ∀ e ∈ [.started ctx.depth ctx.mode, .baselineBuilt diagnostics],
      Event.isNeutral e = true := by
    simp [Event.isNeutral, Event.startsBatch, Event.failsBatch, Event.closes]
  cases hstart : firstLevel ctx baseline (roots ctx baseline fixes) with
  | mk g first =>
    by_cases h0 : g.size = 0
    · have hidle : ∀ e ∈ [.started ctx.depth ctx.mode, .baselineBuilt diagnostics, .level 0 0],
          Event.isNeutral e = true := by
        simp [Event.isNeutral, Event.startsBatch, Event.failsBatch, Event.closes]
      obtain ⟨ending, hending, hwritten, htallies, hreached, hwithin⟩ :=
        tallies_of_conclude hidle (exploreFromSeen_of_size_zero hstart h0 hs) ht ht' ht''
      rw [List.append_assoc] at hwritten
      exact ⟨_, hwritten, .idle diagnostics hreached hwithin hending, htallies⟩
    rcases exploreFromSeen_cases hstart hs with
      ⟨hsize, -⟩ | ⟨p, t₁, estimated, t₂, rest, hl, hest, hbelow, -⟩
    · exact absurd hsize h0
    have hestimated : ∃ es, (∀ e ∈ es, e.isEstimate = true) ∧ Wrote t₁ t₂ es := by
      rcases hest with ⟨-, -, rfl⟩ | hest
      · exact ⟨[], by simp, wrote_nil t₂⟩
      · exact wrote_of_estimate hest
    obtain ⟨pass, hpass, hpassed⟩ := wrote_of_level hl
    obtain ⟨estimates, hestimates, hmeasured⟩ := hestimated
    obtain ⟨D, below, last, reached, t₃, -, hdescend, hfinish, -⟩ := belowSeen_cases hbelow
    have hfirst := verdicts_of_telling ctx ctx.depth.isZero estimated.settled estimated
    obtain ⟨count, levels, hcount, hlevels, hdescended⟩ :=
      wrote_of_descend Nat.one_ne_zero hdescend
    have hmiddle := (wrote_log rfl).trans
      (((hpassed.trans hmeasured).trans (wrote_verdicts hfirst)).trans hdescended)
    have hequal : t₃.failures.length = t₃.failedGroups := by
      rw [hmiddle.failures, hmiddle.failedGroups, ht', ht'', List.length_nil]
    obtain ⟨exceeded, verdicts, ending, hexceeded, hverdicts, hending, hwritten⟩ :=
      wrote_of_finish hfinish hequal
    have hresult := result_of_finish hfinish
    -- the first level is not among those that were descended to
    obtain rfl : count = result.depthReached := by
      rw [hresult]
      dsimp only
      omega
    rw [hmiddle.journal, List.append_assoc] at hwritten
    refine ⟨_, hwritten, .explored diagnostics (Nat.pos_of_ne_zero h0) hpass hestimates hfirst
      hlevels hexceeded hverdicts hending, ?_⟩
    exact tallies_of_parts hhead hmiddle ht ht' (by rw [hresult]) (by rw [hresult]) hexceeded
      hverdicts hending

/-- The first exploration that a trial is used for, if it returns, leaves its chronicle in the
journal, and returns what the journal says. -/
theorem chronicle_of_explore (he : explore ctx fixes t = .ok result t') (hbuilds : t.builds = 0)
    (hfailed : t.failedGroups = 0) (hfailures : t.failures = []) :
    ∃ es, t'.journal = t.journal ++ es ∧ Chronicle ctx result es ∧ Tallies result es := by
  obtain ⟨course, hseen⟩ := seen_of_explore he
  have hfirst : ∀ {built : Except WorkspaceError (List Diagnostic)} {t₁ : Trial ω},
      buildBaseline ctx { t with journal := t.journal ++ [.started ctx.depth ctx.mode] } =
        .ok built t₁ →
      t₁.journal = t.journal ++ [.started ctx.depth ctx.mode] ∧ t₁.builds = 1 ∧
        t₁.failedGroups = 0 ∧ t₁.failures = [] := by
    intro built t₁ hbase
    have hledger := ledger_of_buildBaseline ctx hbase
    simp only [Trial.ledger, hbuilds, hfailed, hfailures, Prod.mk.injEq] at hledger
    exact ⟨journal_of_buildBaseline hbase, hledger.2⟩
  rcases exploreSeen_cases hseen with ⟨e, t₁, hbase, hc, -⟩ | ⟨ds, t₁, hbase, hfrom⟩
  · obtain ⟨hjournal, hbuilt, hnone, hempty⟩ := hfirst hbase
    have hhead : ∀ e' ∈ [.started ctx.depth ctx.mode, .baselineFailed e.message],
        Event.isNeutral e' = true := by
      simp [Event.isNeutral, Event.startsBatch, Event.failsBatch, Event.closes]
    obtain ⟨ending, hending, hwritten, htallies, hreached, hwithin⟩ :=
      tallies_of_conclude hhead hc hbuilt hnone hempty
    dsimp only at hwritten
    rw [hjournal, List.append_assoc, List.append_assoc] at hwritten
    exact ⟨_, hwritten, .hopeless e.message hreached hwithin hending, htallies⟩
  · obtain ⟨hjournal, hbuilt, hnone, hempty⟩ := hfirst hbase
    obtain ⟨es, hwritten, hchronicle, htallies⟩ :=
      chronicle_of_baseline hfrom hbuilt hnone hempty ds.length
    dsimp only at hwritten
    rw [hjournal, List.append_assoc, List.append_assoc] at hwritten
    exact ⟨_, hwritten, hchronicle, htallies⟩

end

/-- Two fixes are built together and, since one of them breaks the build, each alone. -/
theorem chronicle_of_explore_mixed :
    ∃ (result : ExplorationResult) (t' : Trial (List Fix)) (es : List Event),
      explore mixed (some [.ofField "A" "x", .ofField "B" "z"]) (Trial.start []) = .ok result t' ∧
      t'.journal = es ∧ Chronicle mixed result es ∧ es.countP Event.startsBatch = 3 ∧
      es.countP Event.failsBatch = 2 ∧ ∃ content, .recorded "failures" content ∈ es := by
  have hcounts :
      (match explore mixed (some [.ofField "A" "x", .ofField "B" "z"]) (Trial.start []) with
      | .ok result _ => (result.builds, result.failedGroups)
      | .error _ _ => (0, 0)) = (4, 2) := by
    decide +kernel
  cases he : explore mixed (some [.ofField "A" "x", .ofField "B" "z"]) (Trial.start []) with
  | error e t' => simp [he] at hcounts
  | ok result t' =>
    rw [he] at hcounts
    obtain ⟨hbuilds, hfailed⟩ := Prod.mk.inj hcounts
    obtain ⟨es, hjournal, hchronicle, htallies⟩ := chronicle_of_explore he rfl rfl rfl
    have hstarted := htallies.builds
    refine ⟨result, t', es, rfl, hjournal, hchronicle, by omega, ?_, ?_⟩
    · rw [← htallies.failedGroups, hfailed]
    · exact htallies.failures.mpr (by omega)

end Exploration
end FixTrial
