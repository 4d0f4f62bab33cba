import FixTrial.Exploration.Deep
import FixTrial.Proofs.Act

/-!
The ledger of a trial: what it measures against, and what it has counted. Only builds of the target
change it; estimates, verdicts and conclusions do not.
-/
namespace FixTrial
open Act

variable {ω : Type}

/-- What a trial measures against and has counted. -/
def Trial.ledger (t : Trial ω) : Bank × Nat × Nat × List GroupFailure :=
  (t.bank, t.builds, t.failedGroups, t.failures)

theorem keeps_log (e : Event) : Keeps Trial.ledger (Trial.log e : Act (Trial ω) Unit) :=
  fun _ => rfl

theorem keeps_onSite {α : Type} (act : Act (Site ω) α) :
    Keeps Trial.ledger (Trial.onSite act) := by
  intro t
  unfold Trial.onSite
  cases act t.site <;> rfl

theorem keeps_batch {β : Type} (w : Workspace ω) (v : Act ω (List Diagnostic)) (fixes : List Fix)
    (m : List Diagnostic → Site ω → β × Except Fault Unit) :
    Keeps Trial.ledger (Trial.batch w v fixes m) :=
  fun _ => rfl

namespace Estimate

theorem keeps_baselines (modules : List (DependentModule ω)) :
    Keeps Trial.ledger (baselines modules) := by
  induction modules with
  | nil => exact .of_pure
  | cons m rest ih =>
    refine Keeps.bind (.tryCatch (keeps_onSite _).map fun e => ?_) fun built => ih.bind fun _ => ?_
    · cases e with
      | workspace e => exact (keeps_log _).bind fun _ => .of_pure
      | _ => exact .of_throw
    · exact .of_pure

theorem keeps_replay (w : Workspace ω) (number : Nat) (group : List Candidate) (table : Table)
    (m : DependentModule ω × Snapshot) : Keeps Trial.ledger (replay w number group table m) := by
  refine Keeps.bind (keeps_batch _ _ _ _) fun run => ?_
  dsimp only
  cases run.outcome with
  | error e => exact .of_throw
  | ok result =>
    exact .ite ((keeps_log _).bind fun _ => .of_pure) ((keeps_log _).bind fun _ => .of_pure)

theorem keeps_replayGroups (w : Workspace ω) (active : List (DependentModule ω × Snapshot))
    (number : Nat) (table : Table) (groups : List (List Candidate)) :
    Keeps Trial.ledger (replayGroups w active number table groups) := by
  induction groups generalizing number table with
  | nil => exact .of_pure
  | cons group rest ih =>
    exact (Keeps.foldlM (fun table m => keeps_replay w number group table m) table).bind
      fun table => ih (number + 1) table

theorem keeps_run (w : Workspace ω) (modules : List (DependentModule ω))
    (groups : List (List Candidate)) : Keeps Trial.ledger (run w modules groups) := by
  refine .ite .of_pure ((keeps_log _).bind fun _ => (keeps_baselines modules).bind fun active => ?_)
  exact keeps_replayGroups w active 0 _ groups

end Estimate

namespace Exploration
variable (ctx : Context ω)

theorem keeps_estimate (g : Graph) (rs : Reports) : Keeps Trial.ledger (estimate ctx g rs) :=
  Keeps.bind (Estimate.keeps_run _ _ _) fun _ => .of_pure

theorem keeps_decideEach (final : Bool) (settled : List Fix) (rs : Reports) :
    Keeps Trial.ledger (decideEach ctx final settled rs) := by
  induction rs with
  | nil => exact .of_pure
  | cons r rest ih =>
    unfold decideEach
    cases verdict? ctx final settled r with
    | none => exact ih.bind fun _ => .of_pure
    | some tag => exact (keeps_log _).bind fun _ => ih.bind fun _ => .of_pure

theorem keeps_decideReports (final : Bool) (rs : Reports) :
    Keeps Trial.ledger (decideReports ctx final rs) :=
  keeps_decideEach ctx final rs.settled rs

theorem keeps_conclude (rs : Reports) (reached : Nat) (exceeded : Bool) :
    Keeps Trial.ledger (conclude rs reached exceeded : Act (Trial ω) ExplorationResult) := by
  refine .get_bind fun t => (keeps_log _).bind fun _ => .ite ?_ ?_
  · exact (keeps_log _).bind fun _ => (keeps_log _).bind fun _ => .of_pure
  · exact (keeps_log _).bind fun _ => .of_pure

theorem keeps_finish (rs : Reports) (reached : Nat) :
    Keeps Trial.ledger (finish ctx rs reached) := by
  have hrest : ∀ exceeded, Keeps Trial.ledger
      (decideReports ctx true rs >>= fun rs => conclude rs reached exceeded) :=
    fun exceeded => (keeps_decideReports ctx true rs).bind fun rs => keeps_conclude rs reached exceeded
  exact .ite ((keeps_log _).bind fun _ => hrest _) (hrest _)

/-- The baseline is one build. -/
theorem ledger_of_buildBaseline {t t' : Trial ω} {built : Except WorkspaceError (List Diagnostic)}
    (h : buildBaseline ctx t = .ok built t') :
    t'.ledger = (t.bank, t.builds + 1, t.failedGroups, t.failures) := by
  obtain ⟨_, t₁, hset, h⟩ := bind_eq_ok.mp h
  cases hset
  refine (Keeps.tryCatch (keeps_onSite _).map fun e => ?_).of_ok h
  cases e with
  | workspace e => exact .of_pure
  | _ => exact .of_throw

end Exploration
end FixTrial
