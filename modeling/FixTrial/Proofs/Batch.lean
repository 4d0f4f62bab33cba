import FixTrial.Exploration.Trial
import FixTrial.Proofs.Act

/-! How a batch ends that ends in no fault: with a report to measure, or with none. -/
namespace FixTrial
open Act

theorem Site.final_holding {ω α : Type} (act : Act ω α) (site : Site ω) :
    final (Site.holding act site) = ⟨final (act site.world), false⟩ := by
  unfold Site.holding
  cases act site.world <;> rfl

namespace Batch
variable {ω β : Type} {w : Workspace ω} {v : Act ω (List Diagnostic)} {fixes batch : List Fix}
  {m : List Diagnostic → β × Except Fault Unit} {site site' : Site ω} {s s₁ : ω} {run : BatchRun β}
  {result : BatchResult} {log : Option String} {ds : List Diagnostic} {e : WorkspaceError}

theorem close_of_revert (hr : w.revert batch s = .ok () s₁) :
    close w batch s = (.ok none, ⟨s₁, false⟩) := by
  unfold close
  rw [hr]

theorem close_of_refusal (hr : w.revert batch s = .error (.workspace e) s₁) :
    close w batch s = (.ok (some s!"revert failed: {e.message}"), ⟨s₁, false⟩) := by
  unfold close
  rw [hr]

theorem close_of_fault {e : Fault} (hr : w.revert batch s = .error e s₁) (he : ¬ e.Expected) :
    close w batch s = (.error e, ⟨s₁, false⟩) := by
  unfold close
  rw [hr]
  cases e with
  | workspace e => exact absurd ⟨e, rfl⟩ he
  | _ => rfl

/-- A batch that was built is measured with the fixes in it. -/
theorem run_of_build {m : List Diagnostic → Site ω → β × Except Fault Unit}
    (hb : build w v (Fix.dedupe fixes) site.world = .ok ds s₁)
    (hc : close w (Fix.dedupe fixes) s₁ = (.ok log, site')) :
    Batch.run w v fixes m site =
      (⟨(m ds ⟨s₁, true⟩).2.map fun _ => ⟨log.isNone, Fix.dedupe fixes, log.toList⟩,
        some (m ds ⟨s₁, true⟩).1⟩, site') := by
  unfold Batch.run
  simp only [hb, hc]
  rfl

theorem run_of_failure {m : List Diagnostic → Site ω → β × Except Fault Unit}
    (hb : build w v (Fix.dedupe fixes) site.world = .error (.workspace e) s₁)
    (hc : close w (Fix.dedupe fixes) s₁ = (.ok log, site')) :
    Batch.run w v fixes m site =
      (⟨.ok ⟨false, Fix.dedupe fixes, s!"verification failed: {e.message}" :: log.toList⟩, none⟩,
        site') := by
  unfold Batch.run abandon
  simp only [hb, hc]
  rfl

/-- A fault of the build that is no workspace error ends the run with the batch in. -/
theorem run_of_fault {m : List Diagnostic → Site ω → β × Except Fault Unit} {e : Fault}
    (hb : build w v (Fix.dedupe fixes) site.world = .error e s₁) (he : ¬ e.Expected) :
    Batch.run w v fixes m site = (⟨.error e, none⟩, ⟨s₁, false⟩) := by
  unfold Batch.run
  simp only [hb]
  cases e with
  | workspace e => exact absurd ⟨e, rfl⟩ he
  | _ => rfl

/-- Where a batch was closed, the site is as the revert left it. -/
theorem site_of_close : (close w batch s).2 = ⟨final (w.revert batch s), false⟩ := by
  unfold close
  cases w.revert batch s with
  | ok _ s₁ => rfl
  | error e s₁ => cases e <;> rfl

/-- A batch whose build ends in no fault but a workspace error is taken out again. -/
theorem site_of_run {m : List Diagnostic → Site ω → β × Except Fault Unit}
    (hb : ∀ e, (build w v (Fix.dedupe fixes)).Raises e → e.Expected) :
    (Batch.run w v fixes m site).2 =
      ⟨final (w.revert (Fix.dedupe fixes) (final (build w v (Fix.dedupe fixes) site.world))),
        false⟩ := by
  unfold Batch.run abandon
  cases h : build w v (Fix.dedupe fixes) site.world with
  | ok ds s₁ =>
    simp only [h]
    exact site_of_close
  | error e s₁ =>
    obtain ⟨we, rfl⟩ := hb e ⟨_, _, h⟩
    simp only [h]
    exact site_of_close

section
variable {ω' : Type} {R : ω' → ω → Prop} {w' : Workspace ω'} {v' : Act ω' (List Diagnostic)} {x : ω'}

theorem close_alike (hrevert : Alike R (fun _ => True) (Both fun _ => True) (w'.revert batch)
      (w.revert batch)) (hx : R x s) :
    ∃ closed x₁ s₁, R x₁ s₁ ∧ close w' batch x = (closed, ⟨x₁, false⟩) ∧
      close w batch s = (closed, ⟨s₁, false⟩) := by
  have hends := hrevert x s hx
  unfold close
  generalize w'.revert batch x = r' at hends ⊢
  generalize w.revert batch s = r at hends ⊢
  cases hends with
  | ok _ hr => exact ⟨_, _, _, hr, rfl, rfl⟩
  | @error e _ _ _ hr => cases e <;> exact ⟨_, _, _, hr, rfl, rfl⟩

/-- A batch runs the same in two workspaces where its build and its revert come to the same ends. -/
theorem run_alike (hbuild : Alike R (fun _ => True) (Both fun _ => True)
      (build w' v' (Fix.dedupe fixes)) (build w v (Fix.dedupe fixes)))
    (hrevert : Alike R (fun _ => True) (Both fun _ => True) (w'.revert (Fix.dedupe fixes))
      (w.revert (Fix.dedupe fixes)))
    (m : List Diagnostic → β × Except Fault Unit) (locked : Bool) (hx : R x s) :
    ∃ run x₁ s₁, R x₁ s₁ ∧
      Batch.run w' v' fixes (fun ds _ => m ds) ⟨x, locked⟩ = (run, ⟨x₁, false⟩) ∧
      Batch.run w v fixes (fun ds _ => m ds) ⟨s, locked⟩ = (run, ⟨s₁, false⟩) := by
  have hends := hbuild x s hx
  unfold Batch.run abandon
  dsimp only
  generalize build w' v' (Fix.dedupe fixes) x = r' at hends ⊢
  generalize build w v (Fix.dedupe fixes) s = r at hends ⊢
  cases hends with
  | ok hds hr =>
    obtain ⟨rfl, -⟩ := hds
    obtain ⟨closed, x₁, s₁, hr, hclose', hclose⟩ := close_alike hrevert hr
    simp only [hclose', hclose]
    exact ⟨_, x₁, s₁, hr, rfl, rfl⟩
  | @error e _ _ _ hr =>
    cases e with
    | workspace e =>
      obtain ⟨closed, x₁, s₁, hr, hclose', hclose⟩ := close_alike hrevert hr
      simp only [hclose', hclose]
      exact ⟨_, x₁, s₁, hr, rfl, rfl⟩
    | _ => exact ⟨_, _, _, hr, rfl, rfl⟩

end

/-- A revert that ended in no fault but a workspace error. -/
def Closes (w : Workspace ω) (batch : List Fix) (s s' : ω) : Prop :=
  w.revert batch s = .ok () s' ∨ ∃ e, w.revert batch s = .error (.workspace e) s'

/-- From `s`, a batch was put in, built and taken out, and reports; or it could not be taken out, or
not be built, and reports nothing. -/
inductive Ended (w : Workspace ω) (v : Act ω (List Diagnostic)) (batch : List Fix) (s : ω) :
    Option (List Diagnostic) → ω → Prop
  | done {ds : List Diagnostic} {s₁ s' : ω} (hb : build w v batch s = .ok ds s₁)
      (hr : w.revert batch s₁ = .ok () s') : Ended w v batch s (some ds) s'
  | stuck {ds : List Diagnostic} {e : WorkspaceError} {s₁ s' : ω}
      (hb : build w v batch s = .ok ds s₁) (hr : w.revert batch s₁ = .error (.workspace e) s') :
      Ended w v batch s none s'
  | failed {e : WorkspaceError} {s₁ s' : ω} (hb : build w v batch s = .error (.workspace e) s₁)
      (hr : Closes w batch s₁ s') : Ended w v batch s none s'

theorem closes_of_close (h : close w batch s = (.ok log, site')) :
    (log = none ∧ w.revert batch s = .ok () site'.world) ∨
      ((∃ text, log = some text) ∧ ∃ e, w.revert batch s = .error (.workspace e) site'.world) := by
  unfold close at h
  split at h
  next hr =>
    cases h
    exact .inl ⟨rfl, hr⟩
  next e _ hr =>
    cases h
    exact .inr ⟨⟨_, rfl⟩, e, hr⟩
  next => cases h

/-- What a batch measured, if it came that far, is one measurement of one report. -/
def MeasuredAs (m : List Diagnostic → β × Except Fault Unit) (report : Option (List Diagnostic))
    (measured : Option β) : Prop :=
  match report with
  | some ds => measured = some (m ds).1
  | none => measured = none ∨ ∃ ds, measured = some (m ds).1

theorem ended_of_run (h : Batch.run w v fixes (fun ds _ => m ds) site = (run, site'))
    (ho : run.outcome = .ok result) :
    ∃ report, Ended w v (Fix.dedupe fixes) site.world report site'.world ∧
      result.ok = report.isSome ∧ MeasuredAs m report run.measured := by
  unfold Batch.run at h
  dsimp only at h
  split at h
  next e s₁ hb =>
    unfold abandon at h
    obtain ⟨closed, hclose⟩ : ∃ closed, close w (Fix.dedupe fixes) s₁ = (closed, site') := by
      cases h
      exact ⟨_, rfl⟩
    rw [hclose] at h
    cases h
    cases closed with
    | error => cases ho
    | ok log =>
      cases ho
      refine ⟨none, .failed hb ?_, rfl, .inl rfl⟩
      exact (closes_of_close hclose).imp (·.2) (·.2)
  next =>
    cases h
    cases ho
  next ds s₁ hb =>
    obtain ⟨closed, hclose⟩ : ∃ closed, close w (Fix.dedupe fixes) s₁ = (closed, site') := by
      cases h
      exact ⟨_, rfl⟩
    rw [hclose] at h
    cases h
    cases closed with
    | error => cases ho
    | ok log =>
      cases hm : (m ds).2 with
      | error e =>
        dsimp only at ho
        rw [hm] at ho
        cases ho
      | ok =>
        dsimp only at ho
        rw [hm] at ho
        cases ho
        rcases closes_of_close hclose with ⟨rfl, hr⟩ | ⟨⟨text, rfl⟩, e, hr⟩
        · exact ⟨some ds, .done hb hr, rfl, rfl⟩
        · exact ⟨none, .stuck hb hr, rfl, .inr ⟨ds, rfl⟩⟩

end Batch

section
variable {ω β : Type} {w : Workspace ω} {v : Act ω (List Diagnostic)} {fixes : List Fix}
  {t : Trial ω} {s₁ s₂ : ω} {ds : List Diagnostic} {e : WorkspaceError}

theorem batch_of_build (hb : Batch.build w v (Fix.dedupe fixes) t.site.world = .ok ds s₁)
    (hr : w.revert (Fix.dedupe fixes) s₁ = .ok () s₂)
    (m : List Diagnostic → β × Except Fault Unit) (hm : (m ds).2 = .ok ()) :
    Trial.batch w v fixes (fun ds _ => m ds) t =
      .ok ⟨.ok ⟨true, Fix.dedupe fixes, []⟩, some (m ds).1⟩ { t with site := ⟨s₂, false⟩ } := by
  unfold Trial.batch
  rw [Batch.run_of_build hb (Batch.close_of_revert hr), hm]
  rfl

theorem batch_of_failure
    (hb : Batch.build w v (Fix.dedupe fixes) t.site.world = .error (.workspace e) s₁)
    (hr : w.revert (Fix.dedupe fixes) s₁ = .ok () s₂)
    (m : List Diagnostic → β × Except Fault Unit) :
    Trial.batch w v fixes (fun ds _ => m ds) t =
      .ok ⟨.ok ⟨false, Fix.dedupe fixes, [s!"verification failed: {e.message}"]⟩, none⟩
        { t with site := ⟨s₂, false⟩ } := by
  unfold Trial.batch
  rw [Batch.run_of_failure hb (Batch.close_of_revert hr)]
  rfl

end
end FixTrial
