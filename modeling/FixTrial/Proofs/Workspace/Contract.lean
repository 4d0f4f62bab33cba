import FixTrial.Proofs.Exploration.Leftovers
import FixTrial.Proofs.Workspace.Patched

/-!
The contract of a batch over a tracker: when it is measured, what it leaves on record, what it logs,
and how it ends, whichever of its edits fail and whatever the build and the measurement come to.
-/
namespace FixTrial
open Act

namespace Batch
open Backend Repository
variable {ω β : Type} {b : Backend ω} {own v : Act ω (List Diagnostic)} {batch fixes : List Fix}
  {t t₁ t' : Tracked ω} {errors : List WorkspaceError} {e : WorkspaceError}
  {m : List Diagnostic → Site (Tracked ω) → β × Except Fault Unit}

/-- How a batch runs on a record `t`, by how far it comes before it is taken out of `t₁`, where
`errors` are those of the removals. Only a batch that was put in and built is measured: with all of
it on record, under the lock. -/
inductive Course (b : Backend ω) (v : Act ω (List Diagnostic)) (batch : List Fix)
    (m : List Diagnostic → Site (Tracked ω) → β × Except Fault Unit) (t t₁ : Tracked ω)
    (errors : List WorkspaceError) : BatchRun β → Prop
  | uninjected {e : WorkspaceError} (hinject : b.inject batch t = .error (.workspace e) t₁) :
      Course b v batch m t t₁ errors
        ⟨.ok ⟨false, batch, s!"verification failed: {e.message}" :: (revertLog errors).toList⟩, none⟩
  | unverified {t₀ : Tracked ω} {e : WorkspaceError} (hinject : b.inject batch t = .ok () t₀)
      (hverify : Tracked.inside v t₀ = .error (.workspace e) t₁) :
      Course b v batch m t t₁ errors
        ⟨.ok ⟨false, batch, s!"verification failed: {e.message}" :: (revertLog errors).toList⟩, none⟩
  | measured {t₀ : Tracked ω} {ds : List Diagnostic} (hinject : b.inject batch t = .ok () t₀)
      (hverify : Tracked.inside v t₀ = .ok ds t₁) (hheld : ∀ f ∈ batch, t₁.holds f = true) :
      Course b v batch m t t₁ errors
        ⟨(m ds ⟨t₁, true⟩).2.map fun _ => ⟨errors.isEmpty, batch, (revertLog errors).toList⟩,
          some (m ds ⟨t₁, true⟩).1⟩

theorem isNone_revertLog : (revertLog errors).isNone = errors.isEmpty := by
  cases errors <;> rfl

/-- A batch cannot be put in, or cannot be built, or is built with all of it on record. Before it is
taken out nothing has gone off the record, and only of the batch something has come on it. -/
theorem build_cases (hb : b.Expected) (hv : ∀ e, v.Raises e → e.Expected)
    (hn : (batch.map Fix.key).Nodup) (t : Tracked ω) :
    ∃ t₁, (∀ k, (k ∈ t.injected.map Fix.key → k ∈ t₁.injected.map Fix.key) ∧
        (k ∈ t₁.injected.map Fix.key → k ∈ t.injected.map Fix.key ∨ k ∈ batch.map Fix.key)) ∧
      ((∃ e, b.inject batch t = .error (.workspace e) t₁) ∨
        ∃ t₀, b.inject batch t = .ok () t₀ ∧ (∀ f ∈ batch, t₁.holds f = true) ∧
          ((∃ e, Tracked.inside v t₀ = .error (.workspace e) t₁) ∨
            ∃ ds, Tracked.inside v t₀ = .ok ds t₁)) := by
  unfold Backend.inject
  rw [Fix.dedupe_of_nodup hn]
  rcases injectEach_cases hb t with ⟨t₀, hinject, hheld⟩ | ⟨e, t₁, hinject, hheld⟩
  · have hall : ∀ f ∈ batch, ∀ world : ω, Tracked.holds { t₀ with world } f = true := by
      intro f hf world
      exact Tracked.holds_iff.mpr ((hheld f.key).mpr (.inr (List.mem_map_of_mem hf)))
    unfold Tracked.inside
    cases hverify : v t₀.world with
    | ok ds world =>
      refine ⟨{ t₀ with world }, fun k => ⟨fun hk => (hheld k).mpr (.inl hk), (hheld k).mp⟩, ?_⟩
      exact .inr ⟨t₀, hinject, fun f hf => hall f hf world, .inr ⟨ds, by simp only [hverify]⟩⟩
    | error e world =>
      obtain ⟨we, rfl⟩ := hv e ⟨_, _, hverify⟩
      refine ⟨{ t₀ with world }, fun k => ⟨fun hk => (hheld k).mpr (.inl hk), (hheld k).mp⟩, ?_⟩
      exact .inr ⟨t₀, hinject, fun f hf => hall f hf world, .inl ⟨we, by simp only [hverify]⟩⟩
  · exact ⟨t₁, hheld, .inl ⟨e, hinject⟩⟩

/-- Whatever its edits, its build and its measurement come to, a batch takes one of three courses:
it is measured exactly if it was put in and built, and tells in its result of the first error, if
there was one, and of the removals that failed. Then the lock is free, and on record is what was
there before and is not of the batch, and what of the batch could not be taken out. A fault of the
measurement is passed on once all this is done. -/
theorem batch_contract (hb : b.Expected) (own : Act ω (List Diagnostic))
    (hv : ∀ e, v.Raises e → e.Expected) (fixes : List Fix) (t : Tracked ω)
    (m : List Diagnostic → Site (Tracked ω) → β × Except Fault Unit) :
    ∃ run t₁ attempts t',
      Batch.run (b.workspace own) (Tracked.inside v) fixes m ⟨t, false⟩ = (run, ⟨t', false⟩) ∧
      Course b v (Fix.dedupe fixes) m t t₁ (errorsOf attempts) run ∧
      attempts.map Prod.fst = (Fix.dedupe fixes).filter t₁.holds ∧
      b.Removals t₁.world attempts t'.world ∧
      ∀ k, k ∈ t'.injected.map Fix.key ↔
        (k ∈ t.injected.map Fix.key ∧ k ∉ fixes.map Fix.key) ∨ Kept attempts k := by
  have hn : ((Fix.dedupe fixes).map Fix.key).Nodup := Fix.nodup_keys_dedupe
  obtain ⟨t₁, hrecord, hcourse⟩ := build_cases hb hv hn t
  obtain ⟨attempts, t', hrevert, hattempts, hremovals, hheld⟩ := revertEach_removals hb hn t₁
  have hclose : close (b.workspace own) (Fix.dedupe fixes) t₁ =
      (.ok (revertLog (errorsOf attempts)), ⟨t', false⟩) := close_of_revertEach hn hrevert
  have hleft : ∀ k, k ∈ t'.injected.map Fix.key ↔
      (k ∈ t.injected.map Fix.key ∧ k ∉ fixes.map Fix.key) ∨ Kept attempts k := by
    intro k
    have hsame : k ∈ (Fix.dedupe fixes).map Fix.key ↔ k ∈ fixes.map Fix.key := Fix.dedupe_same k
    rw [hheld, ← hsame]
    refine or_congr_left (and_congr_left fun hout => ?_)
    exact ⟨fun hk => ((hrecord k).2 hk).resolve_right hout, (hrecord k).1⟩
  rcases hcourse with ⟨e, hinject⟩ | ⟨t₀, hinject, hall, ⟨e, hverify⟩ | ⟨ds, hverify⟩⟩
  · have hbuild : build (b.workspace own) (Tracked.inside v) (Fix.dedupe fixes) t =
        .error (.workspace e) t₁ := bind_of_error hinject
    exact ⟨_, t₁, attempts, t', run_of_failure hbuild hclose, .uninjected hinject, hattempts,
      hremovals, hleft⟩
  · have hbuild : build (b.workspace own) (Tracked.inside v) (Fix.dedupe fixes) t =
        .error (.workspace e) t₁ := (bind_of_ok hinject).trans hverify
    exact ⟨_, t₁, attempts, t', run_of_failure hbuild hclose, .unverified hinject hverify, hattempts,
      hremovals, hleft⟩
  · have hbuild : build (b.workspace own) (Tracked.inside v) (Fix.dedupe fixes) t = .ok ds t₁ :=
      (bind_of_ok hinject).trans hverify
    refine ⟨_, t₁, attempts, t', run_of_build hbuild hclose, ?_, hattempts, hremovals, hleft⟩
    rw [isNone_revertLog]
    exact .measured hinject hverify hall

/-- A batch whose measurement failed, with just one fix left on record. -/
def failsWith (k : FixKey) : BatchRun Unit × Site (Tracked Unit) → Bool
  | (⟨.error (.measurement _), some ()⟩, ⟨t', false⟩) => t'.injected.map Fix.key == [k]
  | _ => false

/-- One fix of the batch is in already, the other one clings, and the measurement fails. -/
theorem batch_contract_clinging : ∃ run t₁ attempts t',
    Batch.run ((Watched.clinging (Fix.ofField "B" "z").key).workspace (pure []))
        (Tracked.inside (pure [])) [.ofField "A" "x", .ofField "B" "z"]
        (fun _ _ => ((), .error (.measurement "no"))) ⟨⟨(), [.ofField "A" "x"]⟩, false⟩ =
      (run, ⟨t', false⟩) ∧
    Course (Watched.clinging (Fix.ofField "B" "z").key) (pure [])
      (Fix.dedupe [.ofField "A" "x", .ofField "B" "z"])
      (fun _ _ => ((), .error (.measurement "no"))) ⟨(), [.ofField "A" "x"]⟩ t₁ (errorsOf attempts)
      run ∧
    Kept attempts (Fix.ofField "B" "z").key ∧
    t'.injected.map Fix.key = [(Fix.ofField "B" "z").key] := by
  have hsilent : ∀ e, (pure [] : Act Unit (List Diagnostic)).Raises e → e.Expected := by
    rintro e ⟨s, s', h⟩
    exact nomatch h
  obtain ⟨run, t₁, attempts, t', hrun, hcourse, -, -, hleft⟩ :=
    batch_contract (Watched.expected_clinging (Fix.ofField "B" "z").key) (pure []) hsilent
      [.ofField "A" "x", .ofField "B" "z"] ⟨(), [.ofField "A" "x"]⟩
      fun _ _ => ((), .error (.measurement "no"))
  have hends : failsWith (Fix.ofField "B" "z").key (run, ⟨t', false⟩) = true := by
    rw [← hrun]
    decide +kernel
  have honly : t'.injected.map Fix.key = [(Fix.ofField "B" "z").key] := by
    unfold failsWith at hends
    split at hends
    next heq =>
      cases heq
      simpa using hends
    next => cases hends
  refine ⟨run, t₁, attempts, t', hrun, hcourse, ?_, honly⟩
  refine ((hleft _).mp (by rw [honly]; exact List.mem_singleton_self _)).resolve_left ?_
  exact fun h => h.2 (by simp)

end Batch
end FixTrial
