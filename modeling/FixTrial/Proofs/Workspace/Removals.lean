import FixTrial.Proofs.Workspace.Tracked

/-!
Trackers over a backend whose edits may fail, as workspace errors: what is on record after fixes were
put in or taken out, whichever of the edits failed.
-/
namespace FixTrial
open Act

namespace Backend
variable {ω : Type} {b : Backend ω} {t : Tracked ω} {fs : List Fix} {f : Fix} {k : FixKey}
  {attempts : List (Fix × Option WorkspaceError)}

/-- Edits end in no fault but workspace errors. -/
structure Expected (b : Backend ω) : Prop where
  apply : ∀ f e, (b.apply f).Raises e → e.Expected
  remove : ∀ f e, (b.remove f).Raises e → e.Expected

/-- Attempts to take fixes out, one after the other, each with the error that it ended in, if it
failed. -/
inductive Removals (b : Backend ω) : ω → List (Fix × Option WorkspaceError) → ω → Prop
  | nil {s : ω} : Removals b s [] s
  | done {f : Fix} {s s₁ s' : ω} {attempts : List (Fix × Option WorkspaceError)}
      (h : b.remove f s = .ok () s₁) (rest : Removals b s₁ attempts s') :
      Removals b s ((f, none) :: attempts) s'
  | kept {f : Fix} {e : WorkspaceError} {s s₁ s' : ω}
      {attempts : List (Fix × Option WorkspaceError)}
      (h : b.remove f s = .error (.workspace e) s₁) (rest : Removals b s₁ attempts s') :
      Removals b s ((f, some e) :: attempts) s'

/-- The fix with a key could not be taken out. -/
def Kept (attempts : List (Fix × Option WorkspaceError)) (k : FixKey) : Prop :=
  ∃ f e, (f, some e) ∈ attempts ∧ f.key = k

/-- What went wrong, in order. -/
def errorsOf (attempts : List (Fix × Option WorkspaceError)) : List WorkspaceError :=
  attempts.filterMap (·.2)

theorem kept_cons {o : Option WorkspaceError} :
    Kept ((f, o) :: attempts) k ↔ (o.isSome = true ∧ f.key = k) ∨ Kept attempts k := by
  unfold Kept
  constructor
  · rintro ⟨g, e, hmem, hkey⟩
    rcases List.mem_cons.mp hmem with heq | hmem
    · cases heq
      exact .inl ⟨rfl, hkey⟩
    · exact .inr ⟨g, e, hmem, hkey⟩
  · rintro (⟨hsome, hkey⟩ | ⟨g, e, hmem, hkey⟩)
    · obtain ⟨e, rfl⟩ := Option.isSome_iff_exists.mp hsome
      exact ⟨f, e, List.mem_cons_self, hkey⟩
    · exact ⟨g, e, List.mem_cons_of_mem _ hmem, hkey⟩

/-- Putting fixes in has all of them on record, or stops with some of them there. -/
theorem injectEach_cases (hb : b.Expected) (t : Tracked ω) :
    (∃ t', b.injectEach fs t = .ok () t' ∧
      ∀ k, k ∈ t'.injected.map Fix.key ↔ k ∈ t.injected.map Fix.key ∨ k ∈ fs.map Fix.key) ∨
    ∃ e t', b.injectEach fs t = .error (.workspace e) t' ∧
      ∀ k, (k ∈ t.injected.map Fix.key → k ∈ t'.injected.map Fix.key) ∧
        (k ∈ t'.injected.map Fix.key → k ∈ t.injected.map Fix.key ∨ k ∈ fs.map Fix.key) := by
  induction fs generalizing t with
  | nil => exact .inl ⟨t, rfl, by simp⟩
  | cons f rest ih =>
    unfold injectEach
    by_cases hf : t.holds f
    · have hin : f.key ∈ t.injected.map Fix.key := Tracked.holds_iff.mp hf
      simp only [hf, if_true, List.map_cons, List.mem_cons]
      rcases ih t with ⟨t', hrest, hheld⟩ | ⟨e, t', hrest, hheld⟩
      · refine .inl ⟨t', hrest, fun k => ?_⟩
        rw [hheld]
        by_cases hk : k = f.key
        · subst hk
          simp [hin]
        · simp [hk]
      · exact .inr ⟨e, t', hrest, fun k => ⟨(hheld k).1, fun hk => ((hheld k).2 hk).imp_right .inr⟩⟩
    · simp only [hf, Bool.false_eq_true, if_false]
      cases ha : b.apply f t.world with
      | ok _ world =>
        rcases ih (Tracked.add f { t with world }) with ⟨t', hrest, hheld⟩ | ⟨e, t', hrest, hheld⟩
        · refine .inl ⟨t', hrest, fun k => ?_⟩
          rw [hheld, Tracked.mem_keys_add, or_assoc, List.map_cons, List.mem_cons]
        · refine .inr ⟨e, t', hrest, fun k => ⟨fun hk => ?_, fun hk => ?_⟩⟩
          · exact (hheld k).1 (Tracked.mem_keys_add.mpr (.inl hk))
          · have hin := (hheld k).2 hk
            rw [Tracked.mem_keys_add, or_assoc] at hin
            rwa [List.map_cons, List.mem_cons]
      | error e world =>
        obtain ⟨we, rfl⟩ := hb.apply f e ⟨_, _, ha⟩
        exact .inr ⟨we, { t with world }, rfl, fun k => ⟨id, .inl⟩⟩

/-- Taking fixes out attempts each one that is on record, once and in order. Off the record goes
what could be taken out. -/
theorem revertEach_removals (hb : b.Expected) (hn : (fs.map Fix.key).Nodup) (t : Tracked ω) :
    ∃ attempts t', b.revertEach fs t = .ok (errorsOf attempts) t' ∧
      attempts.map Prod.fst = fs.filter t.holds ∧ b.Removals t.world attempts t'.world ∧
      ∀ k, k ∈ t'.injected.map Fix.key ↔
        (k ∈ t.injected.map Fix.key ∧ k ∉ fs.map Fix.key) ∨ Kept attempts k := by
  induction fs generalizing t with
  | nil => exact ⟨[], t, rfl, rfl, .nil, by simp [Kept]⟩
  | cons f rest ih =>
    rw [List.map_cons, List.nodup_cons] at hn
    unfold revertEach
    by_cases hf : t.holds f
    · have hin : f.key ∈ t.injected.map Fix.key := Tracked.holds_iff.mp hf
      simp only [hf, Bool.not_true, Bool.false_eq_true, if_false, List.filter_cons_of_pos hf]
      cases hr : b.remove f t.world with
      | ok _ world =>
        obtain ⟨attempts, t', hrest, hattempts, hremovals, hheld⟩ :=
          ih hn.2 (Tracked.drop f { t with world })
        have hfilter : rest.filter (Tracked.drop f { t with world }).holds = rest.filter t.holds := by
          refine List.filter_congr fun g hg => Bool.eq_iff_iff.mpr ?_
          rw [Tracked.holds_drop]
          exact and_iff_left fun hkey => hn.1 (hkey ▸ List.mem_map_of_mem hg)
        refine ⟨(f, none) :: attempts, t', hrest, ?_, .done hr hremovals, fun k => ?_⟩
        · rw [List.map_cons, hattempts, hfilter]
        · rw [hheld, Tracked.mem_keys_drop, kept_cons, List.map_cons, List.mem_cons, not_or, and_assoc]
          simp
      | error e world =>
        obtain ⟨we, rfl⟩ := hb.remove f e ⟨_, _, hr⟩
        obtain ⟨attempts, t', hrest, hattempts, hremovals, hheld⟩ := ih hn.2 { t with world }
        refine ⟨(f, some we) :: attempts, t', ?_, ?_, .kept hr hremovals, fun k => ?_⟩
        · simp only [hrest]
          rfl
        · rw [List.map_cons, hattempts]
          rfl
        · -- the fix stays on record, no longer as one of the rest but as one that was kept
          rw [hheld, kept_cons, List.map_cons, List.mem_cons, not_or]
          by_cases hk : k = f.key
          · subst hk
            simp [hn.1, hin]
          · simp [hk, Ne.symm hk]
    · have hout : f.key ∉ t.injected.map Fix.key := fun hmem => hf (Tracked.holds_iff.mpr hmem)
      obtain ⟨attempts, t', hrest, hattempts, hremovals, hheld⟩ := ih hn.2 t
      simp only [hf, Bool.not_false, if_true]
      refine ⟨attempts, t', hrest, ?_, hremovals, fun k => ?_⟩
      · rw [hattempts, List.filter_cons_of_neg hf]
      · rw [hheld, List.map_cons, List.mem_cons, not_or]
        by_cases hk : k = f.key
        · subst hk
          simp [hout]
        · simp [hk]

end Backend
end FixTrial
