import FixTrial.Proofs.Exploration.Levels
import Mathlib.Data.List.Forall2

/-!
What a step of an exploration does to the reports: it leaves decided ones alone, decides others by
the policy in force, and changes nothing in a failed one but to forget its follow-ups.
-/
namespace FixTrial

namespace Report

/-- Nothing was measured or estimated. -/
def Blank (r : Report) : Prop :=
  r.localEffect = 0 ∧ r.lowerBound = 0 ∧ r.upperBound = 0 ∧ r.depth = 0

/-- The record of a verdict. -/
def verdict (r : Report) : Event := .tagged r.root.label r.localEffect r.tag

end Report

namespace Exploration
open Act FixTrial.Graph
variable {ω : Type} {ctx : Context ω} {rs rs' rs'' : Reports} {settled : List Fix} {r : Report}
  {final : Bool} {g : Graph} {depth : Nat} {tag : Status} {t : Trial ω}

/-- Every report is of the root that it was of, and a decided one is as it was. -/
def Keeps (rs rs' : Reports) : Prop :=
  List.Forall₂ (fun r r' => r'.root = r.root ∧ (r.isFinished = true → r' = r)) rs rs'

theorem keeps_refl (rs : Reports) : Keeps rs rs :=
  List.forall₂_same.mpr fun _ _ => ⟨rfl, fun _ => rfl⟩

theorem keeps_map (f : Report → Report)
    (hf : ∀ r ∈ rs, (f r).root = r.root ∧ (r.isFinished = true → f r = r)) : Keeps rs (rs.map f) :=
  List.forall₂_map_right_iff.mpr (List.forall₂_same.mpr hf)

theorem roots_of_keeps (h : Keeps rs rs') : rs'.map Report.root = rs.map Report.root := by
  induction h with
  | nil => rfl
  | cons hr _ ih => rw [List.map_cons, List.map_cons, hr.1, ih]

theorem getElem?_of_keeps {i : Nat} (h : Keeps rs rs') (hr : rs[i]? = some r)
    (hf : r.isFinished = true) : rs'[i]? = some r := by
  induction h generalizing i with
  | nil => simp at hr
  | cons hhead _ ih =>
    cases i with
    | zero =>
      rw [List.getElem?_cons_zero] at hr ⊢
      obtain rfl := Option.some.inj hr
      rw [hhead.2 hf]
    | succ i =>
      rw [List.getElem?_cons_succ] at hr ⊢
      exact ih hr

/-- The verdicts on the decided reports. -/
def spoken (rs : Reports) : List Event := (rs.filter Report.isFinished).map Report.verdict

/-- Reports of different roots, decided by the policy if at all; one that failed has nothing to show
and nothing to follow up. -/
structure Honest (ctx : Context ω) (rs : Reports) : Prop where
  roots_nodup : (rs.map fun r => r.root.key).Nodup
  decided : ∀ r ∈ rs, r.isFinished = true → r.tag = Policy.decide ctx.mode ctx.destructive r
  failed : ∀ r ∈ rs, r.failed = true → r.Blank ∧ r.triggered = []

theorem roots_of_map {f : Report → Report} (hf : ∀ r, (f r).root = r.root) :
    ((rs.map f).map fun r => r.root.key) = rs.map fun r => r.root.key := by
  rw [List.map_map]
  exact List.map_congr_left fun r _ => congrArg Fix.key (hf r)

theorem decide_ne_pending : Policy.decide ctx.mode ctx.destructive r ≠ .pending := by
  have heffect : ∀ n, Policy.ofEffect n ≠ .pending := by
    intro n
    unfold Policy.ofEffect
    split <;> simp
  unfold Policy.decide
  split
  · simp
  · split
    · exact heffect _
    · split
      · exact heffect _
      · split <;> simp
    · exact heffect _
    · exact heffect _

theorem verdict?_eq_some (h : verdict? ctx final settled r = some tag) :
    r.isFinished = false ∧ tag = Policy.decide ctx.mode ctx.destructive r := by
  unfold verdict? at h
  split at h
  · simp at h
  next hf =>
    dsimp only at h
    split at h
    · exact ⟨Bool.not_eq_true _ ▸ hf, (Option.some.inj h).symm⟩
    · simp at h

theorem verdict?_of_finished (h : r.isFinished = true) : verdict? ctx final settled r = none := by
  rw [verdict?, if_pos h]

theorem verdict?_final (h : r.isFinished = false) :
    verdict? ctx true settled r = some (Policy.decide ctx.mode ctx.destructive r) := by
  simp [verdict?, h]

/-- A report after a verdict, if there is one on it now. -/
def settle (ctx : Context ω) (final : Bool) (settled : List Fix) (r : Report) : Report :=
  match verdict? ctx final settled r with
  | none => r
  | some tag => { r with tag }

/-- The verdict on a report, if there is one now. -/
def telling (ctx : Context ω) (final : Bool) (settled : List Fix) (r : Report) : Option Event :=
  (verdict? ctx final settled r).map fun tag => .tagged r.root.label r.localEffect tag

/-- Deciding settles each report and tells of it. -/
theorem decideEach_eq : decideEach ctx final settled rs t =
    .ok (rs.map (settle ctx final settled))
      { t with journal := t.journal ++ rs.filterMap (telling ctx final settled) } := by
  induction rs generalizing t with
  | nil => simp only [List.map_nil, List.filterMap_nil, List.append_nil]; rfl
  | cons r rest ih =>
    unfold decideEach
    cases hv : verdict? ctx final settled r with
    | none =>
      have hsettle : settle ctx final settled r = r := by rw [settle, hv]
      have htell : telling ctx final settled r = none := by rw [telling, hv, Option.map_none]
      rw [List.map_cons, List.filterMap_cons, hsettle, htell]
      exact bind_of_ok ih
    | some tag =>
      have hsettle : settle ctx final settled r = { r with tag } := by rw [settle, hv]
      have htell : telling ctx final settled r = some (.tagged r.root.label r.localEffect tag) := by
        rw [telling, hv, Option.map_some]
      have hlog : Trial.log (.tagged r.root.label r.localEffect tag) t = .ok ()
          { t with journal := t.journal ++ [.tagged r.root.label r.localEffect tag] } := rfl
      rw [List.map_cons, List.filterMap_cons, hsettle, htell]
      dsimp only
      rw [bind_of_ok hlog, bind_of_ok ih, List.append_assoc]
      rfl

theorem root_settle : (settle ctx final settled r).root = r.root := by
  unfold settle
  split <;> rfl

theorem settle_of_finished (h : r.isFinished = true) : settle ctx final settled r = r := by
  rw [settle, verdict?_of_finished h]

theorem keeps_settle : Keeps rs (rs.map (settle ctx final settled)) :=
  keeps_map _ fun _ _ => ⟨root_settle, settle_of_finished⟩

theorem finished_settle : (settle ctx true settled r).isFinished = true := by
  cases h : r.isFinished with
  | true => rw [settle_of_finished h, h]
  | false =>
    rw [settle, verdict?_final h]
    simp [Report.isFinished, decide_ne_pending]

theorem honest_settle (h : Honest ctx rs) : Honest ctx (rs.map (settle ctx final settled)) := by
  refine ⟨?_, ?_, ?_⟩
  · rw [roots_of_map fun _ => root_settle]
    exact h.roots_nodup
  · intro r' hr' hf
    obtain ⟨r, hr, rfl⟩ := List.mem_map.mp hr'
    unfold settle at hf ⊢
    split at hf
    next => exact h.decided r hr hf
    next tag hv => exact (verdict?_eq_some hv).2
  · intro r' hr' hfailed
    obtain ⟨r, hr, rfl⟩ := List.mem_map.mp hr'
    unfold settle at hfailed ⊢
    split at hfailed
    · exact h.failed r hr hfailed
    · exact h.failed r hr hfailed

/-- Each report that is decided now is told of once. -/
theorem spoken_settle : (spoken rs ++ rs.filterMap (telling ctx final settled)).Perm
    (spoken (rs.map (settle ctx final settled))) := by
  unfold spoken
  induction rs with
  | nil => simp
  | cons r rest ih =>
    cases hf : r.isFinished with
    | true =>
      have htell : telling ctx final settled r = none := by
        rw [telling, verdict?_of_finished hf, Option.map_none]
      simpa [settle_of_finished hf, hf, htell] using ih
    | false =>
      cases hv : verdict? ctx final settled r with
      | none =>
        have hsettle : settle ctx final settled r = r := by rw [settle, hv]
        simpa [hsettle, hf, telling, hv] using ih
      | some tag =>
        have hsettle : settle ctx final settled r = { r with tag } := by rw [settle, hv]
        have htag : tag ≠ .pending := (verdict?_eq_some hv).2 ▸ decide_ne_pending
        have hf' : Report.isFinished { r with tag } = true := by simp [Report.isFinished, htag]
        have htell : telling ctx final settled r = some (Report.verdict { r with tag }) := by
          rw [telling, hv]
          rfl
        simpa [hsettle, hf, hf', htell] using List.perm_middle.trans (ih.cons _)

theorem root_absorb {n : Node} : (Reports.absorb depth n r).root = r.root := by
  unfold Reports.absorb
  split <;> rfl

theorem tag_absorb {n : Node} : (Reports.absorb depth n r).tag = r.tag := by
  unfold Reports.absorb
  split <;> rfl

/-- A report with what a pass over a graph says about it. -/
def refresh (g : Graph) (depth : Nat) (r : Report) : Report :=
  match g.find? r.root with
  | some n => Reports.absorb depth n r
  | none => r

theorem fold_eq : Reports.fold rs g depth = rs.map (refresh g depth) := rfl

theorem refresh_of_find? {n : Node} (hn : g.find? r.root = some n) :
    refresh g depth r = Reports.absorb depth n r := by
  rw [refresh, hn]

theorem root_refresh : (refresh g depth r).root = r.root := by
  unfold refresh
  split
  · exact root_absorb
  · rfl

theorem isFinished_refresh : (refresh g depth r).isFinished = r.isFinished := by
  unfold refresh Report.isFinished
  split
  · rw [tag_absorb]
  · rfl

/-- The graph tries no report that is decided or has failed. -/
def Avoids (g : Graph) (rs : Reports) : Prop :=
  ∀ r ∈ rs, r.isFinished = true ∨ r.failed = true → g.find? r.root = none

theorem refresh_of_avoids (hg : Avoids g rs) (hr : r ∈ rs)
    (h : r.isFinished = true ∨ r.failed = true) : refresh g depth r = r := by
  rw [refresh, hg r hr h]

theorem keeps_fold (hg : Avoids g rs) : Keeps rs (Reports.fold rs g depth) :=
  keeps_map _ fun _ hr => ⟨root_refresh, fun hf => refresh_of_avoids hg hr (.inl hf)⟩

theorem finished_fold (hg : ∀ r ∈ rs, r.isFinished = true → g.find? r.root = none) :
    (Reports.fold rs g depth).filter Report.isFinished = rs.filter Report.isFinished := by
  have hfilter : (rs.map (refresh g depth)).filter Report.isFinished =
      (rs.filter Report.isFinished).map (refresh g depth) := by
    rw [List.filter_map]
    congr 2
    funext r
    exact isFinished_refresh
  rw [fold_eq, hfilter]
  refine (List.map_congr_left fun r hr => ?_).trans (List.map_id _)
  obtain ⟨hmem, hf⟩ := List.mem_filter.mp hr
  rw [refresh, hg r hmem hf]
  rfl

/-- A pass that tries no decided report settles nothing. -/
theorem settled_fold (hg : ∀ r ∈ rs, r.isFinished = true → g.find? r.root = none) :
    (Reports.fold rs g depth).settled = rs.settled := by
  rw [Reports.settled, finished_fold hg]
  rfl

theorem spoken_fold (hg : Avoids g rs) : spoken (Reports.fold rs g depth) = spoken rs := by
  rw [spoken, finished_fold fun r hr hf => hg r hr (.inl hf)]
  rfl

/-- A report fails with its node, and only at the first level. -/
theorem failed_refresh (h : (refresh g depth r).failed = true) :
    r.failed = true ∨ depth = 0 ∧ (refresh g depth r) = { r with failed := true, triggered := [] } ∧
      ∃ n, g.find? r.root = some n ∧ n.failed = true := by
  unfold refresh at h ⊢
  cases hn : g.find? r.root with
  | none =>
    rw [hn] at h
    exact .inl h
  | some n =>
    simp only [hn, Reports.absorb] at h ⊢
    cases hf : n.failed with
    | false =>
      simp only [hf] at h
      exact .inl h
    | true =>
      simp only [hf, if_true, Bool.or_eq_true, decide_eq_true_eq] at h ⊢
      rcases h with h | h
      · exact .inl h
      · exact .inr ⟨h, by simp [h], n, rfl, hf⟩

theorem honest_fold (h : Honest ctx rs) (hg : Avoids g rs)
    (hblank : depth = 0 → ∀ r ∈ rs, r.Blank) : Honest ctx (Reports.fold rs g depth) := by
  refine ⟨?_, ?_, ?_⟩
  · rw [fold_eq, roots_of_map fun _ => root_refresh]
    exact h.roots_nodup
  · intro r' hr' hf
    obtain ⟨r, hr, rfl⟩ := List.mem_map.mp hr'
    change (refresh g depth r).isFinished = true at hf
    change (refresh g depth r).tag = Policy.decide ctx.mode ctx.destructive (refresh g depth r)
    rw [isFinished_refresh] at hf
    rw [refresh_of_avoids hg hr (.inl hf)]
    exact h.decided r hr hf
  · intro r' hr' hf
    obtain ⟨r, hr, rfl⟩ := List.mem_map.mp hr'
    rcases failed_refresh hf with hold | ⟨hdepth, hnew, -⟩
    · change (refresh g depth r).Blank ∧ (refresh g depth r).triggered = []
      rw [refresh_of_avoids hg hr (.inr hold)]
      exact h.failed r hr hold
    · change (refresh g depth r).Blank ∧ (refresh g depth r).triggered = []
      rw [hnew]
      exact ⟨hblank hdepth r hr, rfl⟩

/-- A report with its bounds, where the table has some. -/
def bounded (table : Estimate.Table) (r : Report) : Report :=
  match table.find? fun e => e.1.key = r.root.key with
  | some (_, b) => { r with lowerBound := b.lower, upperBound := b.upper }
  | none => r

theorem root_bounded {table : Estimate.Table} : (bounded table r).root = r.root := by
  unfold bounded
  split <;> rfl

theorem isFinished_bounded {table : Estimate.Table} :
    (bounded table r).isFinished = r.isFinished := by
  unfold bounded
  split <;> rfl

theorem failed_bounded {table : Estimate.Table} : (bounded table r).failed = r.failed := by
  unfold bounded
  split <;> rfl

theorem bounded_of_not_mem {table : Estimate.Table} (h : r.root.key ∉ table.map fun e => e.1.key) :
    bounded table r = r := by
  have hnone : table.find? (fun e => e.1.key = r.root.key) = none := by
    rw [List.find?_eq_none]
    intro e he hk
    exact h (List.mem_map.mpr ⟨e, he, by simpa using hk⟩)
  rw [bounded, hnone]

/-- An estimate of undecided reports changes nothing in those that failed, if these have no entry. -/
theorem honest_bounded {table : Estimate.Table} (h : Honest ctx rs)
    (hpending : ∀ r ∈ rs, r.isFinished = false)
    (hfailed : ∀ r ∈ rs, r.failed = true → r.root.key ∉ table.map fun e => e.1.key) :
    Honest ctx (rs.map (bounded table)) := by
  refine ⟨?_, ?_, ?_⟩
  · rw [roots_of_map fun _ => root_bounded]
    exact h.roots_nodup
  · intro r' hr' hf
    obtain ⟨r, hr, rfl⟩ := List.mem_map.mp hr'
    rw [isFinished_bounded, hpending r hr] at hf
    simp at hf
  · intro r' hr' hf
    obtain ⟨r, hr, rfl⟩ := List.mem_map.mp hr'
    rw [failed_bounded] at hf
    rw [bounded_of_not_mem (hfailed r hr hf)]
    exact h.failed r hr hf

end Exploration
end FixTrial
