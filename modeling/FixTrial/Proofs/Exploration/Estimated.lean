import FixTrial.Proofs.Exploration.Replays
import FixTrial.Proofs.Exploration.Verdicts

/-!
The bounds in the reports of an exploration. They are counts, the lower one never above the upper
one, so that the policies that use them ask for more and more.
-/
namespace FixTrial

namespace Bounds
variable {a b : Bounds} {bs : List Bounds} {news : List (Diagnostic × Int)} {fixes : List Fix}

/-- Bounds on a number of diagnostics. -/
structure Ordered (b : Bounds) : Prop where
  nonneg : 0 ≤ b.lower
  le : b.lower ≤ b.upper

theorem ordered_zero : zero.Ordered := ⟨Int.le_refl 0, Int.le_refl 0⟩

theorem Ordered.add (ha : a.Ordered) (hb : b.Ordered) : (a.add b).Ordered :=
  ⟨Int.add_nonneg ha.nonneg hb.nonneg, Int.add_le_add ha.le hb.le⟩

theorem ordered_ofDiagnostic {d : Diagnostic} {n : Int} (hn : 0 ≤ n) :
    (ofDiagnostic fixes d n).Ordered := by
  unfold ofDiagnostic
  split
  · split
    · exact ⟨hn, Int.le_refl n⟩
    · exact ⟨Int.le_refl 0, hn⟩
  · exact ordered_zero

theorem ordered_foldl (ha : a.Ordered) (hbs : ∀ b ∈ bs, b.Ordered) : (bs.foldl add a).Ordered := by
  induction bs generalizing a with
  | nil => exact ha
  | cons b bs ih =>
    obtain ⟨hb, hbs⟩ := List.forall_mem_cons.mp hbs
    exact ih (ha.add hb) hbs

theorem ordered_sum (h : ∀ b ∈ bs, b.Ordered) : (sum bs).Ordered := ordered_foldl ordered_zero h

/-- Counts of diagnostics are bounded in order, whichever fixes they are attributed to. -/
theorem ordered_count (h : ∀ e ∈ news, 0 ≤ e.2) : (count news fixes).Ordered := by
  have hsum : count news fixes = sum (news.map fun e => ofDiagnostic fixes e.1 e.2) := by
    rw [count, sum, List.foldl_map]
  rw [hsum]
  refine ordered_sum fun b hb => ?_
  obtain ⟨e, he, rfl⟩ := List.mem_map.mp hb
  exact ordered_ofDiagnostic (h e he)

end Bounds

namespace Estimate
variable {ω : Type} {w : Workspace ω} {modules : List (DependentModule ω)}
  {groups : List (List Candidate)} {table : Table} {t t' : Trial ω}

theorem news_nonneg (baseline : Snapshot) (ds : List Diagnostic) :
    ∀ e ∈ news baseline ds, 0 ≤ e.2 := by
  intro e he
  obtain ⟨⟨d, n⟩, -, rfl⟩ := List.mem_map.mp he
  exact Int.natCast_nonneg n

theorem ordered_shares (r : Replay ω) (f : Fix) : ∀ b ∈ r.shares f, b.Ordered := by
  intro b hb
  unfold Replay.shares at hb
  split at hb
  · obtain ⟨c, -, rfl⟩ := List.mem_map.mp hb
    exact Bounds.ordered_count (news_nonneg _ _)
  · exact absurd hb List.not_mem_nil

theorem ordered_totals (groups : List (List Candidate)) (rs : List (Replay ω)) :
    ∀ e ∈ totals groups rs, e.2.Ordered := by
  intro e he
  obtain ⟨f, -, rfl⟩ := List.mem_map.mp he
  refine Bounds.ordered_sum fun b hb => ?_
  obtain ⟨r, -, hb⟩ := List.mem_flatMap.mp hb
  exact ordered_shares r f b hb

/-- An estimate that returned has an account of its builds. -/
theorem account_of_run (h : run w modules groups t = .ok table t') :
    ∃ active lost rs, table = totals groups rs ∧ Account w modules groups t active lost rs t' := by
  rcases account_or_stops w modules groups t with
    ⟨active, lost, rs, t₁, hrun, haccount⟩ | ⟨e, t₁, hrun, -⟩
  · cases hrun.symm.trans h
    exact ⟨active, lost, rs, rfl, haccount⟩
  · cases hrun.symm.trans h

theorem ordered_of_run (h : run w modules groups t = .ok table t') : ∀ e ∈ table, e.2.Ordered := by
  obtain ⟨active, lost, rs, rfl, -⟩ := account_of_run h
  exact ordered_totals groups rs

end Estimate

/-- The bounds in a report. -/
def Report.bounds (r : Report) : Bounds := ⟨r.lowerBound, r.upperBound⟩

/-- A policy that counts more of the effect on other modules takes no fix that one that counts less
refuses. -/
theorem Policy.apply_of_apply {r : Report} (h : r.bounds.Ordered) (destructive : List Fix → Bool) :
    (decide .upperBound destructive r = .apply → decide .lowerBound destructive r = .apply) ∧
      (decide .lowerBound destructive r = .apply → decide .targetOnly destructive r = .apply) := by
  have hlower : 0 ≤ r.lowerBound := h.nonneg
  have hupper : r.lowerBound ≤ r.upperBound := h.le
  have heffect : ∀ n : Int, ofEffect n = .apply ↔ n < 1 := by
    intro n
    unfold ofEffect
    split <;> simp_all
  unfold decide
  cases r.failed with
  | true => simp
  | false =>
    simp only [Bool.false_eq_true, if_false, heffect]
    omega

namespace Exploration
open Act
variable {ω : Type} {ctx : Context ω} {P : Report → Prop} {rs rs' last : Reports} {g : Graph}
  {depth budget reached : Nat} {t t' : Trial ω} {course : Course} {result : ExplorationResult}
  {fixes : Option (List Fix)} {r : Report} {final : Bool} {settled : List Fix}

/-- A property of every report that a course shows. -/
def Throughout (P : Report → Prop) (course : Course) : Prop :=
  ∀ rs, .reports rs ∈ course → ∀ r ∈ rs, P r

theorem throughout_nil : Throughout P [] := fun _ h => absurd h List.not_mem_nil

theorem throughout_reports (hrs : ∀ r ∈ rs, P r) (h : Throughout P course) :
    Throughout P (.reports rs :: course) := by
  intro rs' hmem
  rcases List.mem_cons.mp hmem with heq | hmem
  · obtain rfl := Moment.reports.inj heq
    exact hrs
  · exact h rs' hmem

theorem throughout_level (h : Throughout P course) : Throughout P (.level g :: course) := by
  intro rs hmem
  rcases List.mem_cons.mp hmem with heq | hmem
  · cases heq
  · exact h rs hmem

theorem throughout_append {rest : Course} (h : Throughout P course) (h' : Throughout P rest) :
    Throughout P (course ++ rest) :=
  fun rs hmem => (List.mem_append.mp hmem).elim (h rs) (h' rs)

/-- A property of reports that neither a verdict nor a pass over follow-ups takes away. -/
structure Lasting (ctx : Context ω) (P : Report → Prop) : Prop where
  settle : ∀ final settled r, P r → P (settle ctx final settled r)
  refresh : ∀ g depth r, depth ≠ 0 → P r → P (refresh g depth r)

theorem Lasting.decided (h : Lasting ctx P) (hrs : ∀ r ∈ rs, P r) (final : Bool)
    (settled : List Fix) : ∀ r ∈ rs.map (Exploration.settle ctx final settled), P r :=
  List.forall_mem_map.mpr fun r hr => h.settle final settled r (hrs r hr)

theorem refreshed_of_level {p : Graph × Reports} (hl : level ctx g depth rs t = .ok p t') :
    p.2 = rs.map (refresh p.1 depth) := by
  obtain ⟨g', t₁, -, hr⟩ := bind_eq_ok.mp hl
  cases hr
  rfl

theorem Lasting.descend (h : Lasting ctx P) (hdepth : depth ≠ 0) (hrs : ∀ r ∈ rs, P r)
    (hd : descendSeen ctx depth rs budget t = .ok (course, last, reached) t') :
    Throughout P course ∧ ∀ r ∈ last, P r := by
  induction budget generalizing depth rs t course with
  | zero =>
    cases hd
    exact ⟨throughout_nil, hrs⟩
  | succ budget ih =>
    rcases descendSeen_cases hd with ⟨-, rfl, rfl, -, -⟩ | ⟨p, t₁, rest, hl, hrest, rfl⟩
    · exact ⟨throughout_nil, hrs⟩
    have hfolded : ∀ r ∈ p.2, P r := by
      rw [refreshed_of_level hl]
      exact List.forall_mem_map.mpr fun r hr => h.refresh p.1 depth r hdepth (hrs r hr)
    have hsettled := h.decided hfolded false p.2.settled
    obtain ⟨hthroughout, hlast⟩ := ih (Nat.succ_ne_zero depth) hsettled hrest
    exact ⟨throughout_level (throughout_reports hfolded (throughout_reports hsettled hthroughout)),
      hlast⟩

/-- From the first verdicts on, to the end. -/
theorem Lasting.below (h : Lasting ctx P) (hrs : ∀ r ∈ rs, P r)
    (hb : belowSeen ctx rs t = .ok (course, result) t') :
    Throughout P course ∧ ∀ r ∈ result.reports, P r := by
  obtain ⟨D, rest, last, n, t₁, -, hd, hfin, rfl⟩ := belowSeen_cases hb
  have hsettled := h.decided hrs ctx.depth.isZero rs.settled
  obtain ⟨hthroughout, hlast⟩ := h.descend Nat.one_ne_zero hsettled hd
  have hreports : ∀ r ∈ result.reports, P r := by
    rw [(finish_returned hfin).1]
    exact h.decided hlast true last.settled
  exact ⟨throughout_reports hsettled (throughout_append hthroughout
    (throughout_reports hreports throughout_nil)), hreports⟩

theorem estimate_of_run (h : estimate ctx g rs t = .ok rs' t') :
    ∃ table, Estimate.run ctx.workspace ctx.modules (candidates g) t = .ok table t' ∧
      rs' = rs.map (bounded table) := by
  obtain ⟨table, t₁, hrun, hret⟩ := bind_eq_ok.mp h
  cases hret
  exact ⟨table, hrun, rfl⟩

theorem bounds_settle : (settle ctx final settled r).bounds = r.bounds := by
  unfold settle
  split <;> rfl

theorem bounds_refresh : (refresh g depth r).bounds = r.bounds := by
  unfold refresh Reports.absorb
  split
  · split <;> rfl
  · rfl

/-- Bounds stay what they are once they are estimated. -/
theorem lasting_bounds (Q : Bounds → Prop) : Lasting ctx fun r => Q r.bounds :=
  ⟨fun _ _ _ h => bounds_settle.symm ▸ h, fun _ _ _ _ h => bounds_refresh.symm ▸ h⟩

theorem bounds_bounded {table : Estimate.Table} (hr : r.bounds.Ordered)
    (htable : ∀ e ∈ table, e.2.Ordered) : (bounded table r).bounds.Ordered := by
  unfold bounded
  split
  next hfound => exact htable _ (List.mem_of_find?_eq_some hfound)
  next => exact hr

theorem throughout_explore (he : exploreSeen ctx fixes t = .ok (course, result) t') :
    Throughout (fun r => r.bounds.Ordered) course ∧ ∀ r ∈ result.reports, r.bounds.Ordered := by
  have hlasting : Lasting ctx fun r => r.bounds.Ordered := lasting_bounds _
  rcases exploreSeen_cases he with ⟨e, t₁, -, hc, rfl⟩ | ⟨ds, t₁, -, he⟩
  · have hreports : ∀ r ∈ result.reports, r.bounds.Ordered := by
      rw [(conclude_returned hc).1]
      exact List.forall_mem_map.mpr fun _ _ => Bounds.ordered_zero
    exact ⟨throughout_reports hreports throughout_nil, hreports⟩
  obtain ⟨g, first, hstart⟩ : ∃ g first,
      firstLevel ctx ⟨ds⟩ (roots ctx ⟨ds⟩ fixes) = (g, first) := ⟨_, _, rfl⟩
  have hfirst : ∀ r ∈ first, r.bounds.Ordered := by
    intro r hr
    have hmem : r ∈ (firstLevel ctx ⟨ds⟩ (roots ctx ⟨ds⟩ fixes)).2 := by rwa [hstart]
    have hblank : r.Blank := (first_report hmem).2.2
    have hzero : r.bounds = .zero := by rw [Report.bounds, hblank.2.1, hblank.2.2.1, Bounds.zero]
    exact hzero ▸ Bounds.ordered_zero
  rcases exploreFromSeen_cases hstart he with
    ⟨-, rfl, hc, rfl⟩ | ⟨p, t₁, estimated, t₂, rest, hl, hest, hb, rfl⟩
  · rw [(conclude_returned hc).1]
    exact ⟨throughout_reports hfirst throughout_nil, hfirst⟩
  have hfolded : ∀ r ∈ p.2, r.bounds.Ordered := by
    rw [refreshed_of_level hl]
    exact List.forall_mem_map.mpr fun r hr => bounds_refresh.symm ▸ hfirst r hr
  have hestimated : ∀ r ∈ estimated, r.bounds.Ordered := by
    rcases hest with ⟨-, rfl, -⟩ | hest
    · exact hfolded
    · obtain ⟨table, hrun, rfl⟩ := estimate_of_run hest
      exact List.forall_mem_map.mpr fun r hr =>
        bounds_bounded (hfolded r hr) (Estimate.ordered_of_run hrun)
  obtain ⟨hrest, hreports⟩ := hlasting.below hestimated hb
  exact ⟨throughout_reports hfirst (throughout_level (throughout_reports hfolded
    (throughout_reports hestimated hrest))), hreports⟩

/-- Whatever fails in an exploration, the bounds of each of its reports are in order at any time, so
that what is applied by the upper bound is applied by the lower one, and what is applied by that is
applied by the effect on the target alone. -/
theorem bounds_in_order (he : explore ctx fixes t = .ok result t') :
    ∃ course, exploreSeen ctx fixes t = .ok (course, result) t' ∧
      (∃ before, course = before ++ [.reports result.reports]) ∧
      ∀ rs, .reports rs ∈ course → ∀ r ∈ rs,
        0 ≤ r.lowerBound ∧ r.lowerBound ≤ r.upperBound ∧ ∀ destructive : List Fix → Bool,
          (Policy.decide .upperBound destructive r = .apply →
            Policy.decide .lowerBound destructive r = .apply) ∧
          (Policy.decide .lowerBound destructive r = .apply →
            Policy.decide .targetOnly destructive r = .apply) := by
  obtain ⟨course, hseen⟩ := seen_of_explore he
  have hends : ∃ before, course = before ++ [.reports result.reports] := by
    rcases explore_completes hseen with hcompletes | ⟨-, rfl, -⟩
    · exact hcompletes.ends
    · exact ⟨[], rfl⟩
  refine ⟨course, hseen, hends, fun rs hrs r hr => ?_⟩
  have hordered := (throughout_explore hseen).1 rs hrs r hr
  exact ⟨hordered.nonneg, hordered.le, Policy.apply_of_apply hordered⟩

/-- A field that another module reports for want of a check, and one that it does not use. -/
def relied : Context (List Fix) :=
  { workspace := .inMemory fun _ => .ok [], regions := fun l => some [l.region], mode := .lowerBound
    depth := .whole 0, retry := true, declared := fun _ => true, link := fun _ f => [f]
    destructive := fun _ => false
    modules := [
      { name := .text "client"
        verify := fun held => .ok (if Keyed.has Fix.key (Fix.ofField "A" "x").key held then
          [⟨"null", "", .ofType "Client", [.ofField "A" "x"]⟩] else []) held }] }

/-- The bounds of a report, and what the upper one says of it. -/
def weighed (r : Report) : Int × Int × Status :=
  (r.lowerBound, r.upperBound, Policy.decide .upperBound (fun _ => false) r)

/-- The field that is not used is applied by every policy. -/
theorem bounds_in_order_relied : ∃ result t' course,
    explore relied (some [.ofField "A" "x", .ofField "B" "z"]) (Trial.start []) = .ok result t' ∧
    exploreSeen relied (some [.ofField "A" "x", .ofField "B" "z"]) (Trial.start []) =
      .ok (course, result) t' ∧
    result.reports.map weighed = [(1, 1, .discard), (0, 0, .apply)] ∧
    (∀ r ∈ result.reports, r.upperBound = 0 →
      Policy.decide .lowerBound (fun _ => false) r = .apply ∧
      Policy.decide .targetOnly (fun _ => false) r = .apply) ∧
    ∀ rs, .reports rs ∈ course → ∀ r ∈ rs, 0 ≤ r.lowerBound ∧ r.lowerBound ≤ r.upperBound := by
  have hweighed : (match explore relied (some [.ofField "A" "x", .ofField "B" "z"]) (Trial.start [])
      with
      | .ok result _ => result.reports.map weighed
      | .error _ _ => []) = [(1, 1, .discard), (0, 0, .apply)] := by
    decide +kernel
  cases he : explore relied (some [.ofField "A" "x", .ofField "B" "z"]) (Trial.start []) with
  | error e t' => simp [he] at hweighed
  | ok result t' =>
    rw [he] at hweighed
    obtain ⟨course, hseen, ⟨before, hends⟩, hordered⟩ := bounds_in_order he
    refine ⟨result, t', course, rfl, hseen, hweighed, fun r hr hzero => ?_, fun rs hrs r hr => ?_⟩
    · obtain ⟨-, -, hpolicies⟩ := hordered result.reports (by simp [hends]) r hr
      have hmem : weighed r ∈ [((1 : Int), (1 : Int), Status.discard), (0, 0, .apply)] :=
        hweighed ▸ List.mem_map_of_mem hr
      have hupper : Policy.decide .upperBound (fun _ => false) r = .apply := by
        rcases List.mem_pair.mp hmem with h | h
        · exact absurd ((congrArg (fun w => w.2.1) h).symm.trans hzero) Int.one_ne_zero
        · exact congrArg (fun w => w.2.2) h
      have hlower := (hpolicies fun _ => false).1 hupper
      exact ⟨hlower, (hpolicies fun _ => false).2 hlower⟩
    · exact ⟨(hordered rs hrs r hr).1, (hordered rs hrs r hr).2.1⟩

end Exploration
end FixTrial
