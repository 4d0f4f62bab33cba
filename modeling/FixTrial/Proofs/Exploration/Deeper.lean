import FixTrial.Proofs.Exploration.Growth

/-!
Explorations that may go deeper: one that ended with nothing left to follow up ends in the same way,
however deep it may go, and one that left something has gone as deep as it could.
-/
namespace FixTrial
open Act

/-- The same exploration, asked to go to another depth. -/
def Context.deepen {ω : Type} (ctx : Context ω) (d : Depth) : Context ω := { ctx with depth := d }

namespace Depth
variable {d : Depth} {D : Nat}

theorem isPositive_iff (hD : d.levels? = some D) : d.isPositive = true ↔ 1 ≤ D := by
  cases d with
  | whole n =>
    obtain rfl := Option.some.inj hD
    simp only [isPositive, decide_eq_true_eq]
    omega
  | flag b =>
    obtain rfl := Option.some.inj hD
    cases b <;> decide
  | fraction x => cases hD

theorem isZero_of_positive (hD : d.levels? = some D) (hpos : 1 ≤ D) : d.isZero = false := by
  cases d with
  | whole n =>
    obtain rfl := Option.some.inj hD
    rw [isZero, decide_eq_false_iff_not]
    omega
  | flag b =>
    obtain rfl := Option.some.inj hD
    cases b with
    | false => cases hpos
    | true => rfl
  | fraction x => cases hD

end Depth

namespace Exploration
open FixTrial.Graph
variable {ω : Type} {ctx : Context ω} {d : Depth} {D D' budget depth reached : Nat}
  {t t' : Trial ω} {rs last : Reports} {r : Report} {baseline : Snapshot} {course : Course}
  {result : ExplorationResult} {fixes : Option (List Fix)}

/-- Nothing is left when no report continues. -/
theorem leaves_iff : leaves ctx rs = true ↔
    ctx.depth.isPositive = true ∧ ∃ r ∈ rs, Continues rs.settled r := by
  rw [leaves, Bool.and_eq_true, and_comm, Bool.not_eq_true', ← Bool.not_eq_true,
    List.isEmpty_iff, List.filter_eq_nil_iff]
  simp [Continues]

theorem runGroups_deepen (number : Nat) (g : Graph) (groups : List (List Nat)) :
    runGroups (ctx.deepen d) depth number g groups = runGroups ctx depth number g groups := by
  have hgroup : runGroup (ctx.deepen d) = runGroup ctx := rfl
  induction groups generalizing number g with
  | nil => rfl
  | cons group rest ih =>
    unfold runGroups
    rw [hgroup]
    exact congrArg (runGroup ctx g group depth number >>= ·) (funext fun h => ih (number + 1) h)

/-- No level knows how deep the exploration may go. -/
theorem level_deepen (g : Graph) (depth : Nat) (rs : Reports) :
    level (ctx.deepen d) g depth rs = level ctx g depth rs := by
  have hregions : (ctx.deepen d).regions = ctx.regions := rfl
  unfold level pass
  simp only [runGroups_deepen, hregions]

theorem decideReports_deepen (final : Bool) (rs : Reports) :
    decideReports (ctx.deepen d) final rs = decideReports ctx final rs := by
  funext t
  rw [decideReports, decideReports, decideEach_eq, decideEach_eq]
  rfl

theorem descend_deepen (depth : Nat) (rs : Reports) (budget : Nat) :
    descend (ctx.deepen d) depth rs budget = descend ctx depth rs budget := by
  have hnext : nextLevel (ctx.deepen d) = nextLevel ctx := rfl
  induction budget generalizing depth rs with
  | zero => rfl
  | succ budget ih =>
    unfold descend
    simp only [hnext, level_deepen, decideReports_deepen, ih]

/-- Where nothing continues, there is nothing to go deeper for. -/
theorem descend_more (hd : descend ctx depth rs budget t = .ok (last, reached) t')
    (hlast : ∀ r ∈ last, ¬ Continues last.settled r) (more : Nat) :
    descend ctx depth rs (budget + more) t = .ok (last, reached) t' := by
  induction budget generalizing depth rs t with
  | zero =>
    cases hd
    rw [Nat.zero_add]
    cases more with
    | zero => rfl
    | succ more =>
      -- the level that would come next has no node
      unfold descend
      rw [get_bind]
      dsimp only
      rw [if_pos (size_nextLevel_eq_zero.mpr hlast)]
      rfl
  | succ budget ih =>
    rw [Nat.succ_add_eq_add_succ, Nat.add_succ]
    unfold descend at hd ⊢
    rw [get_bind] at hd ⊢
    dsimp only at hd ⊢
    split at hd
    next h0 =>
      rw [if_pos h0]
      exact hd
    next h0 =>
      rw [if_neg h0]
      rw [log_bind] at hd ⊢
      obtain ⟨p, t₁, hl, hd⟩ := bind_eq_ok.mp hd
      obtain ⟨decided, t₂, hdec, hd⟩ := bind_eq_ok.mp hd
      rw [bind_of_ok hl, bind_of_ok hdec]
      exact ih hd

/-- A descent uses up its levels, or ends where nothing continues. -/
theorem descend_ends (hdepth : depth ≠ 0)
    (hd : descendSeen ctx depth rs budget t = .ok (course, last, reached) t') :
    (∃ before, .reports rs :: course = before ++ [.reports last]) ∧
      (reached + 1 = depth + budget ∨ ∀ r ∈ last, ¬ Continues last.settled r) := by
  induction budget generalizing depth rs t course with
  | zero =>
    cases hd
    exact ⟨⟨[], rfl⟩, .inl (by omega)⟩
  | succ budget ih =>
    rcases descendSeen_cases hd with ⟨h0, rfl, rfl, -⟩ | ⟨p, t₁, rest, -, hrest, rfl⟩
    · exact ⟨⟨[], rfl⟩, .inr (size_nextLevel_eq_zero.mp h0)⟩
    · obtain ⟨⟨before, hbefore⟩, hends⟩ := ih (Nat.succ_ne_zero depth) hrest
      refine ⟨⟨.reports rs :: .level (nextLevel ctx t.bank.before rs) :: .reports p.2 :: before,
        ?_⟩, ?_⟩
      · rw [hbefore]
        rfl
      · rwa [Nat.succ_add_eq_add_succ] at hends

theorem finish_deepen (hrs : ∀ r ∈ rs, ¬ Continues rs.settled r) (reached : Nat) :
    finish (ctx.deepen d) rs reached = finish ctx rs reached := by
  have hleft : rs.filter (fun r => !r.isFinished && !(Reports.unfollowed rs.settled r).isEmpty) =
      [] := by
    rw [List.filter_eq_nil_iff]
    intro r hr hc
    exact hrs r hr (by simpa [Continues] using hc)
  unfold finish
  simp only [hleft, decideReports_deepen, List.isEmpty_nil, Bool.not_true, Bool.false_and,
    Bool.false_eq_true, if_false]

theorem follow_deepen (hD : ctx.depth.levels? = some D) (hpos : 1 ≤ D)
    (hD' : d.levels? = some D') (hle : D ≤ D') (hf : follow ctx rs t = .ok result t')
    (hall : result.depthExceeded = false) : follow (ctx.deepen d) rs t = .ok result t' := by
  unfold follow at hf
  rw [hD] at hf
  obtain ⟨⟨last, reached⟩, t₁, hd, hfin⟩ := bind_eq_ok.mp hf
  have hleaves : leaves ctx last = false := by
    rw [result_of_finish hfin] at hall
    exact hall
  have hstops : ∀ r ∈ last, ¬ Continues last.settled r := by
    intro r hr hc
    have hleft := leaves_iff.mpr ⟨(Depth.isPositive_iff hD).mpr hpos, r, hr, hc⟩
    rw [hleaves] at hleft
    cases hleft
  obtain ⟨more, rfl⟩ := Nat.exists_eq_add_of_le hle
  have hmore : descend (ctx.deepen d) 1 rs (D + more) t = .ok (last, reached) t₁ := by
    rw [descend_deepen]
    exact descend_more hd hstops more
  rw [follow_of_descend hD' hmore, finish_deepen hstops]
  exact hfin

theorem exploreFrom_deepen (hD : ctx.depth.levels? = some D) (hpos : 1 ≤ D)
    (hD' : d.levels? = some D') (hle : D ≤ D')
    (he : exploreFrom ctx baseline fixes t = .ok result t')
    (hall : result.depthExceeded = false) :
    exploreFrom (ctx.deepen d) baseline fixes t = .ok result t' := by
  have hfirst : firstLevel (ctx.deepen d) baseline (roots (ctx.deepen d) baseline fixes) =
      firstLevel ctx baseline (roots ctx baseline fixes) := rfl
  have hbelow : ∀ {rs : Reports} {t₁ : Trial ω},
      (decideReports ctx ctx.depth.isZero rs >>= follow ctx) t₁ = .ok result t' →
      (decideReports (ctx.deepen d) d.isZero rs >>= follow (ctx.deepen d)) t₁ = .ok result t' := by
    intro rs t₁ h
    rw [Depth.isZero_of_positive hD hpos] at h
    rw [Depth.isZero_of_positive hD' (hpos.trans hle), decideReports_deepen]
    obtain ⟨decided, t₂, hdec, hf⟩ := bind_eq_ok.mp h
    rw [bind_of_ok hdec]
    exact follow_deepen hD hpos hD' hle hf hall
  unfold exploreFrom at he ⊢
  rw [hfirst]
  generalize firstLevel ctx baseline (roots ctx baseline fixes) = start at he ⊢
  obtain ⟨g, first⟩ := start
  dsimp only at he ⊢
  rw [log_bind] at he ⊢
  split at he
  next h0 =>
    rw [if_pos h0]
    exact he
  next h0 =>
    rw [if_neg h0, level_deepen]
    obtain ⟨p, t₁, hl, he⟩ := bind_eq_ok.mp he
    rw [bind_of_ok hl]
    split at he
    next hm =>
      rw [if_pos (show (ctx.deepen d).modules.isEmpty = true from hm)]
      exact hbelow he
    next hm =>
      rw [if_neg (show ¬ (ctx.deepen d).modules.isEmpty = true from hm)]
      obtain ⟨estimated, t₂, hest, he⟩ := bind_eq_ok.mp he
      have hest' : estimate (ctx.deepen d) p.1 p.2 t₁ = .ok estimated t₂ := hest
      rw [bind_of_ok hest']
      exact hbelow he

/-- A trial that another one is, but for what it recorded. -/
def Retold (t₁ t : Trial ω) : Prop := ∃ journal, t₁ = { t with journal }

theorem buildsAlike_retold (v : Act ω (List Diagnostic)) :
    BuildsAlike Retold (fun _ => True) (fun _ => True) ctx.workspace ctx.workspace v v := by
  constructor
  · rintro β fs m - - _ t ⟨journal, rfl⟩
    exact .ok ⟨rfl, fun _ _ => trivial⟩ ⟨journal, rfl⟩
  · rintro _ t ⟨journal, rfl⟩
    unfold Trial.onSite
    dsimp only
    cases Site.holding v t.site with
    | ok ds site => exact .ok ⟨rfl, trivial⟩ ⟨journal, rfl⟩
    | error e site => exact .error (.inl trivial) ⟨journal, rfl⟩

/-- Nothing that was recorded so far changes how an exploration goes on. -/
theorem twins_retold (ctx : Context ω) :
    Twins Retold (fun _ => True) (fun _ => True) ctx.workspace ctx.workspace ctx.modules
      ctx.modules := by
  constructor
  · rintro _ t ⟨journal, rfl⟩
    exact ⟨rfl, rfl, rfl, rfl⟩
  · rintro _ t ⟨journal, rfl⟩ _ _ _ _
    exact ⟨journal, rfl⟩
  · rintro _ t e - ⟨journal, rfl⟩
    exact ⟨journal ++ [e], rfl⟩
  · exact buildsAlike_retold _
  · exact List.forall₂_same.mpr fun m _ => ⟨rfl, buildsAlike_retold m.verify⟩

theorem ok_of_retold {α : Type} {Q : α → Prop} {x : Act (Trial ω) α} {a : α} {t₁ : Trial ω}
    (hx : Alike Retold (fun _ => True) (Both Q) x x) (ht : Retold t₁ t) (h : x t = .ok a t') :
    ∃ t₁', x t₁ = .ok a t₁' ∧ Retold t₁' t' := by
  have hends := hx t₁ t ht
  rw [h] at hends
  generalize x t₁ = r₁ at hends ⊢
  cases hends with
  | ok hv hr =>
    obtain ⟨rfl, -⟩ := hv
    exact ⟨_, rfl, hr⟩

theorem retold_exploreFrom : Alike Retold (fun _ => True) (Both fun _ => True)
    (exploreFrom ctx baseline fixes) (exploreFrom ctx baseline fixes) := by
  refine (twins_retold ctx).exploreFrom (fun e => ?_) (fun _ => trivial) baseline fixes
  rintro ⟨journal, rfl⟩
  exact ⟨journal ++ [e], rfl⟩

/-- An exploration that left nothing to follow up is the same when it may go deeper. -/
theorem explore_deepen (hD : ctx.depth.levels? = some D) (hpos : 1 ≤ D)
    (hD' : d.levels? = some D') (hle : D ≤ D') (he : explore ctx fixes t = .ok result t')
    (hall : result.depthExceeded = false) :
    ∃ journal, explore (ctx.deepen d) fixes t = .ok result { t' with journal } := by
  unfold explore at he ⊢
  rw [log_bind] at he ⊢
  obtain ⟨built, t₁, hb, he⟩ := bind_eq_ok.mp he
  -- the runs record different depths as they start; neither exceeds its own and names it again
  have hstart : Retold { t with
      journal := t.journal ++ [.started (ctx.deepen d).depth (ctx.deepen d).mode] }
      { t with journal := t.journal ++ [.started ctx.depth ctx.mode] } := ⟨_, rfl⟩
  obtain ⟨t₂, hb', ht₂⟩ := ok_of_retold (twins_retold ctx).buildBaseline hstart hb
  have hbuilt : buildBaseline (ctx.deepen d) _ = .ok built t₂ := hb'
  rw [bind_of_ok hbuilt]
  obtain ⟨journal, rfl⟩ := ht₂
  cases built with
  | error e =>
    have hconclude := ((twins_retold ctx).of_log (.baselineFailed e.message) rfl).bind fun _ _ _ =>
      (twins_retold ctx).conclude ((Fix.dedupe (fixes.getD [])).map hopeless) 0 false
    obtain ⟨_, hc, journal', rfl⟩ := ok_of_retold hconclude ⟨journal, rfl⟩ he
    exact ⟨journal', hc⟩
  | ok ds =>
    dsimp only at he ⊢
    rw [modify_bind, log_bind] at he ⊢
    obtain ⟨_, hfrom, journal', rfl⟩ := ok_of_retold retold_exploreFrom ⟨_, rfl⟩ he
    exact ⟨journal', exploreFrom_deepen hD hpos hD' hle hfrom hall⟩

/-- A course that used up its levels, and left something to follow up before the last verdicts. -/
structure CutShort (ctx : Context ω) (D : Nat) (course : Course) (result : ExplorationResult) :
    Prop where
  positive : 1 ≤ D
  reached : result.depthReached = D
  left : ∃ before last, course = before ++ [.reports last, .reports result.reports] ∧
    result.reports = last.map (settle ctx true last.settled) ∧ ∃ r ∈ last, Continues last.settled r

theorem CutShort.prepend (h : CutShort ctx D course result) (past : Course) :
    CutShort ctx D (past ++ course) result := by
  obtain ⟨before, last, rfl, hleft⟩ := h.left
  exact ⟨h.positive, h.reached, past ++ before, last, (List.append_assoc ..).symm, hleft⟩

theorem below_cutShort (hD : ctx.depth.levels? = some D)
    (hb : belowSeen ctx rs t = .ok (course, result) t') (hx : result.depthExceeded = true) :
    CutShort ctx D course result := by
  obtain ⟨D', rest, last, reached, t₁, hD', hd, hfin, rfl⟩ := belowSeen_cases hb
  obtain rfl : D = D' := Option.some.inj (hD.symm.trans hD')
  obtain ⟨⟨before, hbefore⟩, hends⟩ := descend_ends Nat.one_ne_zero hd
  obtain rfl := result_of_finish hfin
  obtain ⟨hpositive, r, hr, hc⟩ := leaves_iff.mp hx
  refine ⟨(Depth.isPositive_iff hD).mp hpositive, ?_, before, last, ?_, rfl, r, hr, hc⟩
  · rcases hends with hused | hstops
    · dsimp only
      omega
    · exact absurd hc (hstops r hr)
  · rw [← List.cons_append, hbefore, List.append_assoc]
    rfl

theorem exploreFrom_cutShort (hD : ctx.depth.levels? = some D)
    (he : exploreFromSeen ctx baseline fixes t = .ok (course, result) t')
    (hx : result.depthExceeded = true) : CutShort ctx D course result := by
  rcases exploreFromSeen_cases rfl he with
    ⟨-, -, hc, -⟩ | ⟨p, t₁, estimated, t₂, rest, -, -, hb, rfl⟩
  · rw [result_of_conclude hc] at hx
    cases hx
  · exact (below_cutShort hD hb hx).prepend [.reports _, .level _, .reports _, .reports _]

theorem explore_cutShort (hD : ctx.depth.levels? = some D)
    (he : exploreSeen ctx fixes t = .ok (course, result) t')
    (hx : result.depthExceeded = true) : CutShort ctx D course result := by
  rcases exploreSeen_cases he with ⟨e, t₁, -, hc, -⟩ | ⟨ds, t₁, -, he⟩
  · rw [result_of_conclude hc] at hx
    cases hx
  · exact exploreFrom_cutShort hD he hx

/-- What a report that continues has to follow up is neither in its tree nor settled. -/
theorem follows_of_continues (hc : Continues rs.settled r) :
    ∃ f ∈ r.triggered, f.key ∉ Fix.keys r.tree ∧
      ∀ s ∈ rs, s.isFinished = true → f.key ∉ Fix.keys s.tree := by
  obtain ⟨f, hf⟩ := exists_unfollowed hc
  have htriggered : f ∈ r.triggered := (List.mem_filter.mp (List.mem_filter.mp hf).1).1
  obtain ⟨-, htree, hsettled⟩ := mem_keys_unfollowed.mp (List.mem_map_of_mem hf)
  refine ⟨f, htriggered, by rwa [Fix.mem_keys], fun s hs hfinished hmem => ?_⟩
  exact hsettled (mem_keys_settled.mpr ⟨s, hs, hfinished, Fix.mem_keys.mp hmem⟩)

/-- An exploration with levels to go down that left nothing to follow up ends as it does when it may
go deeper, with the same reports and counts. One that left something has used up its levels: before
the last verdicts a report has brought up a fix that is in no tree, neither its own nor that of a
decided report. -/
theorem explore_deeper (hD : ctx.depth.levels? = some D)
    (he : explore ctx fixes t = .ok result t') :
    (1 ≤ D → result.depthExceeded = false → ∀ d D', d.levels? = some D' → D ≤ D' →
      ∃ journal, explore (ctx.deepen d) fixes t = .ok result { t' with journal }) ∧
    (result.depthExceeded = true → 1 ≤ D ∧ result.depthReached = D ∧
      ∃ before last, exploreSeen ctx fixes t =
          .ok (before ++ [.reports last, .reports result.reports], result) t' ∧
        ∃ r ∈ result.reports, ∃ f ∈ r.triggered, f.key ∉ Fix.keys r.tree ∧
          ∀ s ∈ last, s.isFinished = true → f.key ∉ Fix.keys s.tree) := by
  refine ⟨fun hpos hall d D' hD' hle => explore_deepen hD hpos hD' hle he hall, fun hx => ?_⟩
  obtain ⟨course, hseen⟩ := seen_of_explore he
  have hcut := explore_cutShort hD hseen hx
  obtain ⟨before, last, rfl, hlast, r, hr, hc⟩ := hcut.left
  obtain ⟨f, hf, hnew, hapart⟩ := follows_of_continues hc
  refine ⟨hcut.positive, hcut.reached, before, last, hseen, settle ctx true last.settled r, ?_, f,
    ?_, ?_, hapart⟩
  · rw [hlast]
    exact List.mem_map_of_mem hr
  · rwa [triggered_settle]
  · rwa [tree_settle]

/-- One level leaves something to follow up; with two nothing is left, and seven change nothing. -/
theorem explore_deeper_chained :
    (∃ result t', explore (chained 1) (some [.ofField "A" "x", .ofField "B" "w"]) (Trial.start []) =
        .ok result t' ∧ result.depthExceeded = true ∧ result.depthReached = 1 ∧
      ∃ r ∈ result.reports, ∃ f ∈ r.triggered, f.key ∉ Fix.keys r.tree) ∧
    ∃ result t' journal, explore (chained 2) (some [.ofField "A" "x", .ofField "B" "w"])
        (Trial.start []) = .ok result t' ∧ result.depthExceeded = false ∧ result.depthReached = 2 ∧
      explore (chained 7) (some [.ofField "A" "x", .ofField "B" "w"]) (Trial.start []) =
        .ok result { t' with journal } := by
  constructor
  · have hrun : (match explore (chained 1) (some [.ofField "A" "x", .ofField "B" "w"])
        (Trial.start []) with
        | .ok result _ => result.depthExceeded
        | .error _ _ => false) = true := by
      decide +kernel
    cases he : explore (chained 1) (some [.ofField "A" "x", .ofField "B" "w"]) (Trial.start []) with
    | error e t' => simp [he] at hrun
    | ok result t' =>
      rw [he] at hrun
      obtain ⟨-, hcut⟩ := explore_deeper (D := 1) rfl he
      obtain ⟨-, hreached, -, -, -, r, hr, f, hf, hnew, -⟩ := hcut hrun
      exact ⟨result, t', rfl, hrun, hreached, r, hr, f, hf, hnew⟩
  · have hrun : (match explore (chained 2) (some [.ofField "A" "x", .ofField "B" "w"])
        (Trial.start []) with
        | .ok result _ => (result.depthExceeded, result.depthReached)
        | .error _ _ => (true, 0)) = (false, 2) := by
      decide +kernel
    cases he : explore (chained 2) (some [.ofField "A" "x", .ofField "B" "w"]) (Trial.start []) with
    | error e t' => simp [he] at hrun
    | ok result t' =>
      simp only [he, Prod.mk.injEq] at hrun
      obtain ⟨hall, -⟩ := explore_deeper (D := 2) rfl he
      obtain ⟨journal, he'⟩ := hall (by decide) hrun.1 (.whole 7) 7 rfl (by decide)
      exact ⟨result, t', journal, rfl, hrun.1, hrun.2, he'⟩

end Exploration
end FixTrial
