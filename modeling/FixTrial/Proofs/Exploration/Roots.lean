import FixTrial.Proofs.Dedupe
import FixTrial.Proofs.Exploration.Faults
import FixTrial.Proofs.Exploration.Growth

/-!
The roots of an exploration. Each candidate is reported on once, with what all of its suggestions say
of it, and it stays in the tree that is tried for it.
-/
namespace FixTrial

/-- A diagnostic suggests the fix, and nothing that does not lie in the target. -/
def Context.Proposes {ω : Type} (ctx : Context ω) (ds : List Diagnostic) (f : Fix) : Prop :=
  ∃ d ∈ ds, d.fixes ≠ [] ∧ (∀ g ∈ d.fixes, ctx.declared g.location = true) ∧ f ∈ d.fixes

namespace Exploration
open Act FixTrial.Graph
variable {ω : Type} {ctx : Context ω} {fixes : Option (List Fix)} {t t' : Trial ω}
  {course rest : Course} {result : ExplorationResult} {rs rs' first last : Reports}
  {depth levels : Nat} {baseline : Snapshot}

theorem gathered_roots (ctx : Context ω) (ds : List Diagnostic) :
    Fix.Gathered (ctx.Proposes ds) (roots ctx ⟨ds⟩ none) := by
  refine (Fix.gathered_dedupe _).of_iff fun f => ?_
  simp only [Context.Proposes, List.mem_flatMap, List.mem_filter, Diagnostic.isFixable, Fix.sort,
    List.mem_mergeSort, Bool.and_eq_true, List.all_eq_true, Bool.not_eq_true',
    List.isEmpty_eq_false_iff, and_assoc]

/-- The root of each report is in its tree. -/
def Rooted (rs : Reports) : Prop := ∀ r ∈ rs, r.root.key ∈ Fix.keys r.tree

theorem rooted_start (root : Fix) (tree : List Fix) :
    root.key ∈ Fix.keys (Report.start root tree).tree :=
  Fix.mem_keys.mpr (Keyed.mem_keys_insert.mpr (.inr rfl))

theorem rooted_of_stems (h : stems rs' = stems rs) (hrs : Rooted rs) : Rooted rs' := by
  intro r hr
  have hstem : (r.root, r.tree) ∈ stems rs := h ▸ List.mem_map_of_mem hr
  obtain ⟨r', hr', hsame⟩ := List.mem_map.mp hstem
  obtain ⟨hroot, htree⟩ := Prod.mk.inj hsame
  exact hroot ▸ htree ▸ hrs r' hr'

theorem rooted_fold {h : Graph} (hw : ∀ r ∈ rs, Widens ctx depth h r) (hrs : Rooted rs) :
    Rooted (rs.fold h depth) := by
  intro r' hr'
  rw [fold_eq] at hr'
  obtain ⟨r, hr, rfl⟩ := List.mem_map.mp hr'
  rw [root_refresh]
  exact (hw r hr).keeps (hrs r hr)

/-- Along a course no root is lost, none is added, and each stays in its tree. -/
theorem Grows.rooted (h : Grows ctx depth rs course levels last) (hrs : Rooted rs) :
    ∀ rs', .reports rs' ∈ Moment.reports rs :: course →
      rs'.map Report.root = rs.map Report.root ∧ Rooted rs' := by
  induction h with
  | done =>
    intro rs' hrs'
    cases List.mem_singleton.mp hrs'
    exact ⟨rfl, hrs⟩
  | told hstems _ ih =>
    intro rs' hrs'
    rcases List.mem_cons.mp hrs' with heq | hlater
    · cases heq
      exact ⟨rfl, hrs⟩
    · obtain ⟨hroots, hrooted⟩ := ih (rooted_of_stems hstems hrs) rs' hlater
      exact ⟨hroots.trans (roots_of_stems hstems), hrooted⟩
  | level _ hw _ ih =>
    intro rs' hrs'
    rcases List.mem_cons.mp hrs' with heq | hlater
    · cases heq
      exact ⟨rfl, hrs⟩
    · have hmeasured := (List.mem_cons.mp hlater).resolve_left nofun
      obtain ⟨hroots, hrooted⟩ := ih (rooted_fold hw hrs) rs' hmeasured
      exact ⟨hroots.trans roots_fold, hrooted⟩

theorem rooted_firstLevel {roots : List Fix} : Rooted (firstLevel ctx baseline roots).2 := by
  intro r hr
  obtain ⟨n, -, rfl⟩ := List.mem_map.mp hr
  exact rooted_start n.root n.fixes

/-- From first reports, each of a root that is in its tree, a course leads to the last ones. -/
def Unfolds (ctx : Context ω) (roots : List Fix) (course : Course) (last : Reports) : Prop :=
  ∃ first rest levels, course = .reports first :: rest ∧ first.map Report.root = roots ∧
    Rooted first ∧ Grows ctx 0 first rest levels last

theorem Unfolds.throughout {roots : List Fix} (h : Unfolds ctx roots course last) :
    last.map Report.root = roots ∧
      ∀ rs, .reports rs ∈ course → rs.map Report.root = roots ∧ Rooted rs := by
  obtain ⟨first, rest, levels, rfl, rfl, hrooted, hgrows⟩ := h
  exact ⟨hgrows.roots, hgrows.rooted hrooted⟩

theorem exploreFrom_unfolds (he : exploreFromSeen ctx baseline fixes t = .ok (course, result) t') :
    Unfolds ctx (roots ctx baseline fixes) course result.reports := by
  obtain ⟨g, first, hstart⟩ : ∃ g first,
      firstLevel ctx baseline (roots ctx baseline fixes) = (g, first) := ⟨_, _, rfl⟩
  have hreports : first = (firstLevel ctx baseline (roots ctx baseline fixes)).2 := by rw [hstart]
  have hrooted : Rooted first := hreports ▸ rooted_firstLevel
  rcases exploreFromSeen_cases hstart he with
    ⟨-, rfl, hc, -⟩ | ⟨p, t₁, estimated, t₂, rest, -, -, hb, rfl⟩
  · obtain ⟨hlast, -⟩ := conclude_returned hc
    have hroots : first.map Report.root = roots ctx baseline fixes :=
      hreports ▸ roots_first nodup_roots
    exact ⟨first, [], 0, rfl, hroots, hrooted, hlast ▸ .done⟩
  · obtain ⟨D, -, -, -, -, hD, -⟩ := belowSeen_cases hb
    obtain ⟨first', rest', levels, hcourse, hroots, -, hgrows⟩ := (exploreFrom_affords hD he).grows
    obtain ⟨hfirst, rfl⟩ := List.cons.inj hcourse
    obtain rfl := Moment.reports.inj hfirst
    exact ⟨first, _, levels, rfl, hroots, hrooted, hgrows⟩

theorem hopeless_unfolds (roots : List Fix) :
    Unfolds ctx roots [.reports (roots.map hopeless)] (roots.map hopeless) := by
  refine ⟨_, [], 0, rfl, (List.map_map ..).trans (List.map_id _), fun r hr => ?_, .done⟩
  obtain ⟨root, -, rfl⟩ := List.mem_map.mp hr
  exact rooted_start root []

/-- The roots are the given fixes, each once, whether or not the baseline builds; where it builds and
none are given, they are what its diagnostics propose. -/
theorem explore_unfolds (he : exploreSeen ctx fixes t = .ok (course, result) t') :
    ∃ roots, Unfolds ctx roots course result.reports ∧
      (∀ given, fixes = some given → roots = Fix.dedupe given) ∧
      ∀ ds site, ctx.workspace.baseline t.site = .ok ds site →
        roots = Exploration.roots ctx ⟨ds⟩ fixes := by
  have hbuilds : ∀ ds site, ctx.workspace.baseline t.site = .ok ds site →
      ∃ t₁, buildBaseline ctx { t with
        journal := t.journal ++ [.started ctx.depth ctx.mode] } = .ok (.ok ds) t₁ :=
    fun ds site hds => ⟨_, buildBaseline_of_ok hds⟩
  rcases exploreSeen_cases he with ⟨e, t₁, hbuild, hc, rfl⟩ | ⟨ds, t₁, hbuild, he⟩
  · obtain ⟨hlast, -⟩ := conclude_returned hc
    refine ⟨Fix.dedupe (fixes.getD []), hlast ▸ hopeless_unfolds _, ?_, fun ds site hds => ?_⟩
    · rintro given rfl
      rfl
    · obtain ⟨t₂, hbuilt⟩ := hbuilds ds site hds
      cases hbuilt.symm.trans hbuild
  · refine ⟨roots ctx ⟨ds⟩ fixes, exploreFrom_unfolds he, ?_, fun ds' site hds => ?_⟩
    · rintro given rfl
      rfl
    · obtain ⟨t₂, hbuilt⟩ := hbuilds ds' site hds
      cases hbuilt.symm.trans hbuild
      rfl

theorem mem_course_of_explore (he : exploreSeen ctx fixes t = .ok (course, result) t') :
    .reports result.reports ∈ course := by
  rcases explore_completes he with hcompletes | ⟨-, rfl, -⟩
  · obtain ⟨before, rfl⟩ := hcompletes.ends
    simp
  · exact List.mem_singleton_self _

/-- An exploration reports on each candidate once, unless its workspace fails it in a way that is not
expected, or its levels cannot be counted. Given fixes are the candidates, in the order in which they
are given first, also where the baseline does not build. Where it builds and none are given, they are
the fixes that its diagnostics propose. From the first report to the last, a root is in its tree, and
it has what is said of it wherever it is suggested. -/
theorem one_report_per_candidate (ctx : Context ω) (fixes : Option (List Fix)) (t : Trial ω) :
    (∃ e t', explore ctx fixes t = .error e t' ∧
      (ctx.Raises e ∧ ¬ e.Expected ∨ e = .wrongType ∧ ctx.depth.levels? = none)) ∨
    ∃ course result t', explore ctx fixes t = .ok result t' ∧
      exploreSeen ctx fixes t = .ok (course, result) t' ∧ .reports result.reports ∈ course ∧
      (∀ rs, .reports rs ∈ course →
        rs.map Report.root = result.reports.map Report.root ∧
        ∀ r ∈ rs, r.root.key ∈ Fix.keys r.tree) ∧
      (∀ given, fixes = some given →
        Fix.Gathered (· ∈ given) (result.reports.map Report.root) ∧
        Fix.InOrder given (result.reports.map Report.root)) ∧
      ∀ ds site, fixes = none → ctx.workspace.baseline t.site = .ok ds site →
        Fix.Gathered (ctx.Proposes ds) (result.reports.map Report.root) := by
  cases he : explore ctx fixes t with
  | error e t' => exact .inl ⟨e, t', rfl, raises_of_explore he⟩
  | ok result t' =>
    obtain ⟨course, hseen⟩ := seen_of_explore he
    obtain ⟨roots, hunfolds, hgiven, hfound⟩ := explore_unfolds hseen
    obtain ⟨hlast, hthroughout⟩ := hunfolds.throughout
    refine .inr ⟨course, result, t', rfl, hseen, mem_course_of_explore hseen, ?_, ?_, ?_⟩
    · rw [hlast]
      exact hthroughout
    · intro given hfixes
      rw [hlast, hgiven given hfixes]
      exact ⟨Fix.gathered_dedupe given, Fix.inOrder_dedupe given⟩
    · rintro ds site rfl hds
      rw [hlast, hfound ds site hds]
      exact gathered_roots ctx ds

/-- A field that another module uses, and the same field as the target assigns it. -/
def usedField : Fix := { Fix.ofField "A" "x" with reasons := ["used"], origin := .downstream }

def assignedField : Fix :=
  { Fix.ofField "A" "x" with reasons := ["assigned"], patch := some (.text "") }

/-- The field is suggested twice, and another one in between. -/
def repeated : List Fix := [usedField, .ofField "B" "w", assignedField]

/-- There are two reports, and the first of them has all that the two suggestions say. -/
theorem one_report_per_candidate_repeated :
    ∃ result t', explore (chained 2) (some repeated) (Trial.start []) = .ok result t' ∧
      result.reports.length = 2 ∧ Fix.InOrder repeated (result.reports.map Report.root) ∧
      ∀ r ∈ result.reports, r.root.key = usedField.key →
        "used" ∈ r.root.reasons ∧ "assigned" ∈ r.root.reasons ∧ r.root.origin = .target ∧
          r.root.patch ≠ none := by
  have hrun : (match explore (chained 2) (some repeated) (Trial.start []) with
      | .ok result _ => result.reports.length
      | .error _ _ => 0) = 2 := by
    decide +kernel
  rcases one_report_per_candidate (chained 2) (some repeated) (Trial.start []) with
    ⟨e, t', he, -⟩ | ⟨course, result, t', he, -, -, -, hgiven, -⟩
  · rw [he] at hrun
    cases hrun
  rw [he] at hrun
  obtain ⟨hgathered, horder⟩ := hgiven repeated rfl
  refine ⟨result, t', he, hrun, horder, fun r hr hkey => ?_⟩
  have hroot : r.root ∈ result.reports.map Report.root := List.mem_map_of_mem hr
  have hused : usedField ∈ repeated := List.mem_cons_self
  have hassigned : assignedField ∈ repeated := by simp [repeated]
  refine ⟨(hgathered.reasons _ hroot _).mpr ⟨usedField, hused, hkey.symm, by decide⟩,
    (hgathered.reasons _ hroot _).mpr ⟨assignedField, hassigned, hkey.symm, by decide⟩,
    (hgathered.origin _ hroot).mpr ⟨assignedField, hassigned, hkey.symm, rfl⟩, fun hnone => ?_⟩
  exact nomatch (hgathered.unpatched _ hroot).mp hnone assignedField hassigned hkey.symm

end Exploration
end FixTrial
