import FixTrial.Proofs.Exploration.Attempts
import FixTrial.Proofs.Exploration.Handed

/-!
What an estimate replays: for each group of the first level the fixes of its nodes that did not fail.
That is what one build of the target succeeded with or, where the group itself did not build, what
builds of its nodes succeeded with one by one, put together.
-/
namespace FixTrial
open Act

theorem Keyed.Same.append {α κ : Type} {key : α → κ} {xs xs' ys ys' : List α}
    (hx : Keyed.Same key xs xs') (hy : Keyed.Same key ys ys') :
    Keyed.Same key (xs ++ ys) (xs' ++ ys') := by
  intro k
  rw [List.map_append, List.map_append, List.mem_append, List.mem_append, hx k, hy k]

namespace Graph
variable {g h : Graph} {group : List Nat} {i : Nat} {n : Node}

theorem members_cons (hn : g.nodes[i]? = some n) : g.members (i :: group) = n :: g.members group :=
  List.filterMap_cons_some hn

/-- What a group builds does not depend on measurements. -/
theorem flatMap_fixes_of_bare_eq (hb : h.bare = g.bare) (group : List Nat) :
    (h.members group).flatMap (·.fixes) = (g.members group).flatMap (·.fixes) := by
  rw [List.flatMap_def, List.flatMap_def, map_fixes_of_bare_eq hb]

theorem filter_members (p : Node → Bool) (group : List Nat) :
    (g.members group).filter p = g.members (group.filter fun i => (g.nodes[i]?).any p) := by
  unfold members
  induction group with
  | nil => rfl
  | cons i rest ih =>
    cases hi : g.nodes[i]? with
    | none => simp [hi, ih]
    | some n => cases hp : p n <;> simp [hi, hp, ih]

end Graph

namespace Exploration
open FixTrial.Graph
variable {ω : Type} {ctx : Context ω} {g h k : Graph} {group : List Nat} {groups : List (List Nat)}
  {depth number : Nat} {t t' : Trial ω} {b c : GroupBuild ω} {bs cs : List (GroupBuild ω)}
  {i j : Nat} {m : Node}

/-- The builds that settle the nodes of a group: one of the group or, where that failed and retries
are on, one of each node. -/
inductive Settled (ctx : Context ω) (bs : List (GroupBuild ω)) (group : List Nat) : Prop
  | whole {b : GroupBuild ω} (hb : b ∈ bs) (hgroup : b.group = group)
      (hlast : ∀ j ∈ group, lastBuild bs j = some b)
  | apart {b : GroupBuild ω} (hb : b ∈ bs) (hgroup : b.group = group) (hfailed : b.ok = false)
      (hretry : ctx.retry = true)
      (hlast : ∀ j ∈ group, ∃ c, lastBuild bs j = some c ∧ c.group = [j])

/-- Builds of other nodes settle nothing anew. -/
theorem Settled.append_left (hs : Settled ctx bs group) (hcs : ∀ c ∈ cs, ∀ j ∈ group, j ∉ c.group) :
    Settled ctx (bs ++ cs) group := by
  have hsame : ∀ j ∈ group, lastBuild (bs ++ cs) j = lastBuild bs j := by
    intro j hj
    rw [lastBuild_append, lastBuild_eq_none fun c hc => hcs c hc j hj, Option.none_or]
  cases hs with
  | whole hb hgroup hlast =>
    exact .whole (List.mem_append_left cs hb) hgroup fun j hj => (hsame j hj).trans (hlast j hj)
  | apart hb hgroup hfailed hretry hlast =>
    refine .apart (List.mem_append_left cs hb) hgroup hfailed hretry fun j hj => ?_
    rw [hsame j hj]
    exact hlast j hj

theorem Settled.append_right (hs : Settled ctx cs group) : Settled ctx (bs ++ cs) group := by
  cases hs with
  | whole hb hgroup hlast =>
    refine .whole (List.mem_append_right bs hb) hgroup fun j hj => ?_
    rw [lastBuild_append, hlast j hj, Option.some_or]
  | apart hb hgroup hfailed hretry hlast =>
    refine .apart (List.mem_append_right bs hb) hgroup hfailed hretry fun j hj => ?_
    obtain ⟨c, hc, hsingle⟩ := hlast j hj
    exact ⟨c, by rw [lastBuild_append, hc, Option.some_or], hsingle⟩

theorem settled_of_groupBuilds (hb : groupBuilds ctx g group depth number t = .ok (bs, h) t') :
    Settled ctx bs group := by
  obtain ⟨b, t₁, hbuild, hcases⟩ := groupBuilds_cases hb
  obtain ⟨after, ok, -, rfl⟩ := kept_of_buildKept hbuild
  obtain ⟨hfailed, hon, -, cs, t₂, -, hretry, rfl⟩ | ⟨-, rfl, -⟩ := hcases
  · refine .apart List.mem_cons_self rfl hfailed hon fun j hj => ?_
    have hmem : [j] ∈ cs.map (·.group) := groups_of_retryBuilds hretry ▸ List.mem_map_of_mem hj
    obtain ⟨c, hc, hcj⟩ := List.mem_map.mp hmem
    obtain ⟨d, hd⟩ := lastBuild_isSome (j := j) hc (hcj ▸ List.mem_singleton.mpr rfl)
    obtain ⟨hdmem, hjd⟩ := mem_of_lastBuild hd
    obtain ⟨i, -, hdi⟩ := single_of_retryBuilds hretry hdmem
    obtain rfl : j = i := List.mem_singleton.mp (hdi ▸ hjd)
    exact ⟨d, by rw [lastBuild_cons, hd, Option.some_or], hdi⟩
  · refine .whole (List.mem_singleton.mpr rfl) rfl fun j hj => ?_
    rw [lastBuild_cons, if_pos hj]
    rfl

/-- Groups that have no node in common are settled each by its own builds. -/
theorem settled_of_groupsBuilds (hn : groups.flatten.Nodup)
    (hb : groupsBuilds ctx depth number g groups t = .ok (bs, h) t') :
    (∀ b ∈ bs, b.group ⊆ groups.flatten) ∧ ∀ group ∈ groups, Settled ctx bs group := by
  induction groups generalizing number g t bs with
  | nil =>
    cases hb
    exact ⟨by simp, by simp⟩
  | cons first rest ih =>
    rw [List.flatten_cons, List.nodup_append] at hn
    obtain ⟨-, hnrest, hapart⟩ := hn
    unfold groupsBuilds at hb
    obtain ⟨⟨cs, k⟩, t₁, hfirst, hb⟩ := bind_eq_ok.mp hb
    obtain ⟨⟨ds, l⟩, t₂, hrest, hb⟩ := bind_eq_ok.mp hb
    cases hb
    have hwithin := within_of_groupBuilds hfirst
    have hsettled := settled_of_groupBuilds hfirst
    obtain ⟨hothers, hall⟩ := ih hnrest hrest
    refine ⟨fun b hb => ?_, List.forall_mem_cons.mpr ⟨hsettled.append_left ?_, fun group hgroup => ?_⟩⟩
    · rw [List.flatten_cons]
      rcases List.mem_append.mp hb with hb | hb
      · exact List.subset_append_of_subset_left _ (hwithin b hb)
      · exact List.subset_append_of_subset_right _ (hothers b hb)
    · intro d hd j hj hjd
      exact hapart j hj j (hothers d hd hjd) rfl
    · exact (hall group hgroup).append_right

theorem settled_of_passBuilds (hg : g.Arena)
    (hp : passBuilds ctx g depth t = .ok (bs, h) t') :
    ∀ group ∈ (prepared ctx.regions g).groups, Settled ctx bs group := by
  unfold passBuilds at hp
  rw [log_bind, log_bind] at hp
  exact (settled_of_groupsBuilds (partitions_findGroups (arena_updateRegions hg)).once hp).2

/-- A batch that is known to build from some builds, as a whole or in pieces: a build succeeded with
its fixes, or several builds of single nodes did with some of them each, after a build of a group
with all these nodes failed. -/
inductive Assembled (ctx : Context ω) (bs : List (GroupBuild ω)) (batch : List Fix) : Prop
  | built {b : GroupBuild ω} {ds : List Diagnostic} (hb : b ∈ bs)
      (hs : b.Succeeds ctx.workspace ds) (hsame : Keyed.Same Fix.key batch b.fixes)
  | pieced {b : GroupBuild ω} {js : List Nat} {cs : List (GroupBuild ω)}
      (hretry : ctx.retry = true) (hb : b ∈ bs) (hfailed : b.ok = false)
      (hjs : js.Sublist b.group) (hmany : 1 < js.length)
      (hsingle : cs.map (·.group) = js.map fun j => [j])
      (hbuilt : ∀ c ∈ cs, c ∈ bs ∧ ∃ ds, c.Succeeds ctx.workspace ds)
      (hsame : Keyed.Same Fix.key batch (cs.flatMap GroupBuild.fixes))

theorem Assembled.congr {batch batch' : List Fix} (h : Assembled ctx bs batch)
    (hb : Keyed.Same Fix.key batch' batch) : Assembled ctx bs batch' := by
  cases h with
  | built hmem hs hsame => exact .built hmem hs (hb.trans hsame)
  | pieced hretry hmem hfailed hjs hmany hsingle hbuilt hsame =>
    exact .pieced hretry hmem hfailed hjs hmany hsingle hbuilt (hb.trans hsame)

section Trails
variable (htrail : Trail ctx depth g t bs h t') (hfresh : ∀ n ∈ g.nodes, n.failed = false)
include htrail

theorem fixes_of_trail (hc : c ∈ bs) :
    Keyed.Same Fix.key ((h.members c.group).flatMap (·.fixes)) c.fixes := by
  obtain ⟨-, -, hbefore⟩ := htrail.sound c hc
  rw [flatMap_fixes_of_bare_eq (htrail.bare.trans hbefore.symm)]
  exact Fix.dedupe_same.symm

include hfresh

/-- A node has not failed exactly if the last build that it was in succeeded. -/
theorem failed_iff_of_lastBuild (hlast : lastBuild bs j = some c) (hm : h.nodes[j]? = some m) :
    m.failed = false ↔ ∃ ds, c.Succeeds ctx.workspace ds := by
  obtain ⟨n, hn, -⟩ := getElem?_of_bare_eq htrail.bare.symm hm
  have hnf : n.failed = false := hfresh n (List.mem_of_getElem? hn)
  obtain ⟨report, hcame, hlearned⟩ := htrail.learned hlast hn hnf
  obtain rfl : n.learn t.bank.before ctx.declared report = m :=
    Option.some.inj (hlearned.symm.trans hm)
  cases report with
  | none =>
    have hnot : c.ok = false := hcame.ok_eq
    exact ⟨nofun, fun ⟨ds, hs⟩ => nomatch hnot.symm.trans hs.1⟩
  | some ds => exact ⟨fun _ => ⟨ds, succeeds_of_came hcame rfl⟩, fun _ => hnf⟩

/-- Nodes that were built alone, and did not fail, are tried with what those builds succeeded with. -/
theorem pieces_of_trail {js : List Nat}
    (hall : ∀ j ∈ js, ∃ c, lastBuild bs j = some c ∧ c.group = [j] ∧
      ∃ m, h.nodes[j]? = some m ∧ m.failed = false) :
    ∃ cs : List (GroupBuild ω), cs.map (·.group) = js.map (fun j => [j]) ∧
      (∀ c ∈ cs, c ∈ bs ∧ ∃ ds, c.Succeeds ctx.workspace ds) ∧
      Keyed.Same Fix.key ((h.members js).flatMap (·.fixes)) (cs.flatMap GroupBuild.fixes) := by
  induction js with
  | nil => exact ⟨[], rfl, by simp, .refl _⟩
  | cons j rest ih =>
    rw [List.forall_mem_cons] at hall
    obtain ⟨⟨c, hlast, hgroup, m, hm, hmf⟩, hrest⟩ := hall
    obtain ⟨cs, hgroups, hbuilt, hsame⟩ := ih hrest
    obtain ⟨hc, -⟩ := mem_of_lastBuild hlast
    have hfixes := fixes_of_trail htrail hc
    rw [hgroup, members_cons hm, List.flatMap_cons] at hfixes
    refine ⟨c :: cs, by rw [List.map_cons, List.map_cons, hgroup, hgroups],
      List.forall_mem_cons.mpr ⟨⟨hc, ?_⟩, hbuilt⟩, ?_⟩
    · exact (failed_iff_of_lastBuild htrail hfresh hlast hm).mp hmf
    · rw [members_cons hm, List.flatMap_cons, List.flatMap_cons]
      refine Keyed.Same.append ?_ hsame
      simpa [members] using hfixes

/-- What is left of a group that was settled is assembled from builds. -/
theorem assembled_of_settled (hs : Settled ctx bs group)
    (hleft : (h.members group).filter (!·.failed) ≠ []) :
    Assembled ctx bs (((h.members group).filter (!·.failed)).flatMap (·.fixes)) := by
  cases hs with
  | @whole b hb hgroup hlast =>
    subst hgroup
    -- one build tells all the nodes, so that with one of them none has failed
    obtain ⟨m, hm⟩ := List.exists_mem_of_ne_nil _ hleft
    obtain ⟨hm, hmf⟩ := List.mem_filter.mp hm
    obtain ⟨i, hi, him⟩ := mem_members.mp hm
    obtain ⟨ds, hds⟩ := (failed_iff_of_lastBuild htrail hfresh (hlast i hi) him).mp (by simpa using hmf)
    have hall : (h.members b.group).filter (!·.failed) = h.members b.group := by
      refine List.filter_eq_self.mpr fun n hn => ?_
      obtain ⟨j, hj, hjn⟩ := mem_members.mp hn
      have hnf := (failed_iff_of_lastBuild htrail hfresh (hlast j hj) hjn).mpr ⟨ds, hds⟩
      rw [hnf]
      rfl
    rw [hall]
    exact .built hb hds (fixes_of_trail htrail hb)
  | @apart b hb hgroup hfailed hretry hlast =>
    subst hgroup
    rw [filter_members] at hleft ⊢
    generalize hjs : (b.group.filter fun i => (h.nodes[i]?).any (!·.failed)) = js at hleft ⊢
    have hsub : js.Sublist b.group := hjs ▸ List.filter_sublist
    have halone : ∀ j ∈ js, ∃ c, lastBuild bs j = some c ∧ c.group = [j] ∧
        ∃ m, h.nodes[j]? = some m ∧ m.failed = false := by
      intro j hj
      rw [← hjs, List.mem_filter, Option.any_eq_true] at hj
      obtain ⟨hmem, m, hm, hmf⟩ := hj
      obtain ⟨c, hc, hsingle⟩ := hlast j hmem
      exact ⟨c, hc, hsingle, m, hm, by simpa using hmf⟩
    obtain ⟨cs, hgroups, hbuilt, hsame⟩ := pieces_of_trail htrail hfresh halone
    have hlength : cs.length = js.length := by simpa using congrArg List.length hgroups
    rcases Nat.lt_or_ge 1 js.length with hmany | hfew
    · exact .pieced hretry hb hfailed hsub hmany hgroups hbuilt hsame
    · have hpos : 0 < js.length := List.length_pos_iff.mpr fun hnil => hleft (hnil ▸ rfl)
      obtain ⟨c, rfl⟩ := List.length_eq_one_iff.mp (show cs.length = 1 by omega)
      obtain ⟨hc, ds, hds⟩ := hbuilt c (List.mem_singleton.mpr rfl)
      exact .built hc hds (by simpa using hsame)

end Trails

/-- Every group of candidates of a level is assembled from its builds. -/
theorem assembled_of_candidates (hg : g.Arena) (hentered : Entered g)
    (hp : passBuilds ctx g depth t = .ok (bs, h) t') {cands : List Candidate}
    (hmem : cands ∈ candidates h) : Assembled ctx bs (cands.flatMap (·.linked)) := by
  have hfresh : ∀ n ∈ g.nodes, n.failed = false := fun n hn => (hentered n hn).2
  obtain ⟨htrail, -⟩ := trail_of_passBuilds hg hfresh hp
  obtain ⟨hmap, hne⟩ := List.mem_filter.mp hmem
  obtain ⟨group, hgroup, rfl⟩ := List.mem_map.mp hmap
  have hgroups : h.bare.groups = (prepared ctx.regions g).bare.groups :=
    congrArg Graph.groups htrail.bare
  have hsettled : Settled ctx bs group := settled_of_passBuilds hg hp group (hgroups ▸ hgroup)
  rw [List.flatMap_map]
  refine assembled_of_settled htrail (fresh_prepared hfresh) hsettled fun hnil => ?_
  simp [hnil] at hne

/-- An exploration asks the modules that depend on the target: its first level was opened and built,
and it goes on with an estimate of what came of that. -/
structure Asks (ctx : Context ω) (fixes : Option (List Fix)) (t : Trial ω)
    (bs : List (GroupBuild ω)) (g : Graph) (rs : Reports) (s : Trial ω) : Prop where
  modules : ctx.modules ≠ []
  built : ∃ base start first s₀, Opens ctx fixes t base 0 start first [] s₀ ∧
    levelBuilds ctx start 0 first s₀ = .ok (bs, g, rs) s
  goes : explore ctx fixes t =
    (estimate ctx g rs >>= fun rs => decideReports ctx ctx.depth.isZero rs >>= follow ctx) s

section Asking
variable {fixes : Option (List Fix)} {base : List Diagnostic} {start : Graph} {first rs : Reports}
  {s t₁ : Trial ω}

theorem asks_of_level (hmodules : ctx.modules ≠ [])
    (hbase : buildBaseline ctx { t with journal := t.journal ++ [.started ctx.depth ctx.mode] } =
      .ok (.ok base) t₁)
    (hlevel : firstLevel ctx ⟨base⟩ (roots ctx ⟨base⟩ fixes) = (start, first))
    (hsize : start.size ≠ 0)
    (hl : levelBuilds ctx start 0 first (Trial.opened { t₁ with
      bank := .baseline base, journal := t₁.journal ++ [.baselineBuilt base.length] } 0 start) =
        .ok (bs, g, rs) s) :
    Asks ctx fixes t bs g rs s := by
  refine ⟨hmodules, ⟨base, start, first, _, .first hbase hlevel, hl⟩, ?_⟩
  have hlevel' := (level_ok_iff ctx).mpr ⟨bs, hl⟩
  unfold explore
  rw [log_bind, bind_of_ok hbase]
  dsimp only
  rw [modify_bind, log_bind]
  unfold exploreFrom
  rw [hlevel]
  dsimp only
  rw [log_bind, if_neg hsize]
  refine (bind_of_ok hlevel').trans ?_
  dsimp only
  rw [if_neg (by simpa using hmodules)]

theorem runGroups_on (ms : List (DependentModule ω)) (depth number : Nat) (g : Graph)
    (groups : List (List Nat)) :
    runGroups (ctx.on ctx.workspace ms) depth number g groups =
      runGroups ctx depth number g groups := by
  induction groups generalizing number g with
  | nil => rfl
  | cons group rest ih =>
    unfold runGroups
    simp only [ih]
    rfl

/-- A level asks no module. -/
theorem level_on (ms : List (DependentModule ω)) (g : Graph) (depth : Nat) (rs : Reports) :
    level (ctx.on ctx.workspace ms) g depth rs = level ctx g depth rs := by
  unfold level pass
  simp only [runGroups_on]
  rfl

/-- An exploration asks the modules, or goes as if there were none. -/
theorem asks_or_not (ctx : Context ω) (fixes : Option (List Fix)) (t : Trial ω) :
    (∃ bs g rs s, Asks ctx fixes t bs g rs s) ∨
      explore ctx fixes t = explore (ctx.on ctx.workspace []) fixes t := by
  by_cases hmodules : ctx.modules = []
  · right
    rw [← hmodules]
    rfl
  refine or_iff_not_imp_left.mpr fun hnever => ?_
  have hbuild : buildBaseline (ctx.on ctx.workspace []) = buildBaseline ctx := rfl
  unfold explore
  rw [log_bind, log_bind, hbuild]
  change (buildBaseline ctx >>= _) { t with journal := t.journal ++ [.started ctx.depth ctx.mode] } =
    (buildBaseline ctx >>= _) { t with journal := t.journal ++ [.started ctx.depth ctx.mode] }
  cases hbase : buildBaseline ctx
    { t with journal := t.journal ++ [.started ctx.depth ctx.mode] } with
  | error e t₁ => rw [bind_of_error hbase, bind_of_error hbase]
  | ok built t₁ =>
    rw [bind_of_ok hbase, bind_of_ok hbase]
    cases built with
    | error e => rfl
    | ok base =>
      obtain ⟨start, first, hlevel⟩ : ∃ start first,
          firstLevel ctx ⟨base⟩ (roots ctx ⟨base⟩ fixes) = (start, first) := ⟨_, _, rfl⟩
      have hlevel' : firstLevel (ctx.on ctx.workspace []) ⟨base⟩
          (roots (ctx.on ctx.workspace []) ⟨base⟩ fixes) = (start, first) := hlevel
      dsimp only
      rw [modify_bind, modify_bind, log_bind, log_bind]
      unfold exploreFrom
      rw [hlevel, hlevel']
      dsimp only
      rw [log_bind, log_bind]
      by_cases hsize : start.size = 0
      · rw [if_pos hsize, if_pos hsize]
      · rw [if_neg hsize, if_neg hsize]
        -- the first level that is built would be asked about
        have hfails : ∀ p s, level ctx start 0 first (Trial.opened { t₁ with
            bank := .baseline base, journal := t₁.journal ++ [.baselineBuilt base.length] }
              0 start) ≠ .ok p s := by
          rintro ⟨g, rs⟩ s hl
          obtain ⟨bs, hbuilds⟩ := (level_ok_iff ctx).mp hl
          exact hnever ⟨bs, g, rs, s, asks_of_level hmodules hbase hlevel hsize hbuilds⟩
        rw [level_on]
        cases hl : level ctx start 0 first (Trial.opened { t₁ with
            bank := .baseline base, journal := t₁.journal ++ [.baselineBuilt base.length] }
              0 start) with
        | ok p s => exact absurd hl (hfails p s)
        | error e s => exact (bind_of_error hl).trans (bind_of_error hl).symm

end Asking

/-- A note says what an earlier one says, and then batches of some groups of candidates. -/
def Repeats (past : List (List Fix)) (groups : List (List Candidate)) (note : List (List Fix)) :
    Prop :=
  ∃ part, note = past ++ part ∧
    ∀ batch ∈ part, ∃ cands ∈ groups, batch = Fix.dedupe (cands.flatMap (·.linked))

theorem admits_repeats (past : List (List Fix)) (groups : List (List Candidate)) :
    ∀ cands ∈ groups,
      Noted.Admits (Repeats past groups) (Fix.dedupe (cands.flatMap (·.linked))) := by
  rintro cands hcands _ ⟨part, rfl, hpart⟩
  refine ⟨part ++ [_], List.append_assoc .., fun batch hbatch => ?_⟩
  rcases List.mem_append.mp hbatch with hold | hnew
  · exact hpart batch hold
  · exact ⟨cands, hcands, List.mem_singleton.mp hnew⟩

/-- An estimate hands over batches of its candidates. -/
theorem repeats_estimate (ctx : Context ω) (g : Graph) (rs : Reports) (s : Trial (Noted ω)) :
    Repeats s.handed (candidates g) (final (estimate ctx.noted g rs s)).handed := by
  have hrun : Alike (Notes s.levels (Repeats s.handed (candidates g))) (fun _ => True)
      (fun _ _ => True) (estimate ctx.noted g rs) (estimate ctx g rs) :=
    ((twins_noted ctx s.levels _).estimateRun (candidates g)
      (admits_repeats s.handed (candidates g))).bind fun _ _ _ => .of_pure trivial
  have hends := hrun s s.forget ⟨rfl, rfl, [], by simp, by simp⟩
  generalize estimate ctx.noted g rs s = r' at hends ⊢
  generalize estimate ctx g rs s.forget = r at hends
  cases hends with
  | ok _ hnotes => exact hnotes.2.2
  | error _ hnotes => exact hnotes.2.2

/-- Where a level was opened and built, what is replayed of it is assembled from its builds. -/
theorem Asks.assembled {ctx : Context (Noted ω)} {fixes : Option (List Fix)} {t s : Trial (Noted ω)}
    {bs : List (GroupBuild (Noted ω))} {rs : Reports} (h : Asks ctx fixes t bs g rs s)
    {cands : List Candidate} (hmem : cands ∈ candidates g) :
    Assembled ctx bs (cands.flatMap (·.linked)) := by
  obtain ⟨base, start, first, s₀, ho, hl⟩ := h.built
  have hprovided := provided_of_opens ho
  obtain ⟨hp, -⟩ := pass_of_levelBuilds hl
  exact assembled_of_candidates (arena_of_built hprovided.built) hprovided.entered hp hmem

/-- However an exploration ends, it ends the same with a note of what it hands over. Either it goes as
if no module depended on the target, or it goes on with an estimate of its first level. The estimate
hands over some more batches, and each of them is assembled from builds of that level: one of these
succeeded with its fixes, or else the group of its nodes failed, was retried, and several single
nodes of it built. -/
theorem replays_of_explore (ctx : Context ω) (fixes : Option (List Fix)) (t : Trial ω) :
    (∃ t', EndsNoted ctx fixes t t') ∧
      ((∃ bs g rs s, Asks ctx.noted fixes t.noted bs g rs s ∧
          ∃ replayed, (final (estimate ctx.noted g rs s)).handed = s.handed ++ replayed ∧
            ∀ batch ∈ replayed, Assembled ctx.noted bs batch) ∨
        explore ctx.noted fixes t.noted =
          explore (ctx.noted.on ctx.noted.workspace []) fixes t.noted) := by
  obtain ⟨t', hends, -⟩ := parted_explore ctx fixes t
  refine ⟨⟨t', hends⟩, (asks_or_not ctx.noted fixes t.noted).imp_left ?_⟩
  rintro ⟨bs, g, rs, s, hasks⟩
  obtain ⟨replayed, hhanded, hreplayed⟩ := repeats_estimate ctx g rs s
  refine ⟨bs, g, rs, s, hasks, replayed, hhanded, fun batch hbatch => ?_⟩
  obtain ⟨cands, hcands, rfl⟩ := hreplayed batch hbatch
  exact (hasks.assembled hcands).congr Fix.dedupe_same

/-- The clashing annotations, with a module that depends on them. -/
def clashesBeside : Context (List Fix) :=
  { clashes with modules := [{ name := .text "client", verify := fun held => .ok [] held }] }

/-- Two annotations that do not build together. -/
def clashingPair : List Fix := [.ofField "A" "x", .ofField "B" "z"]

/-- The trial of the pair as its first level is opened. -/
def openedPair (g : Graph) : Trial (Noted (List Fix)) :=
  Trial.opened { (Trial.start []).noted with
    bank := .baseline [], builds := 1
    journal := [.started (.whole 0) .targetOnly, .baselineBuilt 0] } 0 g

/-- The builds of the first level of the pair, each with its fixes, and what is replayed of it. -/
def replayedPair : List (Bool × List FixKey) × List (List FixKey) :=
  let (g, first) := firstLevel clashesBeside.noted ⟨[]⟩ clashingPair
  match levelBuilds clashesBeside.noted g 0 first (openedPair g) with
  | .ok (bs, h, rs) s =>
    (bs.map fun b => (b.ok, b.fixes.map Fix.key),
      ((final (estimate clashesBeside.noted h rs s)).handed.drop s.handed.length).map
        (·.map Fix.key))
  | .error _ _ => ([], [])

theorem replayedPair_eq : replayedPair =
    ([(false, clashingPair.map Fix.key), (true, [(Fix.ofField "A" "x").key]),
      (true, [(Fix.ofField "B" "z").key])],
    [clashingPair.map Fix.key, clashingPair.map Fix.key]) := by
  decide +kernel

/-- Two annotations are replayed together, though no build of the target succeeded with both. -/
theorem replayed_never_built : ∃ bs g rs s,
    Asks clashesBeside.noted (some clashingPair) (Trial.start []).noted bs g rs s ∧
    ∃ replayed, (final (estimate clashesBeside.noted g rs s)).handed = s.handed ++ replayed ∧
      ∃ batch ∈ replayed, ∀ b ∈ bs, b.ok = true → ¬ Keyed.Same Fix.key batch b.fixes := by
  have hrun := replayedPair_eq
  have hsize : (firstLevel clashesBeside.noted ⟨[]⟩ clashingPair).1.size ≠ 0 := by decide
  unfold replayedPair at hrun
  generalize hlevel : firstLevel clashesBeside.noted ⟨[]⟩ clashingPair = p at hrun hsize
  obtain ⟨start, first⟩ := p
  dsimp only at hrun hsize
  cases hl : levelBuilds clashesBeside.noted start 0 first (openedPair start) with
  | error e s => simp [hl] at hrun
  | ok p s =>
    obtain ⟨bs, g, rs⟩ := p
    simp only [hl, Prod.mk.injEq] at hrun
    obtain ⟨hbuilds, hreplays⟩ := hrun
    have hbase : buildBaseline clashesBeside.noted
        { (Trial.start []).noted with journal := [.started (.whole 0) .targetOnly] } = .ok (.ok [])
          { (Trial.start []).noted with
            builds := 1, journal := [.started (.whole 0) .targetOnly] } := rfl
    have hasks : Asks clashesBeside.noted (some clashingPair) (Trial.start []).noted bs g rs s :=
      asks_of_level (List.cons_ne_nil _ _) hbase hlevel hsize hl
    obtain ⟨replayed, hhanded, -⟩ := repeats_estimate clashesBeside g rs s
    rw [hhanded, List.drop_left] at hreplays
    obtain ⟨batch, rest, rfl, hkeys, -⟩ := List.map_eq_cons_iff.mp hreplays
    refine ⟨bs, g, rs, s, hasks, _, hhanded, batch, List.mem_cons_self, fun b hb hok hsame => ?_⟩
    -- each build that succeeded lacks one of the two
    have hlacks : ∀ p ∈ [(false, clashingPair.map Fix.key), (true, [(Fix.ofField "A" "x").key]),
        (true, [(Fix.ofField "B" "z").key])],
        p.1 = true → ¬ ∀ k ∈ clashingPair.map Fix.key, k ∈ p.2 := by decide
    rw [← hbuilds] at hlacks
    exact hlacks _ (List.mem_map_of_mem hb) hok fun k hk => (hsame k).mp (hkeys ▸ hk)

end Exploration
end FixTrial
