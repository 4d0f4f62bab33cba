import FixTrial.Proofs.Exploration.Budget
import FixTrial.Proofs.Workspace.InMemory
import Mathlib.Data.Finset.Card

/-!
What an exploration may cost, and how its trees grow: each level adds to the trees of the reports
that it measures, and no more levels are run than were asked for.
-/
namespace FixTrial
open Act

/-- What goes in with a fix contains it. -/
def Context.LinksSelf {ω : Type} (ctx : Context ω) : Prop :=
  ∀ baseline f, f.key ∈ Fix.keys (ctx.link baseline f)

namespace Exploration
open FixTrial.Graph
variable {ω : Type} {ctx : Context ω} {g h : Graph} {depth levels reached budget : Nat}
  {t t' : Trial ω} {rs rs' last : Reports} {r : Report} {m : Node} {settled : List Fix}
  {baseline : Snapshot} {source : RegionSource} {k : FixKey} {final : Bool} {course rest : Course}
  {result : ExplorationResult} {fixes : Option (List Fix)}

theorem mem_keys_widened {root : Fix} :
    k ∈ Fix.keys (Keyed.union Fix.key [root] (widened ctx baseline settled r)) ↔
      k = root.key ∨ k ∈ Fix.keys r.tree ∨
        ∃ f ∈ Reports.unfollowed settled r, k ∈ Fix.keys (ctx.link baseline f) := by
  simp only [Fix.mem_keys, widened, Keyed.mem_keys_union, List.map_flatMap, List.mem_flatMap,
    List.map_singleton, List.mem_singleton]

theorem subset_widened : Fix.keys r.tree ⊆
    Fix.keys (Keyed.union Fix.key [r.root] (widened ctx baseline settled r)) :=
  fun _ hk => mem_keys_widened.mpr (.inr (.inl hk))

/-- What is followed up is not in the tree yet. -/
theorem ssubset_widened (hlink : ctx.LinksSelf) (hc : Continues settled r) : Fix.keys r.tree ⊂
    Fix.keys (Keyed.union Fix.key [r.root] (widened ctx baseline settled r)) := by
  obtain ⟨f, hf⟩ := exists_unfollowed hc
  refine (Finset.ssubset_iff_of_subset subset_widened).mpr
    ⟨f.key, mem_keys_widened.mpr (.inr (.inr ⟨f, hf, hlink baseline f⟩)), ?_⟩
  rw [Fix.mem_keys]
  exact (mem_keys_unfollowed.mp (List.mem_map_of_mem hf)).2.1

/-- A report that a verdict leaves undecided continues. -/
theorem continues_of_settle (h : (settle ctx false settled r).isFinished = false) :
    Continues settled r := by
  unfold settle at h
  split at h
  next hv =>
    refine ⟨h, Bool.not_eq_true _ ▸ fun hempty => ?_⟩
    simp [verdict?, h, hempty] at hv
  next tag hv =>
    have htag : tag ≠ .pending := (verdict?_eq_some hv).2 ▸ decide_ne_pending
    simp [Report.isFinished, htag] at h

/-- A level keeps what is in the tree of a report. If it is not the first, and measures the report's
node, it adds to the tree. -/
structure Widens (ctx : Context ω) (depth : Nat) (h : Graph) (r : Report) : Prop where
  keeps : Fix.keys r.tree ⊆ Fix.keys (refresh h depth r).tree
  adds : ctx.LinksSelf → depth ≠ 0 → ∀ n, h.find? r.root = some n → n.failed = false →
    Fix.keys r.tree ⊂ Fix.keys (refresh h depth r).tree

/-- What the next level says of a report, of whose node it may know nothing. -/
theorem refresh_cases (h : Graph) (depth : Nat) (r : Report) :
    h.find? r.root = none ∧ refresh h depth r = r ∨
    (∃ m, h.find? r.root = some m ∧ m.failed = true ∧
      refresh h depth r = { r with failed := r.failed || depth = 0, triggered := [] }) ∨
    ∃ m, h.find? r.root = some m ∧ m.failed = false ∧ (refresh h depth r).tree = m.fixes ∧
      (refresh h depth r).depth = depth := by
  cases hm : h.find? r.root with
  | none => exact .inl ⟨rfl, by rw [refresh, hm]⟩
  | some m =>
    rw [refresh_of_find? hm]
    cases hf : m.failed with
    | true => exact .inr (.inl ⟨m, rfl, hf, by simp [Reports.absorb, hf]⟩)
    | false => exact .inr (.inr ⟨m, rfl, hf, by simp [Reports.absorb, hf]⟩)

theorem widens_nextLevel (hn : (rs.map fun r => r.root.key).Nodup)
    (hb : h.bare = (prepared source (nextLevel ctx baseline rs)).bare) (hr : r ∈ rs) :
    Widens ctx depth h r := by
  rcases refresh_cases h depth r with ⟨hnone, hsame⟩ | ⟨m, hm, hf, hsame⟩ | ⟨m, hm, hf, htree, -⟩
  · refine ⟨by rw [hsame], fun _ _ n hfound => ?_⟩
    rw [hnone] at hfound
    cases hfound
  · refine ⟨by rw [hsame], fun _ _ n hfound hok => ?_⟩
    obtain rfl := Option.some.inj (hm.symm.trans hfound)
    rw [hf] at hok
    cases hok
  · obtain ⟨hc, hfixes⟩ := continues_of_find? hn hb hr hm
    rw [hfixes] at htree
    exact ⟨htree ▸ subset_widened, fun hlink _ _ _ _ => htree ▸ ssubset_widened hlink hc⟩

/-- The reports after `levels` levels: their trees have grown with their depth, and an undecided one
was measured at the last of these levels. -/
structure Sized (ctx : Context ω) (levels : Nat) (rs : Reports) : Prop where
  roots_nodup : (rs.map fun r => r.root.key).Nodup
  shallow : ∀ r ∈ rs, r.depth < levels
  current : ∀ r ∈ rs, r.isFinished = false → r.depth + 1 = levels
  large : ctx.LinksSelf → ∀ r ∈ rs, r.depth + 1 ≤ ((Fix.keys r.tree).card : Int)

theorem Sized.map {f : Report → Report} (hrs : Sized ctx levels rs)
    (hf : ∀ r, (f r).root = r.root ∧ (f r).tree = r.tree ∧ (f r).depth = r.depth ∧
      ((f r).isFinished = false → r.isFinished = false)) : Sized ctx levels (rs.map f) := by
  refine ⟨?_, ?_, ?_, fun hlink => ?_⟩
  · rw [roots_of_map fun r => (hf r).1]
    exact hrs.roots_nodup
  all_goals
    intro r' hr'
    obtain ⟨r, hr, rfl⟩ := List.mem_map.mp hr'
    obtain ⟨-, htree, hdepth, hopen⟩ := hf r
    rw [hdepth]
  · exact hrs.shallow r hr
  · exact fun hf => hrs.current r hr (hopen hf)
  · rw [htree]
    exact hrs.large hlink r hr

theorem tree_settle : (settle ctx final settled r).tree = r.tree := by
  unfold settle
  split <;> rfl

theorem triggered_settle : (settle ctx final settled r).triggered = r.triggered := by
  unfold settle
  split <;> rfl

theorem depth_settle : (settle ctx final settled r).depth = r.depth := by
  unfold settle
  split <;> rfl

theorem open_of_settle (hf : (settle ctx final settled r).isFinished = false) :
    r.isFinished = false := by
  by_contra hdone
  rw [Bool.not_eq_false] at hdone
  rw [settle_of_finished hdone, hdone] at hf
  cases hf

theorem Sized.settle (hrs : Sized ctx levels rs) :
    Sized ctx levels (rs.map (settle ctx final settled)) :=
  hrs.map fun _ => ⟨root_settle, tree_settle, depth_settle, open_of_settle⟩

/-- A report of which the next level learns nothing has nothing more to follow up. Of the others the
tree has grown. -/
theorem refresh_nextLevel (levels : Nat) (hn : (rs.map fun r => r.root.key).Nodup)
    (hb : h.bare = (prepared source (nextLevel ctx baseline rs)).bare) (hr : r ∈ rs) :
    ((refresh h levels r).depth = r.depth ∧ (refresh h levels r).tree = r.tree ∧
        ¬ Continues rs.settled (refresh h levels r)) ∨
      (refresh h levels r).depth = levels ∧ r.isFinished = false ∧
        (ctx.LinksSelf → Fix.keys r.tree ⊂ Fix.keys (refresh h levels r).tree) := by
  rcases refresh_cases h levels r with
    ⟨hnone, hsame⟩ | ⟨m, hm, -, hsame⟩ | ⟨m, hm, -, htree, hdepth⟩
  · refine .inl ⟨by rw [hsame], by rw [hsame], fun hc => ?_⟩
    rw [hsame] at hc
    rw [find?_eq_none_iff, roots_of_bare_eq hb, mem_roots_nextLevel] at hnone
    exact hnone ⟨r, hr, hc, rfl⟩
  · refine .inl ⟨by rw [hsame], by rw [hsame], fun hc => ?_⟩
    have hempty : (Reports.unfollowed rs.settled (refresh h levels r)).isEmpty = true := by
      rw [hsame]
      rfl
    rw [hc.2] at hempty
    cases hempty
  · obtain ⟨hc, hfixes⟩ := continues_of_find? hn hb hr hm
    rw [htree, hfixes]
    exact .inr ⟨hdepth, hc.1, fun hlink => ssubset_widened hlink hc⟩

theorem settled_level (hn : (rs.map fun r => r.root.key).Nodup)
    (hb : h.bare = (prepared source (nextLevel ctx baseline rs)).bare) :
    (Reports.fold rs h levels).settled = rs.settled := by
  refine settled_fold fun r hr hf => ?_
  by_contra hfound
  obtain ⟨m, hm⟩ := Option.ne_none_iff_exists'.mp hfound
  have hopen := (continues_of_find? hn hb hr hm).1.1
  rw [hf] at hopen
  cases hopen

/-- A level, and the verdicts after it: what it does not measure is decided. -/
theorem sized_level (hrs : Sized ctx levels rs)
    (hb : h.bare = (prepared source (nextLevel ctx baseline rs)).bare) :
    Sized ctx (levels + 1)
      ((rs.fold h levels).map (settle ctx false (Reports.fold rs h levels).settled)) := by
  rw [settled_level hrs.roots_nodup hb, fold_eq]
  refine ⟨?_, ?_, ?_, fun hlink => ?_⟩
  · rw [roots_of_map fun _ => root_settle, roots_of_map fun _ => root_refresh]
    exact hrs.roots_nodup
  all_goals
    rw [List.map_map]
    intro r' hr'
    obtain ⟨r, hr, rfl⟩ := List.mem_map.mp hr'
    have hshallow := hrs.shallow r hr
    rw [Function.comp_apply, depth_settle]
    rcases refresh_nextLevel levels hrs.roots_nodup hb hr with
      ⟨hdepth, htree, hstops⟩ | ⟨hdepth, hopen, hgrown⟩
    all_goals rw [hdepth]
  · omega
  · omega
  · exact fun hf => absurd (continues_of_settle hf) hstops
  · exact fun _ => rfl
  · rw [tree_settle, htree]
    exact hrs.large hlink r hr
  · have hlarge := hrs.large hlink r hr
    have hcurrent := hrs.current r hr hopen
    have hcard := Finset.card_lt_card (hgrown hlink)
    rw [tree_settle]
    omega

/-- The roots of reports, each with its tree. -/
def stems (rs : Reports) : List (Fix × List Fix) := rs.map fun r => (r.root, r.tree)

theorem stems_map {f : Report → Report} (hf : ∀ r, (f r).root = r.root ∧ (f r).tree = r.tree) :
    stems (rs.map f) = stems rs := by
  unfold stems
  rw [List.map_map]
  exact List.map_congr_left fun r _ => Prod.ext (hf r).1 (hf r).2

/-- A course from reports to others, with a number of levels on the way. Only levels change the
trees, and each of them widens these. -/
inductive Grows (ctx : Context ω) : Nat → Reports → Course → Nat → Reports → Prop
  | done {depth : Nat} {rs : Reports} : Grows ctx depth rs [] depth rs
  | told {depth levels : Nat} {rs rs' last : Reports} {rest : Course} (h : stems rs' = stems rs)
      (hrest : Grows ctx depth rs' rest levels last) :
      Grows ctx depth rs (.reports rs' :: rest) levels last
  | level {depth levels : Nat} {rs last : Reports} {g h : Graph} {t t' : Trial ω} {rest : Course}
      (hp : pass ctx g depth t = .ok h t') (hw : ∀ r ∈ rs, Widens ctx depth h r)
      (hrest : Grows ctx (depth + 1) (rs.fold h depth) rest levels last) :
      Grows ctx depth rs (.level g :: .reports (rs.fold h depth) :: rest) levels last

theorem Grows.trans (h : Grows ctx depth rs course levels rs')
    (h' : Grows ctx levels rs' rest reached last) :
    Grows ctx depth rs (course ++ rest) reached last := by
  induction h with
  | done => exact h'
  | told h _ ih => exact .told h (ih h')
  | level hp hw _ ih => exact .level hp hw (ih h')

theorem roots_of_stems (h : stems rs' = stems rs) :
    rs'.map Report.root = rs.map Report.root := by
  have hroots := congrArg (List.map Prod.fst) h
  simp only [stems, List.map_map] at hroots
  exact hroots

theorem roots_fold : (rs.fold g depth).map Report.root = rs.map Report.root := by
  rw [fold_eq, List.map_map]
  exact List.map_congr_left fun r _ => root_refresh

theorem Grows.roots (h : Grows ctx depth rs course levels last) :
    last.map Report.root = rs.map Report.root := by
  induction h with
  | done => rfl
  | told h _ ih => exact ih.trans (roots_of_stems h)
  | level _ _ _ ih => exact ih.trans roots_fold

/-- A part of an exploration, from one number of levels to another, that makes no more builds than
there are tries for `budget` levels. -/
structure Spends (ctx : Context ω) (depth : Nat) (rs : Reports) (t : Trial ω) (course : Course)
    (levels budget : Nat) (last : Reports) (t' : Trial ω) : Prop where
  grows : Grows ctx depth rs course levels last
  sized : Sized ctx levels last
  builds : t'.builds ≤ t.builds + ctx.tries * (rs.length * budget)

theorem pass_of_level {p : Graph × Reports} (hl : level ctx g depth rs t = .ok p t') :
    pass ctx g depth t = .ok p.1 t' := by
  obtain ⟨h, t₁, hp, hl⟩ := bind_eq_ok.mp hl
  cases hl
  exact hp

theorem descend_spends (hrs : Sized ctx depth rs) (hdepth : depth ≠ 0)
    (hd : descendSeen ctx depth rs budget t = .ok (course, last, reached) t') :
    Spends ctx depth rs t course (reached + 1) budget last t' ∧ reached + 1 ≤ depth + budget := by
  have hback : depth - 1 + 1 = depth := Nat.sub_add_cancel (Nat.one_le_iff_ne_zero.mpr hdepth)
  induction budget generalizing depth rs t course with
  | zero =>
    cases hd
    rw [hback]
    exact ⟨⟨.done, hrs, Nat.le_add_right _ _⟩, Nat.le_refl _⟩
  | succ budget ih =>
    rcases descendSeen_cases hd with ⟨-, rfl, rfl, rfl, rfl⟩ | ⟨p, t₁, rest, hl, hrest, rfl⟩
    · rw [hback]
      exact ⟨⟨.done, hrs, Nat.le_add_right _ _⟩, Nat.le_add_right _ _⟩
    obtain ⟨hbare, hfold, -⟩ := level_returned (arena_of_built built_nextLevel) hl
    have hp := pass_of_level hl
    have hbuilds := builds_le_of_pass (arena_of_built built_nextLevel) entered_nextLevel hp
    rw [hfold] at hrest ⊢
    obtain ⟨hspent, hreached⟩ := ih (sized_level hrs hbare) (Nat.succ_ne_zero depth) hrest rfl
    have hstems : stems ((rs.fold p.1 depth).map
        (settle ctx false (Reports.fold rs p.1 depth).settled)) = stems (rs.fold p.1 depth) :=
      stems_map fun _ => ⟨root_settle, tree_settle⟩
    refine ⟨⟨.level hp (fun r hr => widens_nextLevel hrs.roots_nodup hbare hr)
      (.told hstems hspent.grows), hspent.sized, ?_⟩, by omega⟩
    have hsize := Nat.mul_le_mul_left ctx.tries
      (size_nextLevel ctx t.bank.before hrs.roots_nodup)
    have hlater := hspent.builds
    rw [List.length_map, fold_eq, List.length_map] at hlater
    dsimp only at hbuilds hlater
    rw [Nat.mul_succ, Nat.mul_add]
    omega

theorem tree_bounded {table : Estimate.Table} : (bounded table r).tree = r.tree := by
  unfold bounded
  split <;> rfl

theorem depth_bounded {table : Estimate.Table} : (bounded table r).depth = r.depth := by
  unfold bounded
  split <;> rfl

/-- The verdicts after the first level, the levels below it, and the last verdicts. -/
theorem below_spends (hD : ctx.depth.levels? = some budget) (hrs : Sized ctx 1 rs)
    (hb : belowSeen ctx rs t = .ok (course, result) t') :
    Spends ctx 1 rs t course (result.depthReached + 1) budget result.reports t' ∧
      result.depthReached ≤ budget ∧ result.builds = t'.builds := by
  obtain ⟨D, rest, last, n, t₁, hD', hd, hfin, rfl⟩ := belowSeen_cases hb
  obtain rfl : budget = D := Option.some.inj (hD.symm.trans hD')
  have hfirst : stems (rs.map (settle ctx ctx.depth.isZero rs.settled)) = stems rs :=
    stems_map fun _ => ⟨root_settle, tree_settle⟩
  have hlast : stems (last.map (settle ctx true last.settled)) = stems last :=
    stems_map fun _ => ⟨root_settle, tree_settle⟩
  obtain ⟨hspent, hreached⟩ := descend_spends hrs.settle Nat.one_ne_zero hd
  have hresult := result_of_finish hfin
  have hkept := congrArg (fun l => l.2.1) ((keeps_finish ctx last n).of_ok hfin)
  have hbuilds := hspent.builds
  rw [List.length_map] at hbuilds
  subst hresult
  refine ⟨⟨.told hfirst (hspent.grows.trans (.told hlast .done)), hspent.sized.settle, ?_⟩,
    ?_, hkept.symm⟩
  · exact hkept.le.trans hbuilds
  · dsimp only
    omega

/-- The first level measures a report with just the tree that it starts with. -/
theorem widens_firstLevel {roots : List Fix} (hn : (roots.map Fix.key).Nodup)
    (hb : h.bare = (prepared source (firstLevel ctx baseline roots).1).bare)
    (hr : r ∈ (firstLevel ctx baseline roots).2) :
    Widens ctx 0 h r ∧ r.root.key ∈ Fix.keys r.tree := by
  obtain ⟨n, hmem, rfl⟩ := List.mem_map.mp hr
  change n ∈ (firstLevel ctx baseline roots).1.nodes at hmem
  have hown : n.root.key ∈ Fix.keys n.fixes := by
    rw [nodes_firstLevel hn] at hmem
    obtain ⟨p, -, rfl⟩ := List.mem_map.mp hmem
    simp [Node.start, Fix.mem_keys, Keyed.mem_keys_union]
  have htree : Fix.keys (Report.start n.root n.fixes).tree = Fix.keys n.fixes := by
    ext k
    rw [Fix.mem_keys, Fix.mem_keys]
    exact Keyed.mem_keys_insert.trans (or_iff_left_of_imp fun hk => hk ▸ Fix.mem_keys.mp hown)
  obtain ⟨m, hm, hfixes⟩ := find?_of_pass (arena_of_built built_firstLevel) hb hmem
  refine ⟨⟨?_, fun _ hzero => absurd rfl hzero⟩, htree ▸ hown⟩
  rcases refresh_cases h 0 (Report.start n.root n.fixes) with
    ⟨-, hsame⟩ | ⟨-, -, -, hsame⟩ | ⟨m', hm', -, hsame, -⟩
  · rw [hsame]
  · rw [hsame]
  · obtain rfl : m = m' := Option.some.inj (hm.symm.trans hm')
    rw [hsame, hfixes, htree]

theorem sized_firstLevel {roots : List Fix} (hn : (roots.map Fix.key).Nodup)
    (hb : h.bare = (prepared source (firstLevel ctx baseline roots).1).bare) :
    Sized ctx 1 (Reports.fold (firstLevel ctx baseline roots).2 h 0) := by
  have hdepth : ∀ r ∈ (firstLevel ctx baseline roots).2, (refresh h 0 r).depth = 0 := by
    intro r hr
    have hblank : r.depth = 0 := (first_report hr).2.2.2.2.2
    rcases refresh_cases h 0 r with ⟨-, hsame⟩ | ⟨-, -, -, hsame⟩ | ⟨-, -, -, -, hsame⟩
    · rw [hsame, hblank]
    · rw [hsame]
      exact hblank
    · exact hsame
  have hnonempty : ∀ r ∈ (firstLevel ctx baseline roots).2,
      0 < (Fix.keys (refresh h 0 r).tree).card := by
    intro r hr
    obtain ⟨hwidens, hown⟩ := widens_firstLevel hn hb hr
    exact Finset.card_pos.mpr ⟨_, hwidens.keeps hown⟩
  rw [fold_eq]
  refine ⟨?_, ?_, ?_, fun _ => ?_⟩
  · rw [roots_of_map fun _ => root_refresh]
    exact (honest_first : Honest ctx _).roots_nodup
  all_goals
    intro r' hr'
    obtain ⟨r, hr, rfl⟩ := List.mem_map.mp hr'
    rw [hdepth r hr]
  · exact Int.one_pos
  · exact fun _ => rfl
  · exact_mod_cast hnonempty r hr

theorem nodup_roots : ((roots ctx baseline fixes).map Fix.key).Nodup := by
  cases fixes <;> exact Fix.nodup_keys_dedupe

theorem roots_first {roots : List Fix} (hn : (roots.map Fix.key).Nodup) :
    (firstLevel ctx baseline roots).2.map Report.root = roots := by
  change ((firstLevel ctx baseline roots).1.nodes.map fun n => Report.start n.root n.fixes).map
    Report.root = roots
  rw [nodes_firstLevel hn, List.map_map, List.map_map]
  exact List.zipIdx_map_fst 0 roots

/-- What a whole exploration of `roots` comes to, if it may go `D` levels deep. -/
structure Affords (ctx : Context ω) (D : Nat) (roots : List Fix) (t : Trial ω) (course : Course)
    (result : ExplorationResult) : Prop where
  grows : ∃ first rest levels, course = .reports first :: rest ∧ first.map Report.root = roots ∧
    levels ≤ result.depthReached + 1 ∧ Grows ctx 0 first rest levels result.reports
  sized : Sized ctx (result.depthReached + 1) result.reports
  reached : result.depthReached ≤ D
  builds : result.builds ≤ t.builds + ctx.tries * (roots.length * (D + 1))

/-- An estimate of the other modules changes no tree and no depth, and counts as no build. -/
theorem sized_estimate {estimated : Reports} (hrs : Sized ctx levels rs)
    (he : estimate ctx g rs t = .ok estimated t') :
    stems estimated = stems rs ∧ Sized ctx levels estimated ∧ t'.builds = t.builds := by
  obtain ⟨table, -, rfl, -⟩ := estimate_returned he
  refine ⟨stems_map fun _ => ⟨root_bounded, tree_bounded⟩, hrs.map fun r => ?_,
    congrArg (fun l => l.2.1) ((keeps_estimate ctx g rs).of_ok he)⟩
  exact ⟨root_bounded, tree_bounded, depth_bounded, fun hf => isFinished_bounded ▸ hf⟩

theorem exploreFrom_affords (hD : ctx.depth.levels? = some budget)
    (he : exploreFromSeen ctx baseline fixes t = .ok (course, result) t') :
    Affords ctx budget (roots ctx baseline fixes) t course result := by
  have hn : ((roots ctx baseline fixes).map Fix.key).Nodup := nodup_roots
  obtain ⟨g, first, hstart⟩ : ∃ g first,
      firstLevel ctx baseline (roots ctx baseline fixes) = (g, first) := ⟨_, _, rfl⟩
  have hg : g = (firstLevel ctx baseline (roots ctx baseline fixes)).1 := by rw [hstart]
  have hreports : first = (firstLevel ctx baseline (roots ctx baseline fixes)).2 := by rw [hstart]
  have hroots : first.map Report.root = roots ctx baseline fixes := hreports ▸ roots_first hn
  rcases exploreFromSeen_cases hstart he with
    ⟨-, rfl, hc, rfl⟩ | ⟨p, t₁, estimated, t₂, rest, hl, hest, hb, rfl⟩
  · obtain rfl := result_of_conclude hc
    exact ⟨⟨[], [], 0, rfl, hroots, Nat.zero_le _, .done⟩,
      ⟨List.nodup_nil, by simp, by simp, fun _ => by simp⟩, Nat.zero_le _, Nat.le_add_right _ _⟩
  have harena : g.Arena := hg ▸ arena_of_built built_firstLevel
  obtain ⟨hbare, hfold, -⟩ := level_returned harena hl
  have hp := pass_of_level hl
  have hbuilds := builds_le_of_pass harena (hg ▸ entered_firstLevel) hp
  have hsize : g.size = first.length := by
    rw [hg, hreports]
    exact (List.length_map _).symm
  have hmeasured : Sized ctx 1 p.2 := by
    rw [hfold, hreports]
    exact sized_firstLevel hn (hg ▸ hbare)
  obtain ⟨hstems, hestimated, hkept⟩ :
      stems estimated = stems p.2 ∧ Sized ctx 1 estimated ∧ t₂.builds = t₁.builds := by
    rcases hest with ⟨-, rfl, rfl⟩ | hest
    · exact ⟨rfl, hmeasured, rfl⟩
    · exact sized_estimate hmeasured hest
  obtain ⟨hspent, hreached, hcount⟩ := below_spends hD hestimated hb
  have hlength : estimated.length = first.length := by
    have hlen := congrArg List.length hstems
    simpa [stems, hfold, fold_eq] using hlen
  rw [hfold] at hstems ⊢
  refine ⟨⟨first, _, _, rfl, hroots, Nat.le_refl _,
    .level hp (fun r hr => ?_) (.told hstems hspent.grows)⟩, hspent.sized, hreached, ?_⟩
  · exact (widens_firstLevel hn (hg ▸ hbare) (hreports ▸ hr)).1
  · have hlater := hspent.builds
    rw [hsize] at hbuilds
    rw [hlength, hkept] at hlater
    dsimp only at hbuilds
    rw [hcount, ← hroots, List.length_map, Nat.mul_succ, Nat.mul_add]
    omega

/-- Where the baseline does not build, nothing is tried. -/
theorem affords_hopeless {roots : List Fix} {D : Nat} (hn : (roots.map Fix.key).Nodup)
    (hc : conclude (roots.map hopeless) 0 false t = .ok result t') :
    Affords ctx D roots t [.reports result.reports] result := by
  obtain rfl := result_of_conclude hc
  refine ⟨⟨_, [], 0, rfl, ?_, Nat.zero_le _, .done⟩, ⟨?_, ?_, ?_, fun _ => ?_⟩, Nat.zero_le _,
    Nat.le_add_right _ _⟩
  · exact (List.map_map ..).trans (List.map_id _)
  · rw [List.map_map]
    exact hn
  all_goals
    intro r hr
    obtain ⟨root, -, rfl⟩ := List.mem_map.mp hr
  · exact Int.one_pos
  · intro hopen
    cases hopen
  · exact Int.le_refl 1

theorem explore_affords (hD : ctx.depth.levels? = some budget)
    (he : exploreSeen ctx fixes t = .ok (course, result) t') :
    ∃ (roots : List Fix) (t₁ : Trial ω), (∀ fs, fixes = some fs → roots = Fix.dedupe fs) ∧
      t₁.builds = t.builds + 1 ∧ Affords ctx budget roots t₁ course result := by
  rcases exploreSeen_cases he with ⟨e, t₁, hbuild, hc, rfl⟩ | ⟨ds, t₁, hbuild, he⟩
  all_goals
    have hbuilds : t₁.builds = t.builds + 1 :=
      congrArg (fun l => l.2.1) (ledger_of_buildBaseline ctx hbuild)
  · refine ⟨Fix.dedupe (fixes.getD []), _, fun fs hfs => ?_, ?_,
      affords_hopeless Fix.nodup_keys_dedupe hc⟩
    · rw [hfs]
      rfl
    · exact hbuilds
  · refine ⟨roots ctx ⟨ds⟩ fixes, _, fun fs hfs => ?_, ?_, exploreFrom_affords hD he⟩
    · rw [hfs]
      rfl
    · exact hbuilds

/-- There is a report of each root. -/
theorem roots_of_explore {given : List Fix} (hD : ctx.depth.levels? = some budget)
    (he : explore ctx (some given) t = .ok result t') :
    result.reports.map Report.root = Fix.dedupe given := by
  obtain ⟨course, hseen⟩ := seen_of_explore he
  obtain ⟨roots, t₁, hroots, -, haffords⟩ := explore_affords hD hseen
  obtain ⟨first, rest, levels, -, hfirst, -, hgrows⟩ := haffords.grows
  rw [hgrows.roots, hfirst, hroots given rfl]

/-- A first exploration of `n` different roots, which may go `D` levels deep, makes at most
`1 + 2 * n * (D + 1)` builds, or `1 + n * (D + 1)` where nothing is built again. Along its course no
tree loses a fix. If what goes in with a fix contains it, every level but the first adds to the
trees of the reports that it measures, so that a tree has more fixes than its report is deep. -/
theorem explore_within_budget {world : ω} {D : Nat} (hD : ctx.depth.levels? = some D)
    (he : explore ctx fixes (Trial.start world) = .ok result t') :
    result.builds ≤ 1 + 2 * result.reports.length * (D + 1) ∧
      (ctx.retry = false → result.builds ≤ 1 + result.reports.length * (D + 1)) ∧
      result.depthReached ≤ D ∧
      (result.reports.map fun r => r.root.key).Nodup ∧
      (∀ fs, fixes = some fs → result.reports.length = (Fix.keys fs).card) ∧
      (∃ first rest levels, levels ≤ result.depthReached + 1 ∧
        exploreSeen ctx fixes (Trial.start world) = .ok (.reports first :: rest, result) t' ∧
        Grows ctx 0 first rest levels result.reports) ∧
      ∀ r ∈ result.reports, r.depth ≤ result.depthReached ∧
        (ctx.LinksSelf → r.depth + 1 ≤ ((Fix.keys r.tree).card : Int)) := by
  obtain ⟨course, hseen⟩ := seen_of_explore he
  obtain ⟨roots, t₁, hroots, hstart, haffords⟩ := explore_affords hD hseen
  obtain ⟨first, rest, levels, rfl, hfirst, hlevels, hgrows⟩ := haffords.grows
  have hlength : result.reports.length = roots.length := by
    rw [← hfirst, ← hgrows.roots, List.length_map]
  have hbuilds : result.builds ≤ 1 + ctx.tries * (result.reports.length * (D + 1)) := by
    have hone : t₁.builds = 1 := hstart
    have hspent := haffords.builds
    rwa [hone, ← hlength] at hspent
  refine ⟨?_, fun hretry => ?_, haffords.reached, haffords.sized.roots_nodup, fun fs hfs => ?_,
    ⟨first, rest, levels, hlevels, hseen, hgrows⟩, fun r hr => ⟨?_, fun hlink => ?_⟩⟩
  · have htries : ctx.tries ≤ 2 := by
      unfold Context.tries
      split <;> omega
    rw [Nat.mul_assoc]
    exact hbuilds.trans (Nat.add_le_add_left (Nat.mul_le_mul_right _ htries) 1)
  · have htries : ctx.tries = 1 := by rw [Context.tries, hretry]; rfl
    rwa [htries, Nat.one_mul] at hbuilds
  · rw [hlength, hroots fs hfs, ← Fix.keys_dedupe, Fix.keys,
      List.toFinset_card_of_nodup Fix.nodup_keys_dedupe, List.length_map]
  · exact Int.lt_add_one_iff.mp (haffords.sized.shallow r hr)
  · exact haffords.sized.large hlink r hr

/-- The builds of fields of which one annotation asks for a second, and that for a third. -/
def chainBuild (held : List Fix) : List Diagnostic :=
  let missing (f : Fix) : List Diagnostic := [⟨"null", "", .ofType "A", [f]⟩]
  if Keyed.has Fix.key (Fix.ofField "A" "x").key held then
    if Keyed.has Fix.key (Fix.ofField "A" "y").key held then
      if Keyed.has Fix.key (Fix.ofField "A" "z").key held then [] else missing (.ofField "A" "z")
    else missing (.ofField "A" "y")
  else []

/-- Annotations that ask for each other, and one that does not build. -/
def chained (D : Int) : Context (List Fix) :=
  { workspace := .inMemory fun held =>
      if Keyed.has Fix.key (Fix.ofField "B" "w").key held then .error (.refused "")
      else .ok (chainBuild held)
    regions := fun l => some [l.region], mode := .targetOnly, depth := .whole D, retry := true
    declared := fun _ => true, link := fun _ f => [f], destructive := fun _ => false, modules := [] }

/-- Two roots fail together and are built again, and one of them is followed up twice. -/
theorem explore_within_budget_chained :
    ∃ result t', explore (chained 2) (some [.ofField "A" "x", .ofField "B" "w"]) (Trial.start []) =
        .ok result t' ∧ result.builds = 6 ∧ result.builds ≤ 1 + 2 * 2 * (2 + 1) ∧
      (result.reports.map fun r => (r.depth, (Fix.keys r.tree).card)) = [(2, 3), (0, 1)] ∧
      ∀ r ∈ result.reports, r.depth ≤ 2 ∧ r.depth + 1 ≤ ((Fix.keys r.tree).card : Int) := by
  have hrun : (match explore (chained 2) (some [.ofField "A" "x", .ofField "B" "w"])
      (Trial.start []) with
      | .ok result _ => (result.builds, result.depthReached,
          result.reports.map fun r => (r.depth, (Fix.keys r.tree).card))
      | .error _ _ => (0, 0, [])) = (6, 2, [(2, 3), (0, 1)]) := by
    decide +kernel
  cases he : explore (chained 2) (some [.ofField "A" "x", .ofField "B" "w"]) (Trial.start []) with
  | error e t' => simp [he] at hrun
  | ok result t' =>
    simp only [he, Prod.mk.injEq] at hrun
    obtain ⟨hbuilds, hreached, hreports⟩ := hrun
    obtain ⟨hmost, -, -, -, -, -, hsized⟩ := explore_within_budget (D := 2) rfl he
    have hlength : result.reports.length = 2 := by
      rw [← List.length_map fun r : Report => (r.depth, (Fix.keys r.tree).card), hreports]
      rfl
    have hlink : (chained 2).LinksSelf := fun _ f => by simp [chained, Fix.mem_keys]
    rw [hlength] at hmost
    refine ⟨result, t', rfl, hbuilds, hmost, hreports, fun r hr => ?_⟩
    obtain ⟨hdepth, hlarge⟩ := hsized r hr
    rw [hreached] at hdepth
    exact ⟨hdepth, hlarge hlink⟩

end Exploration
end FixTrial
