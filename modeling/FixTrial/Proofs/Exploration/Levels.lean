import FixTrial.Exploration.Deep
import FixTrial.Proofs.Act
import FixTrial.Proofs.Graph.Arena

/-! The baseline, and the graphs of the levels: which roots they hold. -/
namespace FixTrial.Exploration
open FixTrial.Graph
variable {ω : Type} {ctx : Context ω} {baseline : Snapshot} {rs : Reports} {g : Graph}
  {fixes : List Fix} {r : Report} {k : FixKey} {t : Trial ω}

theorem log_bind {β : Type} (e : Event) (f : Unit → Act (Trial ω) β) :
    (Trial.log e >>= f) t = f () { t with journal := t.journal ++ [e] } := rfl

theorem buildBaseline_of_ok {ds : List Diagnostic} {site : Site ω}
    (h : ctx.workspace.baseline t.site = .ok ds site) :
    buildBaseline ctx t = .ok (.ok ds) { t with site, builds := t.builds + 1 } := by
  have hsite : Trial.onSite ctx.workspace.baseline { t with builds := t.builds + 1 } =
      .ok ds { t with site, builds := t.builds + 1 } := by
    simp only [Trial.onSite, h]
  have hmap : ((.ok : _ → Except WorkspaceError _) <$> Trial.onSite ctx.workspace.baseline)
      { t with builds := t.builds + 1 } =
        .ok (.ok ds) { t with site, builds := t.builds + 1 } := by
    change EStateM.map _ _ _ = _
    rw [EStateM.map, hsite]
  change EStateM.tryCatch _ _ { t with builds := t.builds + 1 } = _
  rw [EStateM.tryCatch, hmap]

theorem built_foldl_insert (linked : Fix → List Fix) (hg : g.Built) :
    (fixes.foldl (fun g root => (g.insert root (linked root)).1) g).Built := by
  induction fixes generalizing g with
  | nil => exact hg
  | cons f rest ih => exact ih (hg.insert f (linked f))

theorem built_firstLevel : (firstLevel ctx baseline fixes).1.Built :=
  built_foldl_insert _ .empty

/-- Each of several new roots gets a node of its own. -/
theorem nodes_foldl_insert {α : Type} {xs : List α} (root : α → Fix) (linked : α → List Fix)
    (hn : ((g.nodes.map fun n => n.root.key) ++ xs.map fun x => (root x).key).Nodup) :
    (xs.foldl (fun g x => (g.insert (root x) (linked x)).1) g).nodes =
      g.nodes ++ (xs.zipIdx g.size).map fun p => .start p.2 (root p.1) (linked p.1) := by
  induction xs generalizing g with
  | nil => simp
  | cons x rest ih =>
    have hx : g.find? (root x) = none := by
      rw [find?_eq_none_iff]
      intro hmem
      exact (List.nodup_append.mp hn).2.2 _ hmem _ List.mem_cons_self rfl
    have hinsert : (g.insert (root x) (linked x)).1 =
        { g with nodes := g.nodes ++ [.start g.size (root x) (linked x)] } := by
      unfold Graph.insert
      rw [hx]
    rw [List.foldl_cons, hinsert, ih (by simpa [Node.start] using hn)]
    simp [size]

theorem nodes_firstLevel (hn : (fixes.map Fix.key).Nodup) :
    (firstLevel ctx baseline fixes).1.nodes =
      fixes.zipIdx.map fun p => .start p.2 p.1 (ctx.link baseline p.1) := by
  change (fixes.foldl (fun g f => (g.insert (id f) (ctx.link baseline f)).1) Graph.empty).nodes = _
  rw [nodes_foldl_insert id _ (by simpa [Graph.empty] using hn)]
  rfl

theorem fresh_firstLevel (ctx : Context ω) (baseline : Snapshot)
    (hn : (fixes.map Fix.key).Nodup) :
    ∀ n ∈ (firstLevel ctx baseline fixes).1.nodes, n.failed = false := by
  rw [nodes_firstLevel hn]
  intro n hmem
  obtain ⟨p, -, rfl⟩ := List.mem_map.mp hmem
  rfl

theorem reports_of_size_zero (h : (firstLevel ctx baseline fixes).1.size = 0) :
    (firstLevel ctx baseline fixes).2 = [] := by
  change List.map _ (firstLevel ctx baseline fixes).1.nodes = []
  rw [List.length_eq_zero_iff.mp h, List.map_nil]

/-- A report enters the next level if it is undecided and has something to follow up. -/
def Continues (settled : List Fix) (r : Report) : Prop :=
  r.isFinished = false ∧ (Reports.unfollowed settled r).isEmpty = false

theorem exists_unfollowed {settled : List Fix} (hc : Continues settled r) :
    ∃ f, f ∈ Reports.unfollowed settled r :=
  List.exists_mem_of_ne_nil _ fun hnil => by simp [Continues, hnil] at hc

theorem mem_keys_unfollowed {settled : List Fix} :
    k ∈ (Reports.unfollowed settled r).map Fix.key ↔
      k ∈ r.triggered.map Fix.key ∧ k ∉ r.tree.map Fix.key ∧ k ∉ settled.map Fix.key := by
  rw [Reports.unfollowed, Report.followups, Keyed.mem_keys_without, Keyed.mem_keys_without,
    and_assoc]

theorem mem_keys_settled : k ∈ rs.settled.map Fix.key ↔
    ∃ r ∈ rs, r.isFinished = true ∧ k ∈ r.tree.map Fix.key := by
  rw [Reports.settled, Keyed.mem_keys_distinct, List.map_flatMap, List.mem_flatMap]
  simp only [List.mem_filter, and_assoc]

/-- One report entered into the graph of the next level, if it continues. -/
def enter (ctx : Context ω) (baseline : Snapshot) (settled : List Fix) (g : Graph) (r : Report) :
    Graph :=
  let followups := Reports.unfollowed settled r
  if r.isFinished || followups.isEmpty then g
  else
    let linked := followups.flatMap (ctx.link baseline)
    (g.insert r.root (Keyed.union Fix.key r.tree linked)).1

theorem nextLevel_eq : nextLevel ctx baseline rs = rs.foldl (enter ctx baseline rs.settled) .empty :=
  rfl

instance {settled : List Fix} : Decidable (Continues settled r) :=
  inferInstanceAs (Decidable (_ ∧ _))

/-- What goes in for a report that continues: its tree, what it follows up, and what goes in with
that. -/
def widened (ctx : Context ω) (baseline : Snapshot) (settled : List Fix) (r : Report) : List Fix :=
  Keyed.union Fix.key r.tree ((Reports.unfollowed settled r).flatMap (ctx.link baseline))

theorem enter_eq {settled : List Fix} : enter ctx baseline settled g r =
    if Continues settled r then (g.insert r.root (widened ctx baseline settled r)).1 else g := by
  unfold enter
  by_cases hc : Continues settled r
  · rw [if_pos hc]
    simp only [hc.1, hc.2, Bool.or_self, Bool.false_eq_true, if_false]
    rfl
  · rw [if_neg hc, if_pos]
    unfold Continues at hc
    simpa [imp_iff_not_or] using hc

/-- The next level has a node for each report that continues. -/
theorem nodes_nextLevel (ctx : Context ω) (baseline : Snapshot)
    (hn : (rs.map fun r => r.root.key).Nodup) : (nextLevel ctx baseline rs).nodes =
      ((rs.filter fun r => decide (Continues rs.settled r)).zipIdx).map fun p =>
        .start p.2 p.1.root (widened ctx baseline rs.settled p.1) := by
  have hfilter : nextLevel ctx baseline rs =
      (rs.filter fun r => decide (Continues rs.settled r)).foldl
        (fun g r => (g.insert r.root (widened ctx baseline rs.settled r)).1) .empty := by
    rw [nextLevel_eq, List.foldl_filter]
    congr 1
    funext g r
    simp only [enter_eq, decide_eq_true_eq]
  rw [hfilter, nodes_foldl_insert (fun r : Report => r.root)]
  · rfl
  · exact hn.sublist (by simpa [Graph.empty] using List.filter_sublist.map _)

theorem node_of_continues (ctx : Context ω) (baseline : Snapshot)
    (hn : (rs.map fun r => r.root.key).Nodup) (hr : r ∈ rs) (hc : Continues rs.settled r) :
    ∃ i, .start i r.root (widened ctx baseline rs.settled r) ∈ (nextLevel ctx baseline rs).nodes := by
  have hmem : r ∈ rs.filter fun r => decide (Continues rs.settled r) :=
    List.mem_filter.mpr ⟨hr, decide_eq_true hc⟩
  obtain ⟨i, hi⟩ := List.getElem?_of_mem hmem
  rw [nodes_nextLevel ctx baseline hn]
  exact ⟨i, List.mem_map_of_mem (a := (r, i)) (List.mem_zipIdx_iff_getElem?.mpr hi)⟩

theorem fresh_nextLevel (ctx : Context ω) (baseline : Snapshot)
    (hn : (rs.map fun r => r.root.key).Nodup) :
    ∀ n ∈ (nextLevel ctx baseline rs).nodes, n.failed = false := by
  rw [nodes_nextLevel ctx baseline hn]
  intro n hmem
  obtain ⟨p, -, rfl⟩ := List.mem_map.mp hmem
  rfl

theorem size_nextLevel (ctx : Context ω) (baseline : Snapshot)
    (hn : (rs.map fun r => r.root.key).Nodup) : (nextLevel ctx baseline rs).size ≤ rs.length := by
  rw [size, nodes_nextLevel ctx baseline hn, List.length_map, List.length_zipIdx]
  exact List.length_filter_le _ _

theorem built_enter {settled : List Fix} (hg : g.Built) :
    (enter ctx baseline settled g r).Built := by
  rw [enter_eq]
  split
  · exact hg.insert _ _
  · exact hg

theorem mem_roots_enter {settled : List Fix} :
    k ∈ (enter ctx baseline settled g r).nodes.map (fun n => n.root.key) ↔
      k ∈ g.nodes.map (fun n => n.root.key) ∨ Continues settled r ∧ k = r.root.key := by
  rw [enter_eq]
  split
  next hc => rw [mem_roots_insert, and_iff_right hc]
  next hc => simp [hc]

theorem built_nextLevel : (nextLevel ctx baseline rs).Built := by
  rw [nextLevel_eq]
  generalize rs.settled = settled
  have hall : ∀ (rs : Reports) (g : Graph), g.Built →
      (rs.foldl (enter ctx baseline settled) g).Built := by
    intro rs
    induction rs with
    | nil => exact fun _ hg => hg
    | cons r rest ih => exact fun g hg => ih _ (built_enter hg)
  exact hall rs .empty .empty

theorem mem_roots_nextLevel :
    k ∈ (nextLevel ctx baseline rs).nodes.map (fun n => n.root.key) ↔
      ∃ r ∈ rs, Continues rs.settled r ∧ k = r.root.key := by
  rw [nextLevel_eq]
  generalize rs.settled = settled
  have hall : ∀ (rs : Reports) (g : Graph),
      k ∈ (rs.foldl (enter ctx baseline settled) g).nodes.map (fun n => n.root.key) ↔
        k ∈ g.nodes.map (fun n => n.root.key) ∨ ∃ r ∈ rs, Continues settled r ∧ k = r.root.key := by
    intro rs
    induction rs with
    | nil => simp
    | cons r rest ih =>
      intro g
      rw [List.foldl_cons, ih, mem_roots_enter, or_assoc]
      simp only [List.mem_cons, exists_eq_or_imp]
  rw [hall]
  simp [Graph.empty]

theorem size_nextLevel_eq_zero :
    (nextLevel ctx baseline rs).size = 0 ↔ ∀ r ∈ rs, ¬ Continues rs.settled r := by
  have hempty : (nextLevel ctx baseline rs).size = 0 ↔
      ∀ k, k ∉ (nextLevel ctx baseline rs).nodes.map fun n => n.root.key := by
    rw [size, List.length_eq_zero_iff, ← List.eq_nil_iff_forall_not_mem, List.map_eq_nil_iff]
  rw [hempty]
  constructor
  · intro h r hr hc
    exact h r.root.key (mem_roots_nextLevel.mpr ⟨r, hr, hc, rfl⟩)
  · intro h k hk
    obtain ⟨r, hr, hc, -⟩ := mem_roots_nextLevel.mp hk
    exact h r hr hc

end FixTrial.Exploration
