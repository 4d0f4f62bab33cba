import FixTrial.Proofs.Exploration.Estimated
import FixTrial.Proofs.Exploration.Growth

/-!
Where the fixes of a level come from. A level is opened for what the builds before it brought up, so
that every fix that it tries with a root goes in with that, or with one that a build of the root's
own tree reported.
-/
namespace FixTrial
open Act

theorem Keyed.mem_without {α κ : Type} [DecidableEq κ] {key : α → κ} {xs ys : List α} {x : α} :
    x ∈ without key xs ys ↔ x ∈ xs ∧ key x ∉ ys.map key := by
  simp [without, Keyed.has]

/-- What a measurement brings up is declared, new to the node, and new to one of its regions. -/
theorem Node.of_mem_triggered {n : Node} {bank : Bank} {declared : Location → Bool} {f : Fix}
    (h : f ∈ (n.measure bank declared).triggered) : declared f.location = true ∧
      f.key ∉ n.fixes.map Fix.key ∧ ∃ r ∈ n.regions, f ∈ bank.newFixesIn r := by
  obtain ⟨hfound, hkept⟩ := List.mem_filter.mp h
  rw [Bool.and_eq_true, Bool.not_eq_true', Keyed.has_eq_false_iff] at hkept
  have hregion : ∀ (rs : List Region) (fs : List Fix),
      f ∈ rs.foldl (fun fs r => Keyed.union Fix.key fs (bank.newFixesIn r)) fs →
        f ∈ fs ∨ ∃ r ∈ rs, f ∈ bank.newFixesIn r := by
    intro rs
    induction rs with
    | nil => exact fun fs hf => .inl hf
    | cons r rest ih =>
      intro fs hf
      rcases ih _ hf with hunion | ⟨s, hs, hnew⟩
      · rcases Keyed.mem_of_mem_union hunion with hold | hnew
        · exact .inl hold
        · exact .inr ⟨r, List.mem_cons_self, hnew⟩
      · exact .inr ⟨s, List.mem_cons_of_mem r hs, hnew⟩
  rcases hregion n.regions [] hfound with hnil | hnew
  · exact absurd hnil List.not_mem_nil
  · exact ⟨hkept.2, hkept.1, hnew⟩

/-- The trial, with a record that a level is opened. -/
def Trial.opened {ω : Type} (t : Trial ω) (depth : Nat) (g : Graph) : Trial ω :=
  { t with journal := t.journal ++ [.level depth g.size] }

namespace Exploration
open FixTrial.Graph

/-- What comes after the builds of a level: after the first one an estimate, if there are modules to
ask, and then the verdicts. -/
def weigh {ω : Type} (ctx : Context ω) (depth : Nat) (g : Graph) (rs : Reports) :
    Act (Trial ω) Reports := do
  let rs ← if depth = 0 && !ctx.modules.isEmpty then estimate ctx g rs else pure rs
  decideReports ctx (depth = 0 && ctx.depth.isZero) rs

/-- A level of an exploration of a workspace with the baseline `base` is opened, with what was built
so far: the first with the roots, and each later one with what is to be followed up. -/
inductive Opens {ω : Type} (ctx : Context ω) (fixes : Option (List Fix)) (t : Trial ω)
    (base : List Diagnostic) : Nat → Graph → Reports → List (GroupBuild ω) → Trial ω → Prop
  | first {g : Graph} {rs : Reports} {t₁ : Trial ω}
      (hbase : buildBaseline ctx { t with journal := t.journal ++ [.started ctx.depth ctx.mode] } =
        .ok (.ok base) t₁)
      (hlevel : firstLevel ctx ⟨base⟩ (roots ctx ⟨base⟩ fixes) = (g, rs)) :
      Opens ctx fixes t base 0 g rs [] (Trial.opened { t₁ with
        bank := .baseline base, journal := t₁.journal ++ [.baselineBuilt base.length] } 0 g)
  | next {depth : Nat} {g h : Graph} {rs folded decided : Reports} {bs cs : List (GroupBuild ω)}
      {s s₁ s₂ : Trial ω} (ho : Opens ctx fixes t base depth g rs bs s)
      (hl : levelBuilds ctx g depth rs s = .ok (cs, h, folded) s₁)
      (hw : weigh ctx depth h folded s₁ = .ok decided s₂)
      (hsize : (nextLevel ctx s₂.bank.before decided).size ≠ 0) :
      Opens ctx fixes t base (depth + 1) (nextLevel ctx s₂.bank.before decided) decided (bs ++ cs)
        (s₂.opened (depth + 1) (nextLevel ctx s₂.bank.before decided))

/-- A build of the tree of a report brought a fix up: the fix is declared, not in the tree, and
resolves something in a region that the tree impacts, and nothing there in the baseline. -/
structure BringsUp {ω : Type} (ctx : Context ω) (base : List Diagnostic) (b : GroupBuild ω)
    (r : Report) (f : Fix) : Prop where
  tried : ∃ n ∈ b.before.members b.group, n.root = r.root ∧ n.fixes = r.tree
  reported : ∃ m ∈ b.after.members b.group, m.root = r.root ∧ f ∈ m.triggered
  declared : ctx.declared f.location = true
  new : f.key ∉ r.tree.map Fix.key
  resolves : ∃ ds, b.Succeeds ctx.workspace ds ∧ ∃ region ∈ ctx.regions.ofFixes r.tree,
    f ∈ Snapshot.fixesIn ⟨ds⟩ region ∧ f.key ∉ (Snapshot.fixesIn ⟨base⟩ region).map Fix.key

/-- As a level is opened, an undecided report has a fix left to follow up. No decided report has it
in its tree, and a build at an earlier level brought it up. -/
structure Selected {ω : Type} (ctx : Context ω) (base : List Diagnostic) (depth : Nat)
    (rs : Reports) (bs : List (GroupBuild ω)) (r : Report) (f : Fix) : Prop where
  mem : r ∈ rs
  pending : r.isFinished = false
  left : f ∈ Reports.unfollowed rs.settled r
  free : ∀ r' ∈ rs, r'.isFinished = true → f.key ∉ r'.tree.map Fix.key
  source : ∃ b ∈ bs, b.depth < depth ∧ BringsUp ctx base b r f

/-- A fix may be tried with a root at a level, by its key: it is the root, or goes in with that, or
with a fix that was selected for the root's report as this level or one before it was opened. -/
inductive Warranted {ω : Type} (ctx : Context ω) (fixes : Option (List Fix)) (t : Trial ω)
    (base : List Diagnostic) (root : Fix) (depth : Nat) : FixKey → Prop
  | root : Warranted ctx fixes t base root depth root.key
  | linked {k : FixKey} (h : k ∈ (ctx.link ⟨base⟩ root).map Fix.key) :
      Warranted ctx fixes t base root depth k
  | followed {k : FixKey} {f : Fix} {d : Nat} {g : Graph} {rs : Reports} {r : Report}
      {bs : List (GroupBuild ω)} {s : Trial ω} (hd : d ≤ depth)
      (ho : Opens ctx fixes t base d g rs bs s) (hroot : r.root = root)
      (hf : Selected ctx base d rs bs r f) (h : k ∈ (ctx.link ⟨base⟩ f).map Fix.key) :
      Warranted ctx fixes t base root depth k

variable {ω : Type} {ctx : Context ω} {fixes : Option (List Fix)} {t s s' : Trial ω}
  {base : List Diagnostic} {depth d : Nat} {g h : Graph} {rs rs' : Reports} {r r' : Report}
  {b : GroupBuild ω} {bs cs : List (GroupBuild ω)} {root f : Fix} {k : FixKey} {m n : Node}
  {source : RegionSource}

theorem Warranted.mono (hk : Warranted ctx fixes t base root d k) (hd : d ≤ depth) :
    Warranted ctx fixes t base root depth k := by
  cases hk with
  | root => exact .root
  | linked h => exact .linked h
  | followed hi ho hroot hf h => exact .followed (Nat.le_trans hi hd) ho hroot hf h

/-- At the first level nothing was selected yet. -/
theorem Warranted.first (hk : Warranted ctx fixes t base root 0 k) :
    k = root.key ∨ k ∈ (ctx.link ⟨base⟩ root).map Fix.key := by
  cases hk with
  | root => exact .inl rfl
  | linked h => exact .inr h
  | followed hi _ _ hf _ =>
    obtain ⟨b, -, hbelow, -⟩ := hf.source
    omega

/-- What a pass says of a node is of a node that went into it. -/
theorem node_of_pass (hb : h.bare = (prepared source g).bare) (hm : m ∈ h.nodes) :
    ∃ n ∈ g.nodes, n.root = m.root ∧ n.fixes = m.fixes := by
  obtain ⟨j, hj⟩ := List.getElem?_of_mem hm
  obtain ⟨p, hp, hpm⟩ := getElem?_of_bare_eq hb.symm hj
  have hroot : p.root = m.root := Node.root_of_bare_eq hpm
  have hfixes : p.fixes = m.fixes := Node.fixes_of_bare_eq hpm
  change (g.updateRegions source).nodes[j]? = some p at hp
  rw [updateRegions_nodes, List.getElem?_map] at hp
  obtain ⟨n, hn, rfl⟩ := Option.map_eq_some_iff.mp hp
  exact ⟨n, List.mem_of_getElem? hn, hroot, hfixes⟩

theorem BringsUp.congr (hb : BringsUp ctx base b r f) (hroot : r'.root = r.root)
    (htree : r'.tree = r.tree) : BringsUp ctx base b r' f := by
  obtain ⟨htried, hreported, hdeclared, hnew, hresolves⟩ := hb
  rw [← hroot] at htried hreported
  rw [← htree] at htried hnew hresolves
  exact ⟨htried, hreported, hdeclared, hnew, hresolves⟩

/-- What a node triggers after a pass was brought up by one of its builds. -/
theorem bringsUp_of_pass (hg : g.Arena) (hentered : Entered g)
    (hp : passBuilds ctx g depth s = .ok (bs, h) s') (hbank : s.bank.before = ⟨base⟩)
    (hm : h.find? root = some m) (hf : f ∈ m.triggered) (hroot : r.root = m.root)
    (htree : r.tree = m.fixes) : ∃ b ∈ bs, b.depth = depth ∧ BringsUp ctx base b r f := by
  obtain ⟨htrail, b, hb, j, hj, p, hpj, -, report, hcame, hlearned⟩ :=
    learned_of_pass hg hentered hp hm
  cases report with
  | none =>
    have hnone : m.triggered = [] := by rw [hlearned]; rfl
    rw [hnone] at hf
    exact absurd hf List.not_mem_nil
  | some ds =>
    obtain ⟨hsound, hat, hbare⟩ := htrail.sound b hb
    obtain ⟨n, hn, hnp⟩ := getElem?_of_bare_eq hbare hpj
    have hmem : n ∈ b.before.members b.group := mem_members.mpr ⟨j, hj, hn⟩
    have hmeasured : m = p.measure ⟨⟨base⟩, ⟨ds⟩⟩ ctx.declared := by rw [hlearned, hbank]; rfl
    have hnroot : n.root = r.root := by
      rw [hroot, hmeasured]
      exact Node.root_of_bare_eq hnp
    have hptree : p.fixes = r.tree := by
      rw [htree, hmeasured]
      rfl
    have hntree : n.fixes = r.tree := (Node.fixes_of_bare_eq hnp).trans hptree
    have hregions : p.regions = ctx.regions.ofFixes p.fixes :=
      regions_of_updateRegions (List.mem_of_getElem? hpj)
    -- the record of the build says the same of the node that it started from
    have hfailed : n.failed = p.failed := by
      have hfresh : ∀ q ∈ (prepared ctx.regions g).nodes, q.failed = false :=
        fresh_prepared fun q hq => (hentered q hq).2
      rw [hsound.fresh n hmem, hfresh p (List.mem_of_getElem? hpj)]
    have hafter : b.after.nodes[j]? = some m := by
      have hstart : b.start.bank.before = s.bank.before := (htrail.bank.2 b hb).1
      rw [hcame.nodes j, hn, Option.map_some, if_pos hj, hstart, hlearned,
        Node.learn_congr hnp hfailed]
    have hreported : ∃ m ∈ b.after.members b.group, m.root = r.root ∧ f ∈ m.triggered :=
      ⟨m, mem_members.mpr ⟨j, hj, hafter⟩, hroot.symm, hf⟩
    rw [hmeasured] at hf
    obtain ⟨hdeclared, hnew, region, hregion, hfound⟩ := Node.of_mem_triggered hf
    rw [hregions, hptree] at hregion
    rw [hptree] at hnew
    have hresolves := Keyed.mem_without.mp hfound
    exact ⟨b, hb, hat, ⟨n, hmem, hnroot, hntree⟩, hreported, hdeclared, hnew, ds,
      succeeds_of_came hcame rfl, region, hregion, hresolves⟩

/-- Every node of a level is of one of the roots, and may have the fixes that it has. -/
def Grounded (ctx : Context ω) (fixes : Option (List Fix)) (t : Trial ω) (base : List Diagnostic)
    (depth : Nat) (g : Graph) : Prop :=
  ∀ n ∈ g.nodes, n.root ∈ roots ctx ⟨base⟩ fixes ∧
    ∀ k ∈ n.fixes.map Fix.key, Warranted ctx fixes t base n.root depth k

/-- Before a level every report is of one of the roots, its tree may be tried with that, and what it
triggered was brought up by a build at an earlier level. -/
structure Traced (ctx : Context ω) (fixes : Option (List Fix)) (t : Trial ω)
    (base : List Diagnostic) (depth : Nat) (rs : Reports) (bs : List (GroupBuild ω)) : Prop where
  roots : rs.map Report.root = roots ctx ⟨base⟩ fixes
  trees : ∀ r ∈ rs, ∀ k ∈ r.tree.map Fix.key, Warranted ctx fixes t base r.root depth k
  triggered : ∀ r ∈ rs, ∀ f ∈ r.triggered, ∃ b ∈ bs, b.depth < depth ∧ BringsUp ctx base b r f

theorem Traced.root_mem (hrs : Traced ctx fixes t base depth rs bs) (hr : r ∈ rs) :
    r.root ∈ Exploration.roots ctx ⟨base⟩ fixes :=
  hrs.roots ▸ List.mem_map_of_mem hr

theorem Traced.nodup (hrs : Traced ctx fixes t base depth rs bs) :
    (rs.map fun r => r.root.key).Nodup := by
  have hkeys : (rs.map fun r => r.root.key) = (rs.map Report.root).map Fix.key := by
    rw [List.map_map]
    rfl
  rw [hkeys, hrs.roots]
  exact nodup_roots

theorem Traced.map {u : Report → Report} (hrs : Traced ctx fixes t base depth rs bs)
    (hu : ∀ r, (u r).root = r.root ∧ (u r).tree = r.tree ∧ (u r).triggered = r.triggered) :
    Traced ctx fixes t base depth (rs.map u) bs := by
  refine ⟨?_, ?_, ?_⟩
  · rw [List.map_map, ← hrs.roots]
    exact List.map_congr_left fun r _ => (hu r).1
  · intro r' hr' k hk
    obtain ⟨r, hr, rfl⟩ := List.mem_map.mp hr'
    obtain ⟨hroot, htree, -⟩ := hu r
    rw [htree] at hk
    rw [hroot]
    exact hrs.trees r hr k hk
  · intro r' hr' f hf
    obtain ⟨r, hr, rfl⟩ := List.mem_map.mp hr'
    obtain ⟨hroot, htree, htriggered⟩ := hu r
    rw [htriggered] at hf
    obtain ⟨b, hb, hbelow, hup⟩ := hrs.triggered r hr f hf
    exact ⟨b, hb, hbelow, hup.congr hroot htree⟩

theorem traced_first (hlevel : firstLevel ctx ⟨base⟩ (roots ctx ⟨base⟩ fixes) = (g, rs))
    (hg : Grounded ctx fixes t base 0 g) : Traced ctx fixes t base 0 rs [] := by
  have hrs : rs = (firstLevel ctx ⟨base⟩ (roots ctx ⟨base⟩ fixes)).2 := by rw [hlevel]
  have hreports : rs = g.nodes.map fun n => Report.start n.root n.fixes := by
    rw [hrs, show g = (firstLevel ctx ⟨base⟩ (roots ctx ⟨base⟩ fixes)).1 by rw [hlevel]]
    rfl
  refine ⟨?_, ?_, ?_⟩
  · rw [hrs]
    exact roots_first nodup_roots
  · intro r hr k hk
    rw [hreports] at hr
    obtain ⟨n, hn, rfl⟩ := List.mem_map.mp hr
    rcases Keyed.mem_keys_insert.mp hk with hfixes | rfl
    · exact (hg n hn).2 k hfixes
    · exact .root
  · intro r hr f hf
    rw [hreports] at hr
    obtain ⟨n, -, rfl⟩ := List.mem_map.mp hr
    exact absurd hf List.not_mem_nil

theorem grounded_first (hlevel : firstLevel ctx ⟨base⟩ (roots ctx ⟨base⟩ fixes) = (g, rs)) :
    Grounded ctx fixes t base 0 g := by
  intro n hn
  have hnodes : g.nodes = (roots ctx ⟨base⟩ fixes).zipIdx.map fun p =>
      .start p.2 p.1 (ctx.link ⟨base⟩ p.1) := by
    rw [← nodes_firstLevel nodup_roots, hlevel]
  rw [hnodes] at hn
  obtain ⟨p, hp, rfl⟩ := List.mem_map.mp hn
  refine ⟨?_, ?_⟩
  · have hroots := List.mem_map_of_mem (f := Prod.fst) hp
    rwa [List.zipIdx_map_fst] at hroots
  · intro k hk
    rcases (Keyed.mem_keys_union _ _).mp hk with hroot | hlinked
    · obtain rfl := List.mem_singleton.mp hroot
      exact .root
    · exact .linked hlinked

/-- A level keeps the trees warranted, and notes which of its builds brought up what. -/
theorem traced_level {folded : Reports} (hrs : Traced ctx fixes t base depth rs bs) (hg : g.Built)
    (hentered : Entered g) (hgrounded : Grounded ctx fixes t base depth g)
    (hbank : s.bank.before = ⟨base⟩) (hl : levelBuilds ctx g depth rs s = .ok (cs, h, folded) s') :
    Traced ctx fixes t base (depth + 1) folded (bs ++ cs) := by
  obtain ⟨hp, hfold⟩ := pass_of_levelBuilds hl
  dsimp only at hp hfold
  have hbare : h.bare = (prepared ctx.regions g).bare :=
    (builds_of_pass (arena_of_built hg) hentered hp hbank).1
  have hstep : ∀ r ∈ rs, (∀ k ∈ (refresh h depth r).tree.map Fix.key,
      Warranted ctx fixes t base r.root (depth + 1) k) ∧
      ∀ f ∈ (refresh h depth r).triggered,
        ∃ b ∈ bs ++ cs, b.depth < depth + 1 ∧ BringsUp ctx base b (refresh h depth r) f := by
    intro r hr
    have htree : ∀ k ∈ r.tree.map Fix.key, Warranted ctx fixes t base r.root (depth + 1) k :=
      fun k hk => (hrs.trees r hr k hk).mono (Nat.le_succ depth)
    cases hm : h.find? r.root with
    | none =>
      rw [refresh, hm]
      refine ⟨htree, ?_⟩
      intro f hf
      obtain ⟨b, hb, hbelow, hup⟩ := hrs.triggered r hr f hf
      exact ⟨b, List.mem_append_left cs hb, Nat.lt_succ_of_lt hbelow, hup⟩
    | some m =>
      rw [refresh_of_find? hm]
      cases hf : m.failed with
      | true =>
        rw [Reports.absorb, if_pos hf]
        exact ⟨htree, fun f hnone => absurd hnone List.not_mem_nil⟩
      | false =>
        rw [absorb_of_measured hf]
        obtain ⟨hmem, hkey⟩ := mem_of_find? hm
        obtain ⟨n, hn, hroot, hfixes⟩ := node_of_pass hbare hmem
        obtain ⟨hnroot, hwarranted⟩ := hgrounded n hn
        have hsame : n.root = r.root := by
          refine List.inj_on_of_nodup_map nodup_roots hnroot (hrs.root_mem hr) ?_
          rw [hroot, hkey]
        refine ⟨?_, ?_⟩
        · intro k hk
          rw [← hsame]
          exact (hwarranted k (hfixes ▸ hk)).mono (Nat.le_succ depth)
        · intro f hf
          obtain ⟨b, hb, hat, hup⟩ := bringsUp_of_pass (r := { r with tree := m.fixes })
            (arena_of_built hg) hentered hp hbank hm hf (hsame.symm.trans hroot) rfl
          exact ⟨b, List.mem_append_right bs hb, by omega, hup.congr rfl rfl⟩
  rw [hfold]
  refine ⟨?_, ?_, ?_⟩
  · rw [List.map_map, ← hrs.roots]
    exact List.map_congr_left fun r _ => root_refresh
  · intro r' hr' k hk
    obtain ⟨r, hr, rfl⟩ := List.mem_map.mp hr'
    rw [root_refresh]
    exact (hstep r hr).1 k hk
  · intro r' hr' f hf
    obtain ⟨r, hr, rfl⟩ := List.mem_map.mp hr'
    exact (hstep r hr).2 f hf

theorem triggered_bounded {table : Estimate.Table} : (bounded table r).triggered = r.triggered := by
  unfold bounded
  split <;> rfl

/-- Estimates and verdicts leave the roots, trees and triggered fixes of the reports alone. -/
theorem traced_weigh (hrs : Traced ctx fixes t base d rs bs)
    (hw : weigh ctx depth g rs s = .ok rs' s') :
    Traced ctx fixes t base d rs' bs ∧ s'.bank.before = s.bank.before := by
  have hdecide : ∀ {final : Bool} {estimated : Reports} {s₁ : Trial ω},
      Traced ctx fixes t base d estimated bs → s₁.ledger = s.ledger →
        decideReports ctx final estimated s₁ = .ok rs' s' →
          Traced ctx fixes t base d rs' bs ∧ s'.bank.before = s.bank.before := by
    intro final estimated s₁ hestimated hledger hd
    have hkept := (keeps_decideReports ctx final estimated).of_ok hd
    rw [decideReports, decideEach_eq] at hd
    cases hd
    refine ⟨hestimated.map fun r => ⟨root_settle, tree_settle, triggered_settle⟩, ?_⟩
    exact congrArg (fun l => l.1.before) (hkept.trans hledger)
  unfold weigh at hw
  split at hw
  · obtain ⟨estimated, s₁, hest, hd⟩ := bind_eq_ok.mp hw
    have hledger := (keeps_estimate ctx g rs).of_ok hest
    obtain ⟨table, -, rfl⟩ := estimate_of_run hest
    exact hdecide (hrs.map fun r => ⟨root_bounded, tree_bounded, triggered_bounded⟩) hledger hd
  · exact hdecide hrs rfl hw

/-- What a level tries beside the trees was selected as it was opened. -/
theorem grounded_next (hrs : Traced ctx fixes t base depth rs bs)
    (ho : Opens ctx fixes t base depth (nextLevel ctx ⟨base⟩ rs) rs bs s) :
    Grounded ctx fixes t base depth (nextLevel ctx ⟨base⟩ rs) := by
  intro n hn
  rw [nodes_nextLevel ctx ⟨base⟩ hrs.nodup] at hn
  obtain ⟨p, hp, rfl⟩ := List.mem_map.mp hn
  have hmem : p.1 ∈ rs.filter fun r => decide (Continues rs.settled r) :=
    List.mem_of_getElem? (List.mem_zipIdx_iff_getElem?.mp hp)
  obtain ⟨hr, hc⟩ := List.mem_filter.mp hmem
  have hcontinues : Continues rs.settled p.1 := of_decide_eq_true hc
  refine ⟨hrs.root_mem hr, ?_⟩
  intro k hk
  rcases mem_keys_widened.mp (Fix.mem_keys.mpr hk) with rfl | htree | ⟨f, hf, hlinked⟩
  · exact .root
  · exact hrs.trees p.1 hr k (Fix.mem_keys.mp htree)
  · obtain ⟨hfollowup, hfree⟩ := Keyed.mem_without.mp hf
    obtain ⟨htriggered, -⟩ := Keyed.mem_without.mp hfollowup
    refine .followed (Nat.le_refl depth) ho rfl ⟨hr, hcontinues.1, hf, ?_, ?_⟩
      (Fix.mem_keys.mp hlinked)
    · intro r hr' hfinished hin
      exact hfree (mem_keys_settled.mpr ⟨r, hr', hfinished, hin⟩)
    · exact hrs.triggered p.1 hr f htriggered

/-- What is known of a level that is opened. -/
structure Provided (ctx : Context ω) (fixes : Option (List Fix)) (t : Trial ω)
    (base : List Diagnostic) (depth : Nat) (g : Graph) (rs : Reports) (bs : List (GroupBuild ω))
    (s : Trial ω) : Prop where
  bank : s.bank.before = ⟨base⟩
  built : g.Built
  entered : Entered g
  traced : Traced ctx fixes t base depth rs bs
  grounded : Grounded ctx fixes t base depth g

/-- Every level that is opened tries only what is warranted. -/
theorem provided_of_opens (ho : Opens ctx fixes t base depth g rs bs s) :
    Provided ctx fixes t base depth g rs bs s := by
  induction ho with
  | @first g rs t₁ hbase hlevel =>
    have hgrounded : Grounded ctx fixes t base 0 g := grounded_first hlevel
    have hgraph : (firstLevel ctx ⟨base⟩ (roots ctx ⟨base⟩ fixes)).1 = g := by rw [hlevel]
    exact ⟨rfl, hgraph ▸ built_firstLevel, hgraph ▸ entered_firstLevel,
      traced_first hlevel hgrounded, hgrounded⟩
  | @next depth g h rs folded decided bs cs s s₁ s₂ ho hl hw hsize ih =>
    have hlevel : Traced ctx fixes t base (depth + 1) folded (bs ++ cs) :=
      traced_level ih.traced ih.built ih.entered ih.grounded ih.bank hl
    obtain ⟨hp, -⟩ := pass_of_levelBuilds hl
    obtain ⟨-, hbank₁, -⟩ := builds_of_pass (arena_of_built ih.built) ih.entered hp ih.bank
    obtain ⟨hdecided, hbank₂⟩ := traced_weigh hlevel hw
    have hbank : s₂.bank.before = ⟨base⟩ := hbank₂.trans hbank₁
    have hopens := Opens.next ho hl hw hsize
    refine ⟨hbank, built_nextLevel, entered_nextLevel, hdecided, ?_⟩
    rw [hbank] at hopens ⊢
    exact grounded_next hdecided hopens

theorem baseline_of_opens (ho : Opens ctx fixes t base depth g rs bs s) :
    ∃ site, ctx.workspace.baseline t.site = .ok base site := by
  induction ho with
  | first hbase =>
    have hsite := baseline_of_buildBaseline hbase
    exact hsite
  | next _ _ _ _ ih => exact ih

end Exploration
end FixTrial
