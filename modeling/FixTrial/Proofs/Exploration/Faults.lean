import FixTrial.Proofs.Exploration.Twins
import FixTrial.RegionLookup

/-!
Which faults end an exploration. No group of a level is ever refused, so that a fault comes from the
workspace or from a module, unless it is the depth that cannot be counted.
-/
namespace FixTrial

/-- A fault that editing the workspace or building there may end in. -/
inductive Workspace.Raises {ω : Type} (w : Workspace ω) (v : Act ω (List Diagnostic)) (e : Fault) :
    Prop
  | inject (fixes : List Fix) (h : (w.inject fixes).Raises e)
  | revert (fixes : List Fix) (h : (w.revert fixes).Raises e)
  | verify (h : v.Raises e)

/-- A fault that some build of an exploration may end in by itself. -/
def Context.Raises {ω : Type} (ctx : Context ω) (e : Fault) : Prop :=
  ctx.workspace.Raises ctx.workspace.verify e ∨ ∃ m ∈ ctx.modules, ctx.workspace.Raises m.verify e

namespace Batch
variable {ω β : Type} {w : Workspace ω} {v : Act ω (List Diagnostic)} {fixes : List Fix}
  {m : List Diagnostic → Site ω → β × Except Fault Unit} {site : Site ω} {s s' : ω} {e : Fault}

theorem raises_of_build (h : build w v fixes s = .error e s') : w.Raises v e := by
  unfold build at h
  change EStateM.bind (w.inject fixes) (fun _ => v) s = _ at h
  unfold EStateM.bind at h
  cases hi : w.inject fixes s with
  | error e₁ s₁ =>
    simp only [hi, EStateM.Result.error.injEq] at h
    exact .inject fixes ⟨s, s₁, h.1 ▸ hi⟩
  | ok _ s₁ =>
    simp only [hi] at h
    exact .verify ⟨s₁, s', h⟩

theorem raises_of_close (h : (close w fixes s).1 = .error e) : w.Raises v e ∧ ¬ e.Expected := by
  unfold close at h
  split at h
  · simp at h
  · simp at h
  next e₁ s₁ hother hr =>
    obtain rfl := Except.error.inj h
    refine ⟨.revert fixes ⟨s, s₁, hr⟩, ?_⟩
    rintro ⟨e₂, rfl⟩
    exact hother e₂ rfl

/-- A batch ends in a fault of its workspace that is not expected, or in one of its measurement. -/
theorem raises_of_run (h : (run w v fixes m site).1.outcome = .error e) :
    w.Raises v e ∧ ¬ e.Expected ∨ ∃ ds t, (m ds t).2 = .error e := by
  unfold run at h
  dsimp only at h
  split at h
  next e₁ world _ =>
    have hclose : (close w (Fix.dedupe fixes) world).1 = .error e := by
      unfold abandon at h
      cases hc : (close w (Fix.dedupe fixes) world).1 with
      | error e₂ =>
        simp only [hc, Except.map] at h
        rw [Except.error.inj h]
      | ok log => simp [hc, Except.map] at h
    exact .inl (raises_of_close hclose)
  next e₁ world hother hb =>
    obtain rfl := Except.error.inj h
    refine .inl ⟨raises_of_build hb, ?_⟩
    rintro ⟨e₂, rfl⟩
    exact hother e₂ rfl
  next ds world _ =>
    cases hc : (close w (Fix.dedupe fixes) world).1 with
    | error e₂ =>
      simp only [hc] at h
      obtain rfl : e₂ = e := Except.error.inj h
      exact .inl (raises_of_close hc)
    | ok log =>
      cases hm : (m ds ⟨world, true⟩).2 with
      | error e₂ =>
        simp only [hc, hm] at h
        obtain rfl : e₂ = e := Except.error.inj h
        exact .inr ⟨ds, _, hm⟩
      | ok =>
        simp only [hc, hm] at h
        exact nomatch h

end Batch

namespace Exploration
open Act FixTrial.Graph
variable {ω : Type} {ctx : Context ω} {E : Fault → Prop} {w : Workspace ω}
  {v : Act ω (List Diagnostic)} {g : Graph} {depth : Nat} {fixes : Option (List Fix)}
  {t t' : Trial ω} {e : Fault}

/-- A build is like itself, as far as it ends in the faults that are allowed. -/
theorem buildsAlike_of_raises (hE : ∀ e, w.Raises v e → ¬ e.Expected → E e) :
    BuildsAlike Eq E (fun _ => True) w w v v := by
  constructor
  · rintro β fixes m - hm t _ rfl
    refine .ok ⟨rfl, fun e he => ?_⟩ rfl
    have hrun : (Batch.run w v fixes (fun ds _ => m ds) t.site).1.outcome = .error e := he
    rcases Batch.raises_of_run hrun with ⟨hr, hother⟩ | ⟨ds, _, hr⟩
    · exact hE e hr hother
    · exact hm ds e hr
  · rintro t _ rfl
    unfold Trial.onSite Site.holding
    cases hv : v t.site.world with
    | ok ds world => exact .ok ⟨rfl, trivial⟩ rfl
    | error e world =>
      refine .error ?_ rfl
      by_cases he : e.Expected
      · exact .inr he
      · exact .inl (hE e (.verify ⟨_, _, hv⟩) he)

theorem twins_of_raises (hE : ∀ e, ctx.Raises e → ¬ e.Expected → E e) :
    Twins Eq E (fun _ => True) ctx.workspace ctx.workspace ctx.modules ctx.modules := by
  constructor
  · rintro _ t rfl
    exact ⟨rfl, rfl, rfl, rfl⟩
  · rintro _ t rfl _ _ _ _
    rfl
  · rintro _ t _ _ rfl
    rfl
  · exact buildsAlike_of_raises fun e he => hE e (.inl he)
  · refine List.forall₂_same.mpr fun m hm => ⟨rfl, ?_⟩
    exact buildsAlike_of_raises fun e he => hE e (.inr ⟨m, hm, he⟩)

theorem fault_of_alike {α : Type} {x : Act (Trial ω) α} {V : α → α → Prop}
    (hx : Alike Eq E V x x) (h : x t = .error e t') : E e := by
  have hends := hx t t rfl
  rw [h] at hends
  cases hends with
  | error he _ => exact he

/-- A pass ends only in faults that are not its own, and in none that is expected. -/
theorem raises_of_pass (hg : g.Built) (h : pass ctx g depth t = .error e t') :
    ctx.Raises e ∧ ¬ e.Expected := by
  have htwins : Twins Eq (fun e => ctx.Raises e ∧ ¬ e.Expected) (fun _ => True) ctx.workspace
      ctx.workspace ctx.modules ctx.modules := twins_of_raises fun _ => And.intro
  exact fault_of_alike (htwins.pass (arena_of_built hg) allows_all depth) h

/-- So does an exploration, unless its levels cannot be counted. -/
theorem raises_of_explore (h : explore ctx fixes t = .error e t') :
    ctx.Raises e ∧ ¬ e.Expected ∨ e = .wrongType ∧ ctx.depth.levels? = none := by
  have htwins : Twins Eq (fun e => ctx.Raises e ∧ ¬ e.Expected ∨
      e = .wrongType ∧ ctx.depth.levels? = none) (fun _ => True) ctx.workspace ctx.workspace
      ctx.modules ctx.modules := twins_of_raises fun _ he hother => .inl ⟨he, hother⟩
  refine fault_of_alike (htwins.explore ?_ (fun hlevels => .inr ⟨rfl, hlevels⟩) fixes) h
  rintro _ t _ rfl
  rfl

/-- After a lookup the groups split the pending nodes so that no two nodes of a group impact one
region. The check accepts each of them, and refuses what shares a region: no pass and no exploration
ends in a conflict that its workspace does not raise. -/
theorem groups_never_conflict (hg : g.Built) (source : RegionSource) :
    (∀ n ∈ (prepared source g).nodes, ∀ r, r ∈ n.regions ↔
      ∃ f ∈ n.fixes, r ∈ (source f.location).getD []) ∧
    Partitions (prepared source g) (prepared source g).groups ∧
    (∀ group ∈ (prepared source g).groups,
      (prepared source g).checkGroup group = .ok () ∧
      ∀ i ∈ group, ∀ j ∈ group, i ≠ j → (prepared source g).Apart i j) ∧
    (∀ {ω : Type} (ctx : Context ω) (depth : Nat) (t t' : Trial ω) (c : Conflict),
      pass ctx g depth t = .error (.conflict c) t' → ctx.Raises (.conflict c)) ∧
    (∀ {ω : Type} (ctx : Context ω) (fixes : Option (List Fix)) (t t' : Trial ω) (c : Conflict),
      explore ctx fixes t = .error (.conflict c) t' → ctx.Raises (.conflict c)) ∧
    ∀ group : List Nat, (∀ i ∈ group, i < g.size) →
      ((∃ c, g.checkGroup group = .error c) ↔
        ∃ i ∈ group, ∃ j ∈ group, i ≠ j ∧ ¬ g.Apart i j) := by
  have ha : g.Arena := arena_of_built hg
  refine ⟨?_, ?_, ?_, ?_, ?_, ?_⟩
  · intro n hn r
    rw [regions_of_updateRegions hn]
    exact RegionSource.mem_ofFixes
  · exact partitions_findGroups (arena_updateRegions ha)
  · intro group hgroup
    exact ⟨checkGroup_partition ha hgroup, fun i hi j hj => apart_of_mem_partition ha hgroup hi hj⟩
  · intro ω ctx depth t t' c h
    exact (raises_of_pass hg h).1
  · intro ω ctx fixes t t' c h
    rcases raises_of_explore h with ⟨he, -⟩ | ⟨he, -⟩
    · exact he
    · cases he
  · intro group _
    exact checkGroup_error_iff ha

/-- Two fields of one class and one of another, each in the region of its class. -/
def threeFields : Graph :=
  (((Graph.empty.insert (.ofField "A" "x") []).1.insert (.ofField "A" "y") []).1.insert
    (.ofField "B" "z") []).1.updateRegions .own

theorem built_threeFields : threeFields.Built :=
  (((Built.empty.insert _ _).insert _ _).insert _ _).update _

theorem groups_of_threeFields :
    (prepared .own threeFields).groups = [[0, 2], [1]] ∧
    (prepared .own threeFields).checkGroup [0, 2] = .ok () ∧
    ∃ c, threeFields.checkGroup [0, 1] = .error c := by
  have hgroups : (prepared .own threeFields).groups = [[0, 2], [1]] := by decide
  obtain ⟨-, -, haccepted, -, -, hrefused⟩ := groups_never_conflict built_threeFields .own
  refine ⟨hgroups, (haccepted [0, 2] (by simp [hgroups])).1, ?_⟩
  refine (hrefused [0, 1] (by decide)).mpr ⟨0, by simp, 1, by simp, by decide, fun hapart => ?_⟩
  exact hapart _ _ rfl rfl ⟨"A", ""⟩ (by decide) (by decide)

end Exploration
end FixTrial
