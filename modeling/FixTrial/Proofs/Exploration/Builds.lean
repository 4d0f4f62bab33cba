import FixTrial.Exploration.Deep
import FixTrial.Proofs.Act

/-!
The builds of an exploration, in their order, each with the graph and the trial that it started from
and those that it came to. Explorations that record them are explorations, once the record is
forgotten.
-/
namespace FixTrial

/-- One build of a group, and whether it succeeded. -/
structure GroupBuild (ω : Type) where
  depth : Nat
  number : Nat
  group : List Nat
  before : Graph
  start : Trial ω
  after : Graph
  finish : Trial ω
  ok : Bool

namespace GroupBuild
variable {ω : Type}

/-- The fixes that are built, each once. -/
def fixes (b : GroupBuild ω) : List Fix := Fix.dedupe ((b.before.members b.group).flatMap (·.fixes))

/-- The fixes went in, were built with `ds` reported, and came out again. -/
def Succeeds (b : GroupBuild ω) (w : Workspace ω) (ds : List Diagnostic) : Prop :=
  b.ok = true ∧ ∃ s, Batch.build w w.verify b.fixes b.start.site.world = .ok ds s ∧
    w.revert b.fixes s = .ok () b.finish.site.world

end GroupBuild

namespace Exploration
variable {ω : Type} (ctx : Context ω)

/-- A build of a group, recorded. -/
def buildKept (g : Graph) (group : List Nat) (depth number : Nat) :
    Act (Trial ω) (GroupBuild ω) := do
  let start ← get
  let (after, ok) ← buildGroup ctx g group depth number
  let finish ← get
  return { depth, number, group, before := g, start, after, finish, ok }

def retryBuilds (depth number : Nat) (g : Graph) :
    List Nat → Act (Trial ω) (List (GroupBuild ω) × Graph)
  | [] => return ([], g)
  | i :: rest => do
    let b ← buildKept ctx (g.modify i fun n => { n with failed := false }) [i] depth number
    let (bs, h) ← retryBuilds depth number b.after rest
    return (b :: bs, h)

def groupBuilds (g : Graph) (group : List Nat) (depth number : Nat) :
    Act (Trial ω) (List (GroupBuild ω) × Graph) := do
  let b ← buildKept ctx g group depth number
  if !b.ok && ctx.retry && 1 < group.length then
    Trial.log (.batchRetried depth number group.length)
    let (bs, h) ← retryBuilds ctx depth number b.after group
    return (b :: bs, h)
  else return ([b], b.after)

def groupsBuilds (depth number : Nat) (g : Graph) :
    List (List Nat) → Act (Trial ω) (List (GroupBuild ω) × Graph)
  | [] => return ([], g)
  | group :: rest => do
    let (bs, h) ← groupBuilds ctx g group depth number
    let (cs, k) ← groupsBuilds depth (number + 1) h rest
    return (bs ++ cs, k)

def passBuilds (g : Graph) (depth : Nat) : Act (Trial ω) (List (GroupBuild ω) × Graph) := do
  let g := (g.updateRegions ctx.regions).findGroups
  Trial.log (.grouped depth g.size g.groups.length)
  Trial.log (.recorded s!"groups-{depth}" (groupsJson g))
  groupsBuilds ctx depth 0 g g.groups

def levelBuilds (g : Graph) (depth : Nat) (rs : Reports) :
    Act (Trial ω) (List (GroupBuild ω) × Graph × Reports) := do
  let (bs, g) ← passBuilds ctx g depth
  return (bs, g, rs.fold g depth)

def descendBuilds (depth : Nat) (rs : Reports) :
    Nat → Act (Trial ω) (List (GroupBuild ω) × Reports × Nat)
  | 0 => return ([], rs, depth - 1)
  | budget + 1 => do
    let g := nextLevel ctx (← get).bank.before rs
    if g.size = 0 then return ([], rs, depth - 1)
    Trial.log (.level depth g.size)
    let (bs, _, rs) ← levelBuilds ctx g depth rs
    let rs ← decideReports ctx false rs
    let (cs, last) ← descendBuilds (depth + 1) rs budget
    return (bs ++ cs, last)

def followBuilds (rs : Reports) : Act (Trial ω) (List (GroupBuild ω) × ExplorationResult) := do
  match ctx.depth.levels? with
  | none => throw .wrongType
  | some budget =>
    let (bs, rs, reached) ← descendBuilds ctx 1 rs budget
    let result ← finish ctx rs reached
    return (bs, result)

/-- The verdicts after the first level, and the levels below it. -/
def belowBuilds (rs : Reports) : Act (Trial ω) (List (GroupBuild ω) × ExplorationResult) := do
  let rs ← decideReports ctx ctx.depth.isZero rs
  followBuilds ctx rs

def exploreFromBuilds (baseline : Snapshot) (fixes : Option (List Fix)) :
    Act (Trial ω) (List (GroupBuild ω) × ExplorationResult) := do
  let (g, rs) := firstLevel ctx baseline (roots ctx baseline fixes)
  Trial.log (.level 0 g.size)
  if g.size = 0 then
    let result ← conclude rs 0 false
    return ([], result)
  else
    let (bs, g, rs) ← levelBuilds ctx g 0 rs
    let rs ← if ctx.modules.isEmpty then pure rs else estimate ctx g rs
    let (cs, result) ← belowBuilds ctx rs
    return (bs ++ cs, result)

def exploreBuilds (fixes : Option (List Fix)) :
    Act (Trial ω) (List (GroupBuild ω) × ExplorationResult) := do
  Trial.log (.started ctx.depth ctx.mode)
  match ← buildBaseline ctx with
  | .error e =>
    Trial.log (.baselineFailed e.message)
    let result ← conclude ((Fix.dedupe (fixes.getD [])).map hopeless) 0 false
    return ([], result)
  | .ok ds =>
    modify fun t => { t with bank := .baseline ds }
    Trial.log (.baselineBuilt ds.length)
    exploreFromBuilds ctx ⟨ds⟩ fixes

theorem outcome_buildKept (g : Graph) (group : List Nat) (depth number : Nat) :
    (fun b => (b.after, b.ok)) <$> buildKept ctx g group depth number =
      buildGroup ctx g group depth number := by
  unfold buildKept
  simp only [map_bind, map_pure]
  funext t
  change EStateM.bind (buildGroup ctx g group depth number) _ t = _
  unfold EStateM.bind
  cases buildGroup ctx g group depth number t <;> rfl

theorem snd_retryBuilds (depth number : Nat) (g : Graph) (group : List Nat) :
    Prod.snd <$> retryBuilds ctx depth number g group = retryEach ctx depth number g group := by
  unfold retryEach
  induction group generalizing g with
  | nil => simp [retryBuilds]
  | cons i rest ih =>
    unfold retryBuilds
    rw [List.foldlM_cons]
    simp only [map_bind, ← outcome_buildKept, bind_map_left, bind_pure_comp] at ih ⊢
    congr 1
    funext b
    simpa using ih b.after

theorem snd_groupBuilds (g : Graph) (group : List Nat) (depth number : Nat) :
    Prod.snd <$> groupBuilds ctx g group depth number = runGroup ctx g group depth number := by
  unfold groupBuilds runGroup
  simp only [← outcome_buildKept, ← snd_retryBuilds, map_bind, bind_map_left]
  congr 1
  funext b
  split <;> simp

theorem snd_groupsBuilds (depth number : Nat) (g : Graph) (groups : List (List Nat)) :
    Prod.snd <$> groupsBuilds ctx depth number g groups = runGroups ctx depth number g groups := by
  induction groups generalizing number g with
  | nil => simp [groupsBuilds, runGroups]
  | cons group rest ih =>
    unfold groupsBuilds runGroups
    simp [← ih, ← snd_groupBuilds, map_bind]

theorem snd_passBuilds (g : Graph) (depth : Nat) :
    Prod.snd <$> passBuilds ctx g depth = pass ctx g depth := by
  unfold passBuilds pass
  simp only [map_bind, snd_groupsBuilds]

theorem pass_ok_iff {g h : Graph} {depth : Nat} {t t' : Trial ω} :
    pass ctx g depth t = .ok h t' ↔ ∃ bs, passBuilds ctx g depth t = .ok (bs, h) t' := by
  rw [← snd_passBuilds, Act.map_eq_ok]
  exact ⟨fun ⟨p, hp, hh⟩ => ⟨p.1, hh ▸ hp⟩, fun ⟨bs, hp⟩ => ⟨(bs, h), hp, rfl⟩⟩

theorem snd_levelBuilds (g : Graph) (depth : Nat) (rs : Reports) :
    Prod.snd <$> levelBuilds ctx g depth rs = level ctx g depth rs := by
  unfold levelBuilds level
  simp [← snd_passBuilds]

theorem level_ok_iff {g : Graph} {depth : Nat} {rs : Reports} {p : Graph × Reports}
    {t t' : Trial ω} :
    level ctx g depth rs t = .ok p t' ↔ ∃ bs, levelBuilds ctx g depth rs t = .ok (bs, p) t' := by
  rw [← snd_levelBuilds, Act.map_eq_ok]
  exact ⟨fun ⟨q, hq, hp⟩ => ⟨q.1, hp ▸ hq⟩, fun ⟨bs, hp⟩ => ⟨(bs, p), hp, rfl⟩⟩

theorem snd_descendBuilds (depth : Nat) (rs : Reports) (budget : Nat) :
    Prod.snd <$> descendBuilds ctx depth rs budget = descend ctx depth rs budget := by
  induction budget generalizing depth rs with
  | zero => simp [descendBuilds, descend]
  | succ budget ih =>
    unfold descendBuilds descend
    simp only [map_bind, ← ih, ← snd_levelBuilds, bind_map_left]
    congr 1
    funext t
    split <;> simp [map_bind]

theorem snd_followBuilds (rs : Reports) : Prod.snd <$> followBuilds ctx rs = follow ctx rs := by
  unfold followBuilds follow
  cases ctx.depth.levels? with
  | none => rfl
  | some budget => simp [← snd_descendBuilds, map_bind]

theorem snd_exploreFromBuilds (baseline : Snapshot) (fixes : Option (List Fix)) :
    Prod.snd <$> exploreFromBuilds ctx baseline fixes = exploreFrom ctx baseline fixes := by
  unfold exploreFromBuilds exploreFrom
  simp only [map_bind, ← snd_levelBuilds, bind_map_left]
  congr 1
  funext _
  split
  · simp
  · simp only [map_bind]
    congr 1
    funext ⟨bs, measured, folded⟩
    by_cases hm : ctx.modules.isEmpty <;> simp [hm, belowBuilds, ← snd_followBuilds, map_bind]

/-- The builds are only looked at. -/
theorem snd_exploreBuilds (fixes : Option (List Fix)) :
    Prod.snd <$> exploreBuilds ctx fixes = explore ctx fixes := by
  unfold exploreBuilds explore
  simp only [map_bind]
  congr 1
  funext _
  congr 1
  funext built
  cases built <;> simp [← snd_exploreFromBuilds, map_bind]

end Exploration
end FixTrial
