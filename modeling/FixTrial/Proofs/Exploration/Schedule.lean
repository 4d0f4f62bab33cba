import FixTrial.Exploration.Deep
import FixTrial.Proofs.Act

/-!
What an exploration runs on its site: builds alone and batches, one after the other. The site is
where the last of them left it, as nothing else touches it.
-/
namespace FixTrial
open Act

/-- A run on a site: a build of what is there, or the run of a batch. -/
structure SiteRun (ω : Type) where
  verify : Act ω (List Diagnostic)
  batch : Option (List Fix)
  start : Site ω
  finish : Site ω

namespace SiteRun
variable {ω : Type} {runs rest : List (SiteRun ω)} {s s₁ s' : Site ω}

/-- The fixes of the batch; none are asked for where a build is alone. -/
def fixes (run : SiteRun ω) : List Fix := run.batch.getD []

/-- The site came from its start to its finish by the build, or by the batch. -/
def Came (w : Workspace ω) (run : SiteRun ω) : Prop :=
  match run.batch with
  | none => final (Site.holding run.verify run.start) = run.finish
  | some fixes => ∃ (β : Type) (m : List Diagnostic → β × Except Fault Unit),
      (Batch.run w run.verify fixes (fun ds _ => m ds) run.start).2 = run.finish

/-- Each of the runs starts where the one before it finished. -/
def Lead : List (SiteRun ω) → Site ω → Site ω → Prop
  | [], s, s' => s = s'
  | run :: rest, s, s' => run.start = s ∧ Lead rest run.finish s'

theorem Lead.append (h : Lead runs s s₁) (hrest : Lead rest s₁ s') : Lead (runs ++ rest) s s' := by
  induction runs generalizing s with
  | nil => exact h ▸ hrest
  | cons run runs ih => exact ⟨h.1, ih h.2⟩

/-- What each run keeps, a sequence of runs keeps, and it holds where each of them starts. -/
theorem Lead.invariant {P : Site ω → Prop} (h : Lead runs s s') (hs : P s)
    (hrun : ∀ run ∈ runs, P run.start → P run.finish) : (∀ run ∈ runs, P run.start) ∧ P s' := by
  induction runs generalizing s with
  | nil => exact ⟨fun _ hmem => absurd hmem List.not_mem_nil, h ▸ hs⟩
  | cons run runs ih =>
    obtain ⟨rfl, hrest⟩ := h
    rw [List.forall_mem_cons] at hrun ⊢
    obtain ⟨hstarts, hend⟩ := ih hrest (hrun.1 hs) hrun.2
    exact ⟨⟨hs, hstarts⟩, hend⟩

/-- What each run comes to from its start, the whole sequence comes to, and what is left of it after
each of them. -/
theorem Lead.reaches {R : Site ω → Site ω → Prop} (hrefl : ∀ s, R s s)
    (htrans : ∀ s₁ s₂ s₃, R s₁ s₂ → R s₂ s₃ → R s₁ s₃) (h : Lead runs s s')
    (hrun : ∀ run ∈ runs, R run.start run.finish) : R s s' ∧ ∀ run ∈ runs, R run.finish s' := by
  induction runs generalizing s with
  | nil => exact ⟨h ▸ hrefl s, fun _ hmem => absurd hmem List.not_mem_nil⟩
  | cons run runs ih =>
    obtain ⟨rfl, hrest⟩ := h
    rw [List.forall_mem_cons] at hrun ⊢
    obtain ⟨hend, hlater⟩ := ih hrest hrun.2
    exact ⟨htrans _ _ _ hrun.1 hend, hend, hlater⟩

end SiteRun

/-- A build of the target or of a module. -/
def Context.Builds {ω : Type} (ctx : Context ω) (v : Act ω (List Diagnostic)) : Prop :=
  v = ctx.workspace.verify ∨ ∃ m ∈ ctx.modules, v = m.verify

/-- How an action is put together from runs on the site and from what leaves the site alone. After
one action comes another, according to the answer or the fault that the first came to. -/
inductive Schedule {ω : Type} (ctx : Context ω) : {α : Type} → Act (Trial ω) α → Type 1
  | quiet {α : Type} {act : Act (Trial ω) α} (h : Keeps Trial.site act) : Schedule ctx act
  | alone {v : Act ω (List Diagnostic)} (hv : ctx.Builds v) :
      Schedule ctx (Trial.onSite (Site.holding v))
  | batch {β : Type} {v : Act ω (List Diagnostic)} (hv : ctx.Builds v) (fixes : List Fix)
      (m : List Diagnostic → β × Except Fault Unit) :
      Schedule ctx (Trial.batch ctx.workspace v fixes fun ds _ => m ds)
  | chain {α β : Type} {x : Act (Trial ω) α} {f : α → Act (Trial ω) β}
      {k : Fault → Act (Trial ω) β} {act : Act (Trial ω) β} (first : Schedule ctx x)
      (next : ∀ a, Returns x a → Schedule ctx (f a)) (failed : ∀ e, Schedule ctx (k e))
      (h : ∀ t, act t =
        match x t with
        | .ok a t' => f a t'
        | .error e t' => k e t') : Schedule ctx act

namespace Schedule
variable {ω α β : Type} {ctx : Context ω} {x y act : Act (Trial ω) α} {f : α → Act (Trial ω) β}

/-- The runs of an action that starts from a trial, up to the fault that ends it, if one does. -/
def runs {α : Type} {act : Act (Trial ω) α} : Schedule ctx act → Trial ω → List (SiteRun ω)
  | .quiet _, _ => []
  | @alone _ _ v _, t => [⟨v, none, t.site, (final (Trial.onSite (Site.holding v) t)).site⟩]
  | @batch _ _ _ v _ fixes m, t =>
    [⟨v, some fixes, t.site,
      (final (Trial.batch ctx.workspace v fixes (fun ds _ => m ds) t)).site⟩]
  | @chain _ _ _ _ x _ _ _ first next failed _, t =>
    first.runs t ++
      match hx : x t with
      | .ok a t' => (next a ⟨t, t', hx⟩).runs t'
      | .error e t' => (failed e).runs t'

/-- The runs lead from where an action starts to where it ends. -/
theorem lead_runs (c : Schedule ctx act) (t : Trial ω) :
    SiteRun.Lead (c.runs t) t.site (final (act t)).site := by
  induction c generalizing t with
  | quiet h => exact (h t).symm
  | alone => exact ⟨rfl, rfl⟩
  | batch => exact ⟨rfl, rfl⟩
  | @chain _ _ x f k act first next failed h ihfirst ihnext ihfailed =>
    have hfirst := ihfirst t
    unfold runs
    split
    next a t' hx =>
      have hend := h t
      rw [hx] at hfirst hend
      rw [hend]
      exact hfirst.append (ihnext a _ t')
    next e t' hx =>
      have hend := h t
      rw [hx] at hfirst hend
      rw [hend]
      exact hfirst.append (ihfailed e t')

theorem came_of_mem_runs (c : Schedule ctx act) {t : Trial ω} {run : SiteRun ω}
    (h : run ∈ c.runs t) : ctx.Builds run.verify ∧ run.Came ctx.workspace := by
  induction c generalizing t with
  | quiet => exact absurd h List.not_mem_nil
  | @alone v hv =>
    obtain rfl := List.mem_singleton.mp h
    refine ⟨hv, ?_⟩
    change final (Site.holding v t.site) = (final (Trial.onSite (Site.holding v) t)).site
    unfold Trial.onSite
    cases Site.holding v t.site <;> rfl
  | @batch β v hv fixes m =>
    obtain rfl := List.mem_singleton.mp h
    exact ⟨hv, β, m, rfl⟩
  | @chain _ _ x f k act first next failed _ ihfirst ihnext ihfailed =>
    unfold runs at h
    rcases List.mem_append.mp h with h | h
    · exact ihfirst h
    · split at h
      · exact ihnext _ _ h
      · exact ihfailed _ h

def ofPure (a : α) : Schedule ctx (pure a : Act (Trial ω) α) := quiet .of_pure

def ofThrow (e : Fault) : Schedule ctx (throw e : Act (Trial ω) α) := quiet .of_throw

def log (e : Event) : Schedule ctx (Trial.log e : Act (Trial ω) Unit) := quiet fun _ => rfl

/-- A change that is none of the site. -/
def change (u : Trial ω → Trial ω) (h : ∀ t, (u t).site = t.site) :
    Schedule ctx (modify u : Act (Trial ω) Unit) := quiet h

def bindReturned (first : Schedule ctx x) (next : ∀ a, Returns x a → Schedule ctx (f a)) :
    Schedule ctx (x >>= f) :=
  chain first next ofThrow fun t => by
    change EStateM.bind x f t = _
    unfold EStateM.bind
    cases x t <;> rfl

def bind (first : Schedule ctx x) (next : ∀ a, Schedule ctx (f a)) : Schedule ctx (x >>= f) :=
  bindReturned first fun a _ => next a

def bindGet {f : Trial ω → Act (Trial ω) β} (next : ∀ t, Schedule ctx (f t)) :
    Schedule ctx (get >>= f) := bind (quiet fun _ => rfl) next

def map {g : α → β} (first : Schedule ctx x) : Schedule ctx (g <$> x) :=
  chain first (fun a _ => ofPure (g a)) ofThrow fun t => by
    change EStateM.map g x t = _
    unfold EStateM.map
    cases x t <;> rfl

def attempt {k : Fault → Act (Trial ω) α} (first : Schedule ctx x)
    (failed : ∀ e, Schedule ctx (k e)) : Schedule ctx (tryCatch x k) :=
  chain first (fun a _ => ofPure a) failed fun t => by
    change EStateM.tryCatch x k t = _
    unfold EStateM.tryCatch
    cases x t <;> rfl

def ite {p : Prop} [inst : Decidable p] (hx : Schedule ctx x) (hy : Schedule ctx y) :
    Schedule ctx (if p then x else y) :=
  match inst with
  | isTrue _ => hx
  | isFalse _ => hy

def foldlM {γ : Type} {step : α → γ → Act (Trial ω) α} :
    (ys : List γ) → (∀ a, ∀ y ∈ ys, Schedule ctx (step a y)) → (a : α) →
      Schedule ctx (ys.foldlM step a)
  | [], _, a => ofPure a
  | y :: ys, h, a =>
    bind (h a y List.mem_cons_self) (foldlM ys fun a z hz => h a z (List.mem_cons_of_mem y hz))

/-- Only modules that were asked for are built against. -/
theorem mem_of_baselines {modules : List (DependentModule ω)}
    {active : List (DependentModule ω × Snapshot)} (h : Returns (Estimate.baselines modules) active) :
    ∀ m ∈ active, m.1 ∈ modules := by
  induction modules generalizing active with
  | nil =>
    obtain ⟨t, t', h⟩ := h
    cases h
    simp
  | cons n rest ih =>
    obtain ⟨t, t', h⟩ := h
    obtain ⟨built, t₁, -, h⟩ := bind_eq_ok.mp h
    obtain ⟨others, t₂, hothers, h⟩ := bind_eq_ok.mp h
    intro m hm
    have hrest : ∀ m ∈ others, m.1 ∈ n :: rest := by
      intro m hm
      exact List.mem_cons_of_mem n (ih ⟨t₁, t₂, hothers⟩ m hm)
    cases built with
    | none =>
      cases h
      exact hrest m hm
    | some ds =>
      cases h
      rcases List.mem_cons.mp hm with rfl | hm
      · exact List.mem_cons_self
      · exact hrest m hm

section
variable (ctx : Context ω)

def recordFailure (g : Graph) (group : List Nat) (depth number : Nat) (logs : List String) :
    Schedule ctx (Exploration.recordFailure g group depth number logs) :=
  bind (change _ fun _ => rfl) fun _ => bind (log _) fun _ => ofPure _

/-- A group is built as the batch of its fixes. -/
def buildGroup (g : Graph) (group : List Nat) (depth number : Nat) :
    Schedule ctx (Exploration.buildGroup ctx g group depth number) :=
  bind (log _) fun _ => bind (change _ fun _ => rfl) fun _ => bindGet fun _ =>
    bind (batch (.inl rfl) _ _) fun run => bind (change _ fun _ => rfl) fun _ =>
      match run.outcome with
      | .error e => ofThrow e
      | .ok _ =>
        ite (bind (log _) fun _ => ofPure _) (bind (recordFailure ctx _ _ _ _ _) fun _ => ofPure _)

def retryEach (depth number : Nat) (g : Graph) (group : List Nat) :
    Schedule ctx (Exploration.retryEach ctx depth number g group) :=
  foldlM group (fun _ i _ => bind (buildGroup ctx _ [i] depth number) fun _ => ofPure _) g

def runGroup (g : Graph) (group : List Nat) (depth number : Nat) :
    Schedule ctx (Exploration.runGroup ctx g group depth number) :=
  bind (buildGroup ctx g group depth number) fun p =>
    ite (bind (log _) fun _ => retryEach ctx depth number p.1 group) (ofPure p.1)

def runGroups (depth number : Nat) (g : Graph) :
    (groups : List (List Nat)) → Schedule ctx (Exploration.runGroups ctx depth number g groups)
  | [] => ofPure g
  | group :: rest =>
    bind (runGroup ctx g group depth number) fun h => runGroups depth (number + 1) h rest

def pass (g : Graph) (depth : Nat) : Schedule ctx (Exploration.pass ctx g depth) :=
  bind (log _) fun _ => bind (log _) fun _ => runGroups ctx depth 0 _ _

def level (g : Graph) (depth : Nat) (rs : Reports) :
    Schedule ctx (Exploration.level ctx g depth rs) :=
  bind (pass ctx g depth) fun _ => ofPure _

def baselines : (modules : List (DependentModule ω)) → (∀ m ∈ modules, ctx.Builds m.verify) →
    Schedule ctx (Estimate.baselines modules)
  | [], _ => ofPure []
  | m :: rest, h =>
    bind (attempt (map (alone (h m List.mem_cons_self))) fun e => by
        cases e with
        | workspace e => exact bind (log _) fun _ => ofPure none
        | _ => exact ofThrow _)
      fun built => bind (baselines rest fun n hn => h n (List.mem_cons_of_mem m hn)) fun _ =>
        match built with
        | some _ => ofPure _
        | none => ofPure _

/-- A module is built with a group as the batch of the fixes that go in with its roots. -/
def replay (number : Nat) (group : List Candidate) (table : Estimate.Table)
    (m : DependentModule ω × Snapshot) (h : ctx.Builds m.1.verify) :
    Schedule ctx (Estimate.replay ctx.workspace number group table m) :=
  bind (batch h _ fun ds => (Estimate.contribution m.2 group ds, .ok ())) fun run =>
    match run.outcome with
    | .error e => ofThrow e
    | .ok _ => ite (bind (log _) fun _ => ofPure _) (bind (log _) fun _ => ofPure _)

def replayGroups {active : List (DependentModule ω × Snapshot)}
    (h : ∀ m ∈ active, ctx.Builds m.1.verify) (number : Nat) (table : Estimate.Table) :
    (groups : List (List Candidate)) →
      Schedule ctx (Estimate.replayGroups ctx.workspace active number table groups)
  | [] => ofPure table
  | group :: rest =>
    bind (foldlM active (fun table m hm => replay ctx number group table m (h m hm)) table)
      fun _ => replayGroups h (number + 1) _ rest

def estimate (g : Graph) (rs : Reports) : Schedule ctx (Exploration.estimate ctx g rs) :=
  bind
    (ite (ofPure _) <| bind (log _) fun _ =>
      bindReturned (baselines ctx ctx.modules fun m hm => .inr ⟨m, hm, rfl⟩) fun _ hactive =>
        replayGroups ctx (fun m hm => .inr ⟨m.1, mem_of_baselines hactive m hm, rfl⟩) 0 _ _)
    fun _ => ofPure _

def decideEach (last : Bool) (settled : List Fix) :
    (rs : Reports) → Schedule ctx (Exploration.decideEach ctx last settled rs)
  | [] => ofPure _
  | r :: rest => by
    unfold Exploration.decideEach
    cases Exploration.verdict? ctx last settled r with
    | none => exact bind (decideEach last settled rest) fun _ => ofPure _
    | some tag => exact bind (log _) fun _ => bind (decideEach last settled rest) fun _ => ofPure _

def decideReports (last : Bool) (rs : Reports) :
    Schedule ctx (Exploration.decideReports ctx last rs) := decideEach ctx last rs.settled rs

def conclude (rs : Reports) (reached : Nat) (exceeded : Bool) :
    Schedule ctx (Exploration.conclude rs reached exceeded) :=
  bindGet fun _ => bind (log _) fun _ =>
    ite (bind (log _) fun _ => bind (log _) fun _ => ofPure _) (bind (log _) fun _ => ofPure _)

def finish (rs : Reports) (reached : Nat) : Schedule ctx (Exploration.finish ctx rs reached) :=
  ite (bind (log _) fun _ => bind (decideReports ctx true rs) fun _ => conclude ctx _ _ _)
    (bind (decideReports ctx true rs) fun _ => conclude ctx _ _ _)

def descend (depth : Nat) (rs : Reports) :
    (budget : Nat) → Schedule ctx (Exploration.descend ctx depth rs budget)
  | 0 => ofPure _
  | budget + 1 => bindGet fun _ => ite (ofPure _) <|
    bind (log _) fun _ => bind (level ctx _ depth rs) fun p =>
      bind (decideReports ctx false p.2) fun rs => descend (depth + 1) rs budget

def follow (rs : Reports) : Schedule ctx (Exploration.follow ctx rs) := by
  unfold Exploration.follow
  cases ctx.depth.levels? with
  | none => exact ofThrow _
  | some budget => exact bind (descend ctx 1 rs budget) fun p => finish ctx p.1 p.2

def exploreFrom (baseline : Snapshot) (fixes : Option (List Fix)) :
    Schedule ctx (Exploration.exploreFrom ctx baseline fixes) :=
  bind (log _) fun _ => ite (conclude ctx _ 0 false) <|
    bind (level ctx _ 0 _) fun p =>
      ite (bind (ofPure p.2) fun rs => bind (decideReports ctx _ rs) fun rs => follow ctx rs)
        (bind (estimate ctx p.1 p.2) fun rs => bind (decideReports ctx _ rs) fun rs => follow ctx rs)

/-- An exploration builds what is there first. -/
def buildBaseline : Schedule ctx (Exploration.buildBaseline ctx) :=
  bind (change _ fun _ => rfl) fun _ =>
    attempt (map (alone (.inl rfl))) fun e => by
      cases e with
      | workspace e => exact ofPure _
      | _ => exact ofThrow _

def explore (fixes : Option (List Fix)) : Schedule ctx (Exploration.explore ctx fixes) :=
  bind (log _) fun _ => bind (buildBaseline ctx) fun built =>
    match built with
    | .error _ => bind (log _) fun _ => conclude ctx _ 0 false
    | .ok _ => bind (change _ fun _ => rfl) fun _ => bind (log _) fun _ => exploreFrom ctx _ fixes

end

end Schedule
end FixTrial
