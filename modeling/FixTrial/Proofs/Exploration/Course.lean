import FixTrial.Proofs.Exploration.Reports

/-!
The course of an exploration: its reports each time they change, and the graphs of its levels, in
their order. Explorations that keep it are explorations, once it is forgotten.
-/
namespace FixTrial

/-- What can be seen of an exploration as it goes. -/
inductive Moment
  | reports (rs : Reports)
  | level (g : Graph)

abbrev Course := List Moment

namespace Exploration
open Act
variable {ω : Type} (ctx : Context ω)

def descendSeen (depth : Nat) (rs : Reports) : Nat → Act (Trial ω) (Course × Reports × Nat)
  | 0 => return ([], rs, depth - 1)
  | budget + 1 => do
    let g := nextLevel ctx (← get).bank.before rs
    if g.size = 0 then return ([], rs, depth - 1)
    Trial.log (.level depth g.size)
    let (_, folded) ← level ctx g depth rs
    let decided ← decideReports ctx false folded
    let (course, last) ← descendSeen (depth + 1) decided budget
    return (.level g :: .reports folded :: .reports decided :: course, last)

def finishSeen (rs : Reports) (depthReached : Nat) : Act (Trial ω) (Course × ExplorationResult) := do
  let result ← finish ctx rs depthReached
  return ([.reports result.reports], result)

def followSeen (rs : Reports) : Act (Trial ω) (Course × ExplorationResult) := do
  match ctx.depth.levels? with
  | none => throw .wrongType
  | some budget =>
    let (course, rs, reached) ← descendSeen ctx 1 rs budget
    let (rest, result) ← finishSeen ctx rs reached
    return (course ++ rest, result)

/-- The verdicts after the first level, and the levels below it. -/
def belowSeen (rs : Reports) : Act (Trial ω) (Course × ExplorationResult) := do
  let decided ← decideReports ctx ctx.depth.isZero rs
  let (course, result) ← followSeen ctx decided
  return (.reports decided :: course, result)

def exploreFromSeen (baseline : Snapshot) (fixes : Option (List Fix)) :
    Act (Trial ω) (Course × ExplorationResult) := do
  let (g, first) := firstLevel ctx baseline (roots ctx baseline fixes)
  Trial.log (.level 0 g.size)
  if g.size = 0 then
    let result ← conclude first 0 false
    return ([.reports first], result)
  else
    let (measured, folded) ← level ctx g 0 first
    let estimated ← if ctx.modules.isEmpty then pure folded else estimate ctx measured folded
    let (course, result) ← belowSeen ctx estimated
    return (.reports first :: .level g :: .reports folded :: .reports estimated :: course, result)

def exploreSeen (fixes : Option (List Fix)) : Act (Trial ω) (Course × ExplorationResult) := do
  Trial.log (.started ctx.depth ctx.mode)
  match ← buildBaseline ctx with
  | .error e =>
    Trial.log (.baselineFailed e.message)
    let result ← conclude ((Fix.dedupe (fixes.getD [])).map hopeless) 0 false
    return ([.reports result.reports], result)
  | .ok ds =>
    modify fun t => { t with bank := .baseline ds }
    Trial.log (.baselineBuilt ds.length)
    exploreFromSeen ctx ⟨ds⟩ fixes

theorem snd_descendSeen (depth : Nat) (rs : Reports) (budget : Nat) :
    Prod.snd <$> descendSeen ctx depth rs budget = descend ctx depth rs budget := by
  induction budget generalizing depth rs with
  | zero => simp [descendSeen, descend]
  | succ budget ih =>
    unfold descendSeen descend
    simp only [map_bind, ← ih]
    congr 1
    funext t
    split <;> simp [map_bind]

theorem snd_followSeen (rs : Reports) : Prod.snd <$> followSeen ctx rs = follow ctx rs := by
  unfold followSeen follow
  cases ctx.depth.levels? with
  | none => rfl
  | some budget => simp [← snd_descendSeen, finishSeen, map_bind]

theorem snd_exploreFromSeen (baseline : Snapshot) (fixes : Option (List Fix)) :
    Prod.snd <$> exploreFromSeen ctx baseline fixes = exploreFrom ctx baseline fixes := by
  unfold exploreFromSeen exploreFrom
  simp only [map_bind]
  congr 1
  funext _
  split
  · simp
  · simp only [map_bind]
    congr 1
    funext ⟨measured, folded⟩
    by_cases hm : ctx.modules.isEmpty <;> simp [hm, belowSeen, ← snd_followSeen, map_bind]

/-- The course is only looked at. -/
theorem snd_exploreSeen (fixes : Option (List Fix)) :
    Prod.snd <$> exploreSeen ctx fixes = explore ctx fixes := by
  unfold exploreSeen explore
  simp only [map_bind]
  congr 1
  funext _
  congr 1
  funext built
  cases built <;> simp [← snd_exploreFromSeen, map_bind]

section
variable {ctx : Context ω} {depth budget reached : Nat} {rs last : Reports} {course : Course}
  {t t' : Trial ω} {baseline : Snapshot} {fixes : Option (List Fix)} {result : ExplorationResult}

/-- A descent with levels left ends where nothing continues, or goes down one level. -/
theorem descendSeen_cases
    (h : descendSeen ctx depth rs (budget + 1) t = .ok (course, last, reached) t') :
    (nextLevel ctx t.bank.before rs).size = 0 ∧ course = [] ∧ last = rs ∧ reached = depth - 1 ∧
        t' = t ∨
      ∃ p t₁ rest,
        level ctx (nextLevel ctx t.bank.before rs) depth rs { t with
          journal := t.journal ++ [.level depth (nextLevel ctx t.bank.before rs).size] } =
            .ok p t₁ ∧
        descendSeen ctx (depth + 1) (p.2.map (settle ctx false p.2.settled)) budget { t₁ with
          journal := t₁.journal ++ p.2.filterMap (telling ctx false p.2.settled) } =
            .ok (rest, last, reached) t' ∧
        course = .level (nextLevel ctx t.bank.before rs) :: .reports p.2 ::
          .reports (p.2.map (settle ctx false p.2.settled)) :: rest := by
  unfold descendSeen at h
  rw [get_bind] at h
  dsimp only at h
  split at h
  next h0 =>
    cases h
    exact .inl ⟨h0, rfl, rfl, rfl, rfl⟩
  next =>
    rw [log_bind] at h
    obtain ⟨p, t₁, hl, h⟩ := bind_eq_ok.mp h
    rw [decideReports, bind_of_ok decideEach_eq] at h
    obtain ⟨⟨rest, last', reached'⟩, t₂, hrest, h⟩ := bind_eq_ok.mp h
    cases h
    exact .inr ⟨p, t₁, rest, hl, hrest, rfl⟩

/-- After the first level come its verdicts, a descent, and the last verdicts. -/
theorem belowSeen_cases (h : belowSeen ctx rs t = .ok (course, result) t') :
    ∃ D rest last reached t₁, ctx.depth.levels? = some D ∧
      descendSeen ctx 1 (rs.map (settle ctx ctx.depth.isZero rs.settled)) D { t with
        journal := t.journal ++ rs.filterMap (telling ctx ctx.depth.isZero rs.settled) } =
          .ok (rest, last, reached) t₁ ∧
      finish ctx last reached t₁ = .ok result t' ∧
      course = .reports (rs.map (settle ctx ctx.depth.isZero rs.settled)) ::
        (rest ++ [.reports result.reports]) := by
  unfold belowSeen at h
  rw [decideReports, bind_of_ok decideEach_eq] at h
  obtain ⟨⟨c, result'⟩, t₁, hf, h⟩ := bind_eq_ok.mp h
  cases h
  unfold followSeen at hf
  cases hD : ctx.depth.levels? with
  | none =>
    rw [hD] at hf
    cases hf
  | some D =>
    rw [hD] at hf
    obtain ⟨⟨rest, last, reached⟩, t₂, hd, hf⟩ := bind_eq_ok.mp hf
    obtain ⟨⟨c', result''⟩, t₃, hfin, hf⟩ := bind_eq_ok.mp hf
    cases hf
    obtain ⟨result'', t₄, hfin, hret⟩ := bind_eq_ok.mp hfin
    cases hret
    exact ⟨D, rest, last, reached, t₂, rfl, hd, hfin, rfl⟩

/-- Where there is nothing to try an exploration ends. Else it measures its first level, and may
estimate what that does to other modules. -/
theorem exploreFromSeen_cases {g : Graph} {first : Reports}
    (hstart : firstLevel ctx baseline (roots ctx baseline fixes) = (g, first))
    (h : exploreFromSeen ctx baseline fixes t = .ok (course, result) t') :
    g.size = 0 ∧ course = [.reports first] ∧
        conclude first 0 false { t with journal := t.journal ++ [.level 0 g.size] } =
          .ok result t' ∧ first = [] ∨
      ∃ p t₁ estimated t₂ rest,
        level ctx g 0 first { t with journal := t.journal ++ [.level 0 g.size] } = .ok p t₁ ∧
        (ctx.modules = [] ∧ estimated = p.2 ∧ t₂ = t₁ ∨
          estimate ctx p.1 p.2 t₁ = .ok estimated t₂) ∧
        belowSeen ctx estimated t₂ = .ok (rest, result) t' ∧
        course = .reports first :: .level g :: .reports p.2 :: .reports estimated :: rest := by
  unfold exploreFromSeen at h
  rw [hstart] at h
  dsimp only at h
  rw [log_bind] at h
  split at h
  next h0 =>
    obtain ⟨result', t₁, hc, h⟩ := bind_eq_ok.mp h
    cases h
    have hempty : (firstLevel ctx baseline (roots ctx baseline fixes)).2 = [] :=
      reports_of_size_zero (by rw [hstart]; exact h0)
    rw [hstart] at hempty
    exact .inl ⟨h0, rfl, hc, hempty⟩
  next =>
    obtain ⟨p, t₁, hl, h⟩ := bind_eq_ok.mp h
    have hbelow : ∀ {estimated : Reports} {t₂ : Trial ω},
        (belowSeen ctx estimated >>= fun q => pure (.reports first :: .level g :: .reports p.2 ::
          .reports estimated :: q.1, q.2)) t₂ = .ok (course, result) t' →
        ∃ rest, belowSeen ctx estimated t₂ = .ok (rest, result) t' ∧
          course = .reports first :: .level g :: .reports p.2 :: .reports estimated :: rest := by
      intro estimated t₂ h
      obtain ⟨⟨rest, result'⟩, t₃, hb, h⟩ := bind_eq_ok.mp h
      cases h
      exact ⟨rest, hb, rfl⟩
    split at h
    next hnone =>
      obtain ⟨rest, hb, hcourse⟩ := hbelow h
      exact .inr ⟨p, t₁, p.2, t₁, rest, hl, .inl ⟨List.isEmpty_iff.mp hnone, rfl, rfl⟩, hb, hcourse⟩
    next =>
      obtain ⟨estimated, t₂, hest, h⟩ := bind_eq_ok.mp h
      obtain ⟨rest, hb, hcourse⟩ := hbelow h
      exact .inr ⟨p, t₁, estimated, t₂, rest, hl, .inr hest, hb, hcourse⟩

/-- An exploration gives up where the baseline does not build, and else tries its roots. -/
theorem exploreSeen_cases (h : exploreSeen ctx fixes t = .ok (course, result) t') :
    (∃ e t₁, buildBaseline ctx { t with
          journal := t.journal ++ [.started ctx.depth ctx.mode] } = .ok (.error e) t₁ ∧
        conclude ((Fix.dedupe (fixes.getD [])).map hopeless) 0 false { t₁ with
          journal := t₁.journal ++ [.baselineFailed e.message] } = .ok result t' ∧
        course = [.reports result.reports]) ∨
      ∃ ds t₁, buildBaseline ctx { t with
          journal := t.journal ++ [.started ctx.depth ctx.mode] } = .ok (.ok ds) t₁ ∧
        exploreFromSeen ctx ⟨ds⟩ fixes { t₁ with
          bank := .baseline ds, journal := t₁.journal ++ [.baselineBuilt ds.length] } =
            .ok (course, result) t' := by
  unfold exploreSeen at h
  rw [log_bind] at h
  obtain ⟨built, t₁, hb, h⟩ := bind_eq_ok.mp h
  cases built with
  | error e =>
    dsimp only at h
    rw [log_bind] at h
    obtain ⟨result', t₂, hc, h⟩ := bind_eq_ok.mp h
    cases h
    exact .inl ⟨e, t₁, hb, hc, rfl⟩
  | ok ds =>
    dsimp only at h
    rw [modify_bind, log_bind] at h
    exact .inr ⟨ds, t₁, hb, h⟩

end

/-- A course that `rs` may take: decided reports stay, and no level has a node for one. -/
def Follows (rs : Reports) : Course → Prop
  | [] => True
  | .reports rs' :: rest => Keeps rs rs' ∧ Follows rs' rest
  | .level g :: rest =>
    (∀ r ∈ rs, r.isFinished = true → r.root.key ∉ g.nodes.map fun n => n.root.key) ∧
      Follows rs rest

/-- The reports at the end of a course that started with `rs`. -/
def latest (rs : Reports) : Course → Reports
  | [] => rs
  | .reports rs' :: rest => latest rs' rest
  | .level _ :: rest => latest rs rest

variable {rs : Reports} {course rest : Course} {r : Report} {i : Nat}

theorem follows_append :
    Follows rs (course ++ rest) ↔ Follows rs course ∧ Follows (latest rs course) rest := by
  induction course generalizing rs with
  | nil => simp [Follows, latest]
  | cons m course ih => cases m <;> simp [Follows, latest, ih, and_assoc]

theorem latest_append : latest rs (course ++ rest) = latest (latest rs course) rest := by
  induction course generalizing rs with
  | nil => rfl
  | cons m course ih => cases m <;> exact ih

theorem roots_of_follows (h : Follows rs course) :
    ∀ rs', .reports rs' ∈ course → rs'.map Report.root = rs.map Report.root := by
  induction course generalizing rs with
  | nil => simp
  | cons m course ih =>
    intro rs' hmem
    cases m with
    | level g => exact ih h.2 rs' (by simpa using hmem)
    | reports rs₁ =>
      rcases List.mem_cons.mp hmem with heq | hmem
      · obtain rfl : rs' = rs₁ := Moment.reports.inj heq
        exact roots_of_keeps h.1
      · rw [ih h.2 rs' hmem, roots_of_keeps h.1]

/-- Whatever course is followed, a decided report is not touched again. -/
theorem untouched_of_follows (h : Follows rs course) (hr : rs[i]? = some r)
    (hf : r.isFinished = true) :
    (∀ rs', .reports rs' ∈ course → rs'[i]? = some r) ∧
      ∀ g, .level g ∈ course → r.root.key ∉ g.nodes.map fun n => n.root.key := by
  induction course generalizing rs with
  | nil => simp
  | cons m course ih =>
    cases m with
    | level g =>
      obtain ⟨hreports, hlevels⟩ := ih h.2 hr
      refine ⟨fun rs' hmem => hreports rs' (by simpa using hmem), fun g' hmem => ?_⟩
      rcases List.mem_cons.mp hmem with heq | hmem
      · obtain rfl : g' = g := Moment.level.inj heq
        exact h.1 r (List.mem_of_getElem? hr) hf
      · exact hlevels g' hmem
    | reports rs₁ =>
      have hr₁ : rs₁[i]? = some r := getElem?_of_keeps h.1 hr hf
      obtain ⟨hreports, hlevels⟩ := ih h.2 hr₁
      refine ⟨fun rs' hmem => ?_, fun g hmem => hlevels g (by simpa using hmem)⟩
      rcases List.mem_cons.mp hmem with heq | hmem
      · obtain rfl : rs' = rs₁ := Moment.reports.inj heq
        exact hr₁
      · exact hreports rs' hmem

end Exploration

/-- A report that is decided stays as it is, and no later level has a node for its root. -/
def Course.Steady (course : Course) : Prop :=
  ∀ past rs later, course = past ++ .reports rs :: later →
    ∀ (i : Nat) r, rs[i]? = some r → r.isFinished = true →
      (∀ rs', .reports rs' ∈ later → rs'[i]? = some r) ∧
        ∀ g, .level g ∈ later → r.root.key ∉ g.nodes.map fun n => n.root.key

theorem Exploration.steady_of_follows {rs : Reports} {course : Course}
    (h : Follows rs course) : course.Steady := by
  rintro past rs' later rfl i r hr hf
  exact untouched_of_follows (follows_append.mp h).2.2 hr hf

end FixTrial
