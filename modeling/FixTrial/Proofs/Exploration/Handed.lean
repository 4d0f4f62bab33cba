import FixTrial.Proofs.Exploration.Provenance
import FixTrial.Proofs.Workspace.Noted

/-!
What an exploration hands over to its workspace: level by level batches of the nodes of that level,
and nothing else, whatever fails on the way.
-/
namespace FixTrial
open Act

/-- The same exploration, with a note of the batches that are handed over. -/
def Context.noted {ω : Type} (ctx : Context ω) : Context (Noted ω) :=
  ctx.on ctx.workspace.noted (ctx.modules.map fun m => ⟨m.name, Noted.inside m.verify⟩)

namespace Trial
variable {ω : Type}

/-- A trial, noted from now on. -/
def noted (t : Trial ω) : Trial (Noted ω) :=
  { t with site := ⟨⟨t.site.world, []⟩, t.site.locked⟩ }

/-- A noted trial without its note. -/
def forget (t : Trial (Noted ω)) : Trial ω :=
  { t with site := ⟨t.site.world.world, t.site.locked⟩ }

/-- The batches that were handed over. -/
def handed (t : Trial (Noted ω)) : List (List Fix) := t.site.world.handed

/-- The levels that were opened, as the journal tells. -/
def levels (t : Trial ω) : List Nat := t.journal.filterMap Event.level?

theorem levels_log {e : Event} (t : Trial ω) (he : e.level? = none) :
    Trial.levels { t with journal := t.journal ++ [e] } = t.levels := by
  simp [levels, he]

theorem levels_opened (t : Trial ω) (depth : Nat) (g : Graph) :
    (t.opened depth g).levels = t.levels ++ [depth] := by
  simp [levels, opened, Event.level?]

end Trial

namespace Graph

/-- A batch of some nodes of a graph. -/
def Batches (g : Graph) (batch : List Fix) : Prop :=
  ∃ ns : List Node, (∀ n ∈ ns, n ∈ g.nodes) ∧ batch = Fix.dedupe (ns.flatMap (·.fixes))

/-- A note says what an earlier one says, and then batches of a graph. -/
def Adds (past : List (List Fix)) (g : Graph) (note : List (List Fix)) : Prop :=
  ∃ part, note = past ++ part ∧ ∀ batch ∈ part, g.Batches batch

end Graph

namespace Exploration
open FixTrial.Graph
variable {ω : Type} {ctx : Context ω} {P : List (List Fix) → Prop} {fixes : Option (List Fix)}
  {t : Trial ω} {base : List Diagnostic} {depth budget D : Nat} {g h : Graph} {rs : Reports}
  {ns : List Node} {source : RegionSource} {f : Fix} {ls : List Nat} {past : List (List Fix)}
  {parts : List (List (List Fix))}

/-- A noted trial and the trial that it notes: the journal tells of the levels, and the note has the
property. -/
def Notes (ls : List Nat) (P : List (List Fix) → Prop) (t' : Trial (Noted ω))
    (t : Trial ω) : Prop :=
  t'.forget = t ∧ t'.levels = ls ∧ P t'.handed

theorem buildsAlike_noted (w : Workspace ω) (v : Act ω (List Diagnostic)) :
    BuildsAlike (Notes ls P) (fun _ => True) (fun fs => Noted.Admits P (Fix.dedupe fs)) w.noted w
      (Noted.inside v) v := by
  constructor
  · rintro β fs m hfs - t' _ ⟨rfl, hls, ht⟩
    obtain ⟨run, y, world, ⟨rfl, hy⟩, hnoted, hplain⟩ :=
      Batch.run_alike (Noted.alike_build hfs w v) (Noted.alike_handing hfs (w.revert _)) m
        t'.site.locked ⟨rfl, ht⟩
    have hsite : t'.forget.site = ⟨t'.site.world.world, t'.site.locked⟩ := rfl
    have hsite' : t'.site = ⟨t'.site.world, t'.site.locked⟩ := rfl
    unfold Trial.batch
    rw [hsite, hplain, hsite', hnoted]
    exact .ok ⟨rfl, fun _ _ => trivial⟩ ⟨rfl, hls, hy⟩
  · rintro t' _ ⟨rfl, hls, ht⟩
    have hv := Noted.alike_inside v t'.site.world t'.site.world.world ⟨rfl, ht⟩
    unfold Trial.onSite Site.holding Trial.forget
    dsimp only
    generalize Noted.inside v t'.site.world = r' at hv ⊢
    generalize v t'.site.world.world = r at hv ⊢
    cases hv with
    | ok hds hy =>
      obtain ⟨rfl, hy⟩ := hy
      exact .ok hds ⟨rfl, hls, hy⟩
    | error he hy =>
      obtain ⟨rfl, hy⟩ := hy
      exact .error (.inl he) ⟨rfl, hls, hy⟩

/-- As far as its batches keep a property of the note, a noted exploration goes like the one that it
notes. -/
theorem twins_noted (ctx : Context ω) (ls : List Nat) (P : List (List Fix) → Prop) :
    Twins (Notes ls P) (fun _ => True) (fun fs => Noted.Admits P (Fix.dedupe fs))
      ctx.noted.workspace ctx.workspace ctx.noted.modules ctx.modules := by
  constructor
  · rintro t' _ ⟨rfl, -⟩
    exact ⟨rfl, rfl, rfl, rfl⟩
  · rintro t' _ ⟨rfl, ht⟩ _ _ _ _
    exact ⟨rfl, ht⟩
  · rintro t' _ e he ⟨rfl, hls, ht⟩
    have hlevel : e.level? = none := by
      rw [← Option.not_isSome_iff_eq_none, (Bool.or_eq_false_iff.mp he).2]
      exact Bool.false_ne_true
    exact ⟨rfl, (Trial.levels_log t' hlevel).trans hls, ht⟩
  · exact buildsAlike_noted ctx.workspace ctx.workspace.verify
  · refine List.forall₂_map_left_iff.mpr (List.forall₂_same.mpr ?_)
    exact fun m _ => ⟨rfl, buildsAlike_noted ctx.workspace m.verify⟩

theorem notes_verdict {t' : Trial (Noted ω)} (e : Event) (he : e.isVerdict = true)
    (hs : Notes ls P t' t) : Notes ls P
      { t' with journal := t'.journal ++ [e] } { t with journal := t.journal ++ [e] } := by
  obtain ⟨rfl, hls, ht⟩ := hs
  have hlevel : e.level? = none := by
    cases e with
    | tagged => rfl
    | _ => cases he
  exact ⟨rfl, (Trial.levels_log t' hlevel).trans hls, ht⟩

/-- However a pass measured its nodes, their fixes are those of the nodes that went into it. -/
theorem nodes_of_pass (hb : h.bare = (prepared source g).bare) (hns : ∀ n ∈ ns, n ∈ h.nodes) :
    ∃ ms : List Node, (∀ m ∈ ms, m ∈ g.nodes) ∧ ns.flatMap (·.fixes) = ms.flatMap (·.fixes) := by
  induction ns with
  | nil => exact ⟨[], by simp, rfl⟩
  | cons n rest ih =>
    rw [List.forall_mem_cons] at hns
    obtain ⟨m, hm, -, hfixes⟩ := node_of_pass hb hns.1
    obtain ⟨ms, hms, hrest⟩ := ih hns.2
    refine ⟨m :: ms, List.forall_mem_cons.mpr ⟨hm, hms⟩, ?_⟩
    rw [List.flatMap_cons, List.flatMap_cons, hfixes, hrest]

/-- A level of a graph runs batches of that graph alone. -/
theorem allows_adds (past : List (List Fix)) (source : RegionSource) (g : Graph) :
    Allows (fun fs => Noted.Admits (Adds past g) (Fix.dedupe fs)) (prepared source g) := by
  rintro h ns hb hns _ ⟨part, rfl, hpart⟩
  obtain ⟨ms, hms, hfixes⟩ := nodes_of_pass hb hns
  refine ⟨part ++ [Fix.dedupe (ns.flatMap (·.fixes))], List.append_assoc .., ?_⟩
  intro batch hbatch
  rcases List.mem_append.mp hbatch with hold | hnew
  · exact hpart batch hold
  · obtain rfl := List.mem_singleton.mp hnew
    exact ⟨ms, hms, by rw [hfixes]⟩

/-- What was handed over since a trial started falls into parts, one for each level that was opened,
and no more of them than were asked for. The part of a level begins as that is opened. It is of
batches of nodes of the level, each of them of a root and with fixes that are warranted for it. -/
structure Parted (ctx : Context (Noted ω)) (fixes : Option (List Fix)) (t : Trial (Noted ω))
    (parts : List (List (List Fix))) (s : Trial (Noted ω)) : Prop where
  handed : s.handed = t.handed ++ parts.flatten
  levels : s.levels = t.levels ++ List.range parts.length
  bounded : parts.length ≤ ctx.depth.levels?.getD 0 + 1
  opened : ∀ (d : Nat) part, parts[d]? = some part → ∃ base g rs bs s₀,
    Opens ctx fixes t base d g rs bs s₀ ∧ s₀.handed = t.handed ++ (parts.take d).flatten ∧
      Grounded ctx fixes t base d g ∧ ∀ batch ∈ part, g.Batches batch

section
variable {ctx : Context (Noted ω)} {t s u : Trial (Noted ω)} {bs : List (GroupBuild (Noted ω))}

theorem parted_nil (hhanded : s.handed = t.handed) (hlevels : s.levels = t.levels) :
    Parted ctx fixes t [] s :=
  ⟨by simp [hhanded], by simp [hlevels], Nat.zero_le _, by simp⟩

theorem Parted.congr (hs : Parted ctx fixes t parts s) (hhanded : u.handed = s.handed)
    (hlevels : u.levels = s.levels) : Parted ctx fixes t parts u :=
  ⟨hhanded.trans hs.handed, hlevels.trans hs.levels, hs.bounded, hs.opened⟩

/-- The level that is opened next adds its part. -/
theorem Parted.snoc (hs : Parted ctx fixes t parts s)
    (ho : Opens ctx fixes t base parts.length g rs bs (s.opened parts.length g))
    (hdepth : parts.length ≤ ctx.depth.levels?.getD 0)
    (hlevels : u.levels = (s.opened parts.length g).levels) (hu : Adds s.handed g u.handed) :
    ∃ part, Parted ctx fixes t (parts ++ [part]) u := by
  obtain ⟨part, hhanded, hpart⟩ := hu
  refine ⟨part, ?_, ?_, ?_, ?_⟩
  · rw [hhanded, hs.handed]
    simp
  · rw [hlevels, Trial.levels_opened, hs.levels]
    simp [List.range_succ]
  · simpa using hdepth
  · intro d q hq
    rcases Nat.lt_or_ge d parts.length with hlt | hge
    · rw [List.getElem?_append_left hlt] at hq
      rw [List.take_append_of_le_length (Nat.le_of_lt hlt)]
      exact hs.opened d q hq
    · rw [List.getElem?_append_right hge, List.getElem?_singleton] at hq
      split at hq
      next hd =>
        obtain rfl : d = parts.length := by omega
        obtain rfl := Option.some.inj hq
        rw [List.take_left]
        exact ⟨base, g, rs, bs, _, ho, hs.handed, (provided_of_opens ho).grounded, hpart⟩
      next => cases hq

end

section Runs
variable (ctx fixes t)

/-- A noted trial and the trial that it notes, of an exploration that started with `t`. -/
def Kept (s' : Trial (Noted ω)) (s : Trial ω) : Prop :=
  s'.forget = s ∧ ∃ parts, Parted ctx.noted fixes t.noted parts s'

/-- The noted run ends as the plain one, with a note that falls into the parts of its levels. -/
abbrev RunsAlike {α : Type} (x' : EStateM.Result Fault (Trial (Noted ω)) α)
    (x : EStateM.Result Fault (Trial ω) α) : Prop :=
  Ends (Kept ctx fixes t) (fun _ => True) (Both fun _ => True) x' x

variable {ctx fixes t} {s' : Trial (Noted ω)} {s : Trial ω} {bs : List (GroupBuild (Noted ω))}

/-- Nothing is handed over, and no level opened, but for batches of the level that runs. -/
theorem kept_of_adds (hs : Parted ctx.noted fixes t.noted parts s')
    (ho : Opens ctx.noted fixes t.noted base parts.length g rs bs (s'.opened parts.length g))
    (hdepth : parts.length ≤ ctx.depth.levels?.getD 0) {u' : Trial (Noted ω)} {u : Trial ω}
    (hu : Notes (s'.opened parts.length g).levels (Adds s'.handed g) u' u) :
    Kept ctx fixes t u' u := by
  obtain ⟨hforget, hlevels, hadds⟩ := hu
  obtain ⟨part, hparted⟩ := hs.snoc ho hdepth hlevels hadds
  exact ⟨hforget, _, hparted⟩

theorem kept_of_same (hs : Parted ctx.noted fixes t.noted parts s') {u' : Trial (Noted ω)}
    {u : Trial ω} (hu : Notes s'.levels (fun note => note = s'.handed) u' u) :
    Kept ctx fixes t u' u := by
  obtain ⟨hforget, hlevels, hhanded⟩ := hu
  exact ⟨hforget, parts, hs.congr hhanded hlevels⟩

theorem notes_opened (s' : Trial (Noted ω)) (depth : Nat) (g : Graph) :
    Notes (s'.opened depth g).levels (Adds s'.handed g) (s'.opened depth g)
      (s'.forget.opened depth g) :=
  ⟨rfl, rfl, [], (List.append_nil _).symm, by simp⟩

/-- A level hands over batches of its nodes. -/
theorem level_noted (hg : g.Arena) (hs : Notes ls (Adds past g) s' s) :
    Ends (Notes ls (Adds past g)) (fun _ => True)
      (Both fun p => p.1.bare = (prepared ctx.regions g).bare) (level ctx.noted g depth rs s')
      (level ctx g depth rs s) :=
  (twins_noted ctx ls (Adds past g)).level hg (allows_adds past ctx.regions g) depth rs s' s hs

theorem decide_noted {final : Bool} (hs : Notes ls P s' s) :
    Ends (Notes ls P) (fun _ => True) (Both fun _ => True) (decideReports ctx.noted final rs s')
      (decideReports ctx final rs s) :=
  Twins.decideReports notes_verdict final rs s' s hs

/-- A descent opens the levels of its reports one after the other, as far as they may go. -/
theorem descend_noted (hD : ctx.depth.levels? = some D) (hbudget : depth + budget = D + 1)
    (hfirst : depth ≠ 0) (hparts : parts.length = depth)
    (hs : Parted ctx.noted fixes t.noted parts s')
    (hopen : (nextLevel ctx s'.bank.before rs).size ≠ 0 →
      Opens ctx.noted fixes t.noted base depth (nextLevel ctx s'.bank.before rs) rs bs
        (s'.opened depth (nextLevel ctx s'.bank.before rs))) :
    RunsAlike ctx fixes t (descend ctx.noted depth rs budget s')
      (descend ctx depth rs budget s'.forget) := by
  induction budget generalizing depth rs bs s' parts with
  | zero => exact .ok ⟨rfl, trivial⟩ ⟨rfl, parts, hs⟩
  | succ budget ih =>
    have hbank : s'.forget.bank = s'.bank := rfl
    have hnext : nextLevel ctx.noted s'.bank.before rs = nextLevel ctx s'.bank.before rs := rfl
    unfold descend
    rw [get_bind, get_bind]
    dsimp only
    rw [hbank, hnext]
    by_cases hsize : (nextLevel ctx s'.bank.before rs).size = 0
    · rw [if_pos hsize, if_pos hsize]
      exact .ok ⟨rfl, trivial⟩ ⟨rfl, parts, hs⟩
    · rw [if_neg hsize, if_neg hsize, log_bind, log_bind]
      have ho := hopen hsize
      have hdepth : parts.length ≤ ctx.depth.levels?.getD 0 := by
        rw [hD, Option.getD_some]
        omega
      subst hparts
      have harena : (nextLevel ctx s'.bank.before rs).Arena := arena_of_built built_nextLevel
      refine (level_noted harena (notes_opened s' _ _)).bind
        (fun _ _ => kept_of_adds hs ho hdepth) ?_
      rintro ⟨h, folded⟩ _ s₁' s₁ hl ⟨rfl, -⟩ hs₁
      refine (decide_noted hs₁).bind (fun _ _ => kept_of_adds hs ho hdepth) ?_
      rintro decided _ s₂' _ hd ⟨rfl, -⟩ ⟨rfl, hlevels, hadds⟩
      obtain ⟨cs, hbuilds⟩ := (level_ok_iff ctx.noted).mp hl
      have hw : weigh ctx.noted parts.length h folded s₁' = .ok decided s₂' := by
        simpa [weigh, hfirst] using hd
      obtain ⟨part, hparted⟩ := hs.snoc ho hdepth hlevels hadds
      exact ih (by omega) (Nat.succ_ne_zero _) (by simp) hparted
        fun hnext => .next ho hbuilds hw hnext

theorem follow_noted (hparts : parts.length = 1) (hs : Parted ctx.noted fixes t.noted parts s')
    (hopen : (nextLevel ctx s'.bank.before rs).size ≠ 0 →
      Opens ctx.noted fixes t.noted base 1 (nextLevel ctx s'.bank.before rs) rs bs
        (s'.opened 1 (nextLevel ctx s'.bank.before rs))) :
    RunsAlike ctx fixes t (follow ctx.noted rs s') (follow ctx rs s'.forget) := by
  have hlevels : ctx.noted.depth.levels? = ctx.depth.levels? := rfl
  unfold follow
  rw [hlevels]
  cases hD : ctx.depth.levels? with
  | none => exact .error trivial ⟨rfl, parts, hs⟩
  | some D =>
    refine (descend_noted hD (Nat.add_comm 1 D) Nat.one_ne_zero hparts hs hopen).bind
      (fun _ _ => id) ?_
    rintro ⟨last, reached⟩ _ s₁' _ - ⟨rfl, -⟩ ⟨rfl, parts₁, hs₁⟩
    have hfinish : Alike (Notes s₁'.levels fun note => note = s₁'.handed) (fun _ => True)
        (Both fun _ => True) (finish ctx.noted last reached) (finish ctx last reached) :=
      (twins_noted ctx _ _).finish notes_verdict last reached
    exact (hfinish s₁' s₁'.forget ⟨rfl, rfl, rfl⟩).mono (fun _ _ => kept_of_same hs₁) fun _ _ => id

theorem exploreFrom_noted {s₀ : Trial (Noted ω)}
    (hbase : buildBaseline ctx.noted
      { t.noted with journal := t.noted.journal ++ [.started ctx.depth ctx.mode] } =
        .ok (.ok base) s₀)
    (hs' : s' = { s₀ with
      bank := .baseline base, journal := s₀.journal ++ [.baselineBuilt base.length] })
    (hs : Parted ctx.noted fixes t.noted [] s') :
    RunsAlike ctx fixes t (exploreFrom ctx.noted ⟨base⟩ fixes s')
      (exploreFrom ctx ⟨base⟩ fixes s'.forget) := by
  obtain ⟨g, first, hlevel⟩ : ∃ g first,
      firstLevel ctx ⟨base⟩ (roots ctx ⟨base⟩ fixes) = (g, first) := ⟨_, _, rfl⟩
  have hnoted : firstLevel ctx.noted ⟨base⟩ (roots ctx.noted ⟨base⟩ fixes) = (g, first) := hlevel
  have ho : Opens ctx.noted fixes t.noted base 0 g first [] (s'.opened 0 g) :=
    hs' ▸ .first hbase hnoted
  unfold exploreFrom
  rw [hlevel, hnoted]
  dsimp only
  rw [log_bind, log_bind]
  by_cases hsize : g.size = 0
  · rw [if_pos hsize, if_pos hsize]
    exact ((twins_noted ctx _ _).conclude first 0 false _ _ (notes_opened s' 0 g)).mono
      (fun _ _ => kept_of_adds hs ho (Nat.zero_le _)) fun _ _ => id
  · rw [if_neg hsize, if_neg hsize]
    have harena : g.Arena := arena_of_built (provided_of_opens ho).built
    refine (level_noted harena (notes_opened s' 0 g)).bind
      (fun _ _ => kept_of_adds hs ho (Nat.zero_le _)) ?_
    rintro ⟨h, folded⟩ _ s₁' s₁ hl ⟨rfl, hbare⟩ hs₁
    obtain ⟨cs, hbuilds⟩ := (level_ok_iff ctx.noted).mp hl
    -- whatever was estimated, the verdicts complete the level, and may open the next one
    have hgo : ∀ estimated u' u, Notes (s'.opened 0 g).levels (Adds s'.handed g) u' u →
        (∀ decided v', decideReports ctx.noted ctx.depth.isZero estimated u' = .ok decided v' →
          weigh ctx.noted 0 h folded s₁' = .ok decided v') →
        RunsAlike ctx fixes t
          ((decideReports ctx.noted ctx.depth.isZero estimated >>= follow ctx.noted) u')
          ((decideReports ctx ctx.depth.isZero estimated >>= follow ctx) u) := by
      intro estimated u' u hu hweigh
      refine (decide_noted hu).bind (fun _ _ => kept_of_adds hs ho (Nat.zero_le _)) ?_
      rintro decided _ v' _ hd ⟨rfl, -⟩ ⟨rfl, hlevels, hadds⟩
      obtain ⟨part, hparted⟩ := hs.snoc ho (Nat.zero_le _) hlevels hadds
      exact follow_noted rfl hparted fun hnext => .next ho hbuilds (hweigh decided v' hd) hnext
    have hmodules : ctx.noted.modules.isEmpty = ctx.modules.isEmpty := List.isEmpty_map
    have hzero : ctx.noted.depth.isZero = ctx.depth.isZero := rfl
    dsimp only
    rw [hmodules, hzero]
    by_cases hnone : ctx.modules.isEmpty
    · rw [if_pos hnone, if_pos hnone]
      refine hgo folded s₁' s₁ hs₁ fun decided v' hd => ?_
      simpa [weigh, hmodules, hnone, hzero] using hd
    · rw [if_neg hnone, if_neg hnone]
      have hallows := (allows_adds s'.handed ctx.regions g).of_bare_eq hbare
      refine ((twins_noted ctx _ _).estimate h folded hallows s₁' s₁ hs₁).bind
        (fun _ _ => kept_of_adds hs ho (Nat.zero_le _)) ?_
      rintro estimated _ s₂' s₂ hest ⟨rfl, -⟩ hs₂
      refine hgo estimated s₂' s₂ hs₂ fun decided v' hd => ?_
      have hasked : (decide (0 = 0) && !ctx.noted.modules.isEmpty) = true := by
        simpa [hmodules] using hnone
      unfold weigh
      rw [if_pos hasked]
      exact (bind_of_ok hest).trans (by simpa [hzero] using hd)

theorem explore_noted (ctx : Context ω) (fixes : Option (List Fix)) (t : Trial ω) :
    RunsAlike ctx fixes t (explore ctx.noted fixes t.noted) (explore ctx fixes t) := by
  have hstarted : Notes t.noted.levels (fun note => note = t.noted.handed)
      { t.noted with journal := t.noted.journal ++ [.started ctx.depth ctx.mode] }
      { t with journal := t.journal ++ [.started ctx.depth ctx.mode] } :=
    ⟨rfl, Trial.levels_log t.noted rfl, rfl⟩
  have hnone : Parted ctx.noted fixes t.noted [] t.noted := parted_nil rfl rfl
  unfold explore
  rw [log_bind, log_bind]
  have hbaseline : Alike (Notes t.noted.levels fun note => note = t.noted.handed) (fun _ => True)
      (Both fun _ => True) (buildBaseline ctx.noted) (buildBaseline ctx) :=
    (twins_noted ctx _ _).buildBaseline
  refine (hbaseline _ _ hstarted).bind (fun _ _ => kept_of_same hnone) ?_
  rintro built _ s' _ hbase ⟨rfl, -⟩ ⟨rfl, hlevels, hhanded⟩
  cases built with
  | error e =>
    dsimp only
    rw [log_bind, log_bind]
    refine ((twins_noted ctx _ _).conclude _ 0 false _ _ ?_).mono
      (fun _ _ => kept_of_same hnone) fun _ _ => id
    exact ⟨rfl, (Trial.levels_log s' rfl).trans hlevels, hhanded⟩
  | ok ds =>
    dsimp only
    rw [modify_bind, modify_bind, log_bind, log_bind]
    exact exploreFrom_noted hbase rfl
      (parted_nil hhanded ((Trial.levels_log _ rfl).trans hlevels))

/-- The noted exploration ends with `t'`, and the exploration that it notes ends the same. -/
def EndsNoted (ctx : Context ω) (fixes : Option (List Fix)) (t : Trial ω)
    (t' : Trial (Noted ω)) : Prop :=
  (∃ result, explore ctx.noted fixes t.noted = .ok result t' ∧
    explore ctx fixes t = .ok result t'.forget) ∨
  ∃ e, explore ctx.noted fixes t.noted = .error e t' ∧ explore ctx fixes t = .error e t'.forget

theorem parted_explore (ctx : Context ω) (fixes : Option (List Fix)) (t : Trial ω) :
    ∃ t', EndsNoted ctx fixes t t' ∧ ∃ parts, Parted ctx.noted fixes t.noted parts t' := by
  have hends := explore_noted ctx fixes t
  unfold EndsNoted
  generalize explore ctx.noted fixes t.noted = r' at hends
  generalize explore ctx fixes t = r at hends
  cases hends with
  | @ok result _ t' _ hv hr =>
    obtain ⟨rfl, -⟩ := hv
    obtain ⟨rfl, hparts⟩ := hr
    exact ⟨t', .inl ⟨result, rfl, rfl⟩, hparts⟩
  | @error e t' _ _ hr =>
    obtain ⟨rfl, hparts⟩ := hr
    exact ⟨t', .inr ⟨e, rfl, rfl⟩, hparts⟩

end Runs

theorem baseline_of_noted {site : Site (Noted ω)}
    (h : ctx.noted.workspace.baseline t.noted.site = .ok base site) :
    ∃ site, ctx.workspace.baseline t.site = .ok base site := by
  have hworld : t.noted.site.world.world = t.site.world := rfl
  change Site.holding (Noted.inside ctx.workspace.verify) t.noted.site = _ at h
  unfold Site.holding Noted.inside at h
  unfold Workspace.baseline Site.holding
  rw [hworld] at h
  cases hv : ctx.workspace.verify t.site.world with
  | error e world =>
    rw [hv] at h
    cases h
  | ok ds world =>
    rw [hv] at h
    cases h
    exact ⟨_, rfl⟩

/-- Whatever is in a batch of a level is warranted there for one of the roots. -/
theorem warranted_of_batches {ctx : Context ω} {t : Trial ω} {batch : List Fix}
    (hb : g.Batches batch) (hg : Grounded ctx fixes t base depth g) (hf : f ∈ batch) :
    ∃ root ∈ roots ctx ⟨base⟩ fixes, Warranted ctx fixes t base root depth f.key := by
  obtain ⟨ns, hns, rfl⟩ := hb
  have hkey : f.key ∈ (ns.flatMap (·.fixes)).map Fix.key :=
    (Fix.dedupe_same f.key).mp (List.mem_map_of_mem hf)
  obtain ⟨f', hf', hsame⟩ := List.mem_map.mp hkey
  obtain ⟨n, hn, hnf⟩ := List.mem_flatMap.mp hf'
  obtain ⟨hroot, hwarranted⟩ := hg n (hns n hn)
  exact ⟨n.root, hroot, hsame ▸ hwarranted f'.key (List.mem_map_of_mem hnf)⟩

/-- A batch that was handed over is one of a level that was opened. -/
theorem Parted.of_mem_handed {s' : Trial (Noted ω)} {batch : List Fix}
    (hs : Parted ctx.noted fixes t.noted parts s') (hb : batch ∈ s'.handed) :
    ∃ d ≤ ctx.depth.levels?.getD 0, ∃ base g rs bs s₀,
      Opens ctx.noted fixes t.noted base d g rs bs s₀ ∧
        Grounded ctx.noted fixes t.noted base d g ∧ g.Batches batch := by
  have hbounded : parts.length ≤ ctx.depth.levels?.getD 0 + 1 := hs.bounded
  rw [hs.handed] at hb
  obtain ⟨part, hpart, hmem⟩ := List.mem_flatten.mp hb
  obtain ⟨d, hd⟩ := List.getElem?_of_mem hpart
  have hlt : d < parts.length := (List.getElem?_eq_some_iff.mp hd).1
  obtain ⟨base, g, rs, bs, s₀, ho, -, hgrounded, hbatches⟩ := hs.opened d part hd
  exact ⟨d, by omega, base, g, rs, bs, s₀, ho, hgrounded, hbatches batch hmem⟩

/-- Where no follow-ups were asked for, just roots and what goes in with them were handed over. -/
theorem Parted.first {s' : Trial (Noted ω)} {batch : List Fix}
    (hs : Parted ctx.noted fixes t.noted parts s') (hzero : ctx.depth.levels?.getD 0 = 0)
    (hb : batch ∈ s'.handed) (hf : f ∈ batch) :
    ∃ base site, ctx.workspace.baseline t.site = .ok base site ∧
      ∃ root ∈ roots ctx ⟨base⟩ fixes,
        f.key = root.key ∨ f.key ∈ (ctx.link ⟨base⟩ root).map Fix.key := by
  obtain ⟨d, hd, base, g, rs, bs, s₀, ho, hgrounded, hbatch⟩ := hs.of_mem_handed hb
  obtain rfl : d = 0 := by omega
  obtain ⟨site, hsite⟩ := baseline_of_opens ho
  obtain ⟨plain, hplain⟩ := baseline_of_noted hsite
  obtain ⟨root, hroot, hwarranted⟩ := warranted_of_batches hbatch hgrounded hf
  exact ⟨base, plain, hplain, root, hroot, hwarranted.first⟩

/-- However an exploration ends, it ends the same with a note of what it hands over, to be put in or
taken out. The note falls into parts for the levels that the journal tells of, of which there are no
more than were asked for. Each batch of a part is one of nodes of its level. A node is of one of the
roots, and a fix that it has is that root, or goes in with it, or goes in with a fix that was
selected for it at that level or an earlier one: left to follow up, in the tree of no decided report,
and brought up at a level before by a build of the tree of the root's report, as a declared fix that
was not in it and resolves something new in a region that it impacts. If no follow-ups were asked
for, just the roots and what goes in with them is handed over. -/
theorem handed_of_explore (ctx : Context ω) (fixes : Option (List Fix)) (t : Trial ω) :
    ∃ t' : Trial (Noted ω),
      ((∃ result, explore ctx.noted fixes t.noted = .ok result t' ∧
          explore ctx fixes t = .ok result t'.forget) ∨
        ∃ e, explore ctx.noted fixes t.noted = .error e t' ∧
          explore ctx fixes t = .error e t'.forget) ∧
      (∃ parts, Parted ctx.noted fixes t.noted parts t') ∧
      (ctx.depth.levels?.getD 0 = 0 → ∀ batch ∈ t'.handed, ∀ f ∈ batch,
        ∃ base site, ctx.workspace.baseline t.site = .ok base site ∧
          ∃ root ∈ roots ctx ⟨base⟩ fixes,
            f.key = root.key ∨ f.key ∈ (ctx.link ⟨base⟩ root).map Fix.key) := by
  have hends := explore_noted ctx fixes t
  generalize hnoted : explore ctx.noted fixes t.noted = r' at hends
  generalize hplain : explore ctx fixes t = r at hends
  cases hends with
  | @ok result _ t' _ hv hr =>
    obtain ⟨rfl, -⟩ := hv
    obtain ⟨rfl, parts, hparts⟩ := hr
    exact ⟨t', .inl ⟨result, rfl, rfl⟩, ⟨parts, hparts⟩,
      fun hzero _ hb _ hf => hparts.first hzero hb hf⟩
  | @error e t' _ _ hr =>
    obtain ⟨rfl, parts, hparts⟩ := hr
    exact ⟨t', .inr ⟨e, rfl, rfl⟩, ⟨parts, hparts⟩,
      fun hzero _ hb _ hf => hparts.first hzero hb hf⟩

/-- A field, and those whose annotations it leads to, with one level of follow-ups: the second is
tried, and the third is not. -/
theorem handed_of_explore_chained :
    ∃ t' : Trial (Noted (List Fix)), t'.handed.map (fun batch => batch.map Fix.key) =
        [[(Fix.ofField "A" "x").key], [(Fix.ofField "A" "x").key],
          [(Fix.ofField "A" "x").key, (Fix.ofField "A" "y").key],
          [(Fix.ofField "A" "x").key, (Fix.ofField "A" "y").key]] ∧
      t'.levels = [0, 1] ∧ ∃ parts,
        Parted (chained 1).noted (some [.ofField "A" "x"]) (Trial.start []).noted parts t' := by
  have hkeys : (final (explore (chained 1).noted (some [.ofField "A" "x"])
      (Trial.start []).noted)).handed.map (fun batch => batch.map Fix.key) =
        [[(Fix.ofField "A" "x").key], [(Fix.ofField "A" "x").key],
          [(Fix.ofField "A" "x").key, (Fix.ofField "A" "y").key],
          [(Fix.ofField "A" "x").key, (Fix.ofField "A" "y").key]] := by
    decide +kernel
  have hlevels : (final (explore (chained 1).noted (some [.ofField "A" "x"])
      (Trial.start []).noted)).levels = [0, 1] := by
    decide +kernel
  obtain ⟨t', hruns, hparts, -⟩ :=
    handed_of_explore (chained 1) (some [.ofField "A" "x"]) (Trial.start [])
  have hfinal : final (explore (chained 1).noted (some [.ofField "A" "x"])
      (Trial.start []).noted) = t' := by
    rcases hruns with ⟨result, hnoted, -⟩ | ⟨e, hnoted, -⟩
    · rw [hnoted]
      rfl
    · rw [hnoted]
      rfl
  rw [hfinal] at hkeys hlevels
  exact ⟨t', hkeys, hlevels, hparts⟩

end Exploration
end FixTrial
