import FixTrial.Proofs.Workspace.Contract
import Mathlib.Data.List.Chain

/-!
Trackers over a backend with a record of its calls. Of each fix the calls that succeed put it in and
take it out by turns, and it is on record of the tracker just if it was put in last. Nothing reads
the record of calls: without it there is the same tracker.
-/
namespace FixTrial
open Act Backend

/-- What a backend does to a fix. -/
inductive Verb
  | apply
  | remove
deriving DecidableEq

/-- A call of a backend, with the fault that it ended in, if it failed. -/
structure Call where
  verb : Verb
  fix : Fix
  fault : Option Fault

namespace Call
variable {calls : List Call} {c : Call} {k : FixKey} {vs : List Verb} {v : Verb}

def applied (f : Fix) : Call := ⟨.apply, f, none⟩

/-- An attempt to take a fix out, with the error that it ended in, if it failed. -/
def attempted (attempt : Fix × Option WorkspaceError) : Call :=
  ⟨.remove, attempt.1, attempt.2.map .workspace⟩

/-- What was done to the fix with a key, in order, without what failed. -/
def done (k : FixKey) (calls : List Call) : List Verb :=
  (calls.filter fun c => c.fix.key = k && c.fault.isNone).map Call.verb

/-- In and out by turns, in at first. -/
structure Alternate (vs : List Verb) : Prop where
  turns : vs.IsChain (· ≠ ·)
  first : ∀ v ∈ vs.head?, v = .apply

theorem done_snoc_of_fault (f : Fix) (e : Fault) :
    done k (calls ++ [⟨v, f, some e⟩]) = done k calls := by
  simp [done]

theorem done_snoc_of_ne {f : Fix} {fault : Option Fault} (h : f.key ≠ k) :
    done k (calls ++ [⟨v, f, fault⟩]) = done k calls := by
  simp [done, h]

theorem done_snoc (f : Fix) :
    done f.key (calls ++ [⟨v, f, none⟩]) = done f.key calls ++ [v] := by
  simp [done]

/-- The turn of a verb has come if the last one was another, and if there was none, that of
`apply`. -/
theorem alternate_snoc (h : Alternate vs) (hv : v = .apply ↔ vs.getLast? ≠ some .apply) :
    Alternate (vs ++ [v]) := by
  constructor
  · refine h.turns.append (List.isChain_singleton v) fun u hu w hw => ?_
    obtain rfl : v = w := by simpa using hw
    rintro rfl
    rw [Option.mem_def] at hu
    cases u <;> simp [hu] at hv
  · intro w hw
    cases vs with
    | nil =>
      obtain rfl : v = w := by simpa using hw
      simpa using hv
    | cons u vs => exact h.first w (by simpa using hw)

end Call

/-- A world, and the calls that were made on it so far. -/
structure Recorded (ω : Type) where
  world : ω
  calls : List Call

namespace Recorded
variable {ω α : Type}

/-- An action on the world alone, as a call that is recorded however it ends. -/
def calling (verb : Verb) (f : Fix) (act : Act ω Unit) : Act (Recorded ω) Unit := fun x =>
  match act x.world with
  | .ok () world => .ok () ⟨world, x.calls ++ [⟨verb, f, none⟩]⟩
  | .error e world => .error e ⟨world, x.calls ++ [⟨verb, f, some e⟩]⟩

/-- A tracker without the record of calls. -/
def erase (t : Tracked (Recorded ω)) : Tracked ω := ⟨t.world.world, t.injected⟩

/-- The end of a run without the record of calls. -/
def forget (r : EStateM.Result Fault (Tracked (Recorded ω)) α) :
    EStateM.Result Fault (Tracked ω) α :=
  match r with
  | .ok a t => .ok a (erase t)
  | .error e t => .error e (erase t)

end Recorded

/-- The backend, with a record of its calls. -/
def Backend.recorded {ω : Type} (b : Backend ω) : Backend (Recorded ω) where
  apply f := Recorded.calling .apply f (b.apply f)
  remove f := Recorded.calling .remove f (b.remove f)

namespace Recorded
open Call
variable {ω α : Type} {b : Backend ω} {t t' : Tracked (Recorded ω)} {f : Fix} {fs fixes : List Fix}
  {x x' : Recorded ω} {act : Act ω Unit} {attempts : List (Fix × Option WorkspaceError)}
  {verb : Verb} {c : Call} {e : Fault}

theorem recorded_apply (b : Backend ω) (f : Fix) (x : Recorded ω) :
    b.recorded.apply f x = calling .apply f (b.apply f) x := rfl

theorem recorded_remove (b : Backend ω) (f : Fix) (x : Recorded ω) :
    b.recorded.remove f x = calling .remove f (b.remove f) x := rfl

theorem erase_final (r : EStateM.Result Fault (Tracked (Recorded ω)) α) :
    erase (final r) = final (forget r) := by
  cases r <;> rfl

/-- A recorded world and the world that is recorded. -/
def Of (x : Recorded ω) (world : ω) : Prop := x.world = world

theorem alike_calling (verb : Verb) (f : Fix) (act : Act ω Unit) :
    Alike Of (fun _ => True) (Both fun _ => True) (calling verb f act) act := by
  rintro x _ rfl
  unfold calling
  cases act x.world with
  | ok _ world => exact .ok ⟨rfl, trivial⟩ rfl
  | error e world => exact .error trivial rfl

/-- Where the record makes no difference to an action, to forget it gives back the plain run. -/
theorem forget_of_alike {act' : Act (Tracked (Recorded ω)) α} {act : Act (Tracked ω) α}
    (h : Alike (Tracked.Over Of) (fun _ => True) (Both fun _ => True) act' act)
    (t : Tracked (Recorded ω)) : forget (act' t) = act (erase t) := by
  have herase : ∀ {y : Tracked (Recorded ω)} {s : Tracked ω}, Tracked.Over Of y s → erase y = s := by
    rintro y s ⟨hworld, hinjected⟩
    unfold erase
    rw [hworld, hinjected]
  have hends := h t (erase t) ⟨rfl, rfl⟩
  generalize act' t = r' at hends ⊢
  generalize act (erase t) = r at hends ⊢
  cases hends with
  | ok hv hr => rw [forget, hv.1, herase hr]
  | error _ hr => rw [forget, herase hr]

theorem forget_injectEach (b : Backend ω) (fs : List Fix) (t : Tracked (Recorded ω)) :
    forget (b.recorded.injectEach fs t) = b.injectEach fs (erase t) :=
  forget_of_alike (alike_injectEach (fun f => alike_calling .apply f (b.apply f)) fs) t

theorem forget_revert (b : Backend ω) (fixes : List Fix) (t : Tracked (Recorded ω)) :
    forget (b.recorded.revert fixes t) = b.revert fixes (erase t) :=
  forget_of_alike
    (alike_revert (fun _ => trivial) (fun f => alike_calling .remove f (b.remove f)) fixes) t

theorem calls_of_ok (h : calling verb f act x = .ok () x') :
    x'.calls = x.calls ++ [⟨verb, f, none⟩] := by
  unfold calling at h
  cases ha : act x.world <;> rw [ha] at h <;> cases h
  rfl

theorem calls_of_error (h : calling verb f act x = .error e x') :
    x'.calls = x.calls ++ [⟨verb, f, some e⟩] := by
  unfold calling at h
  cases ha : act x.world <;> rw [ha] at h <;> cases h
  rfl

theorem raises_of_calling (h : (calling verb f act).Raises e) : act.Raises e := by
  obtain ⟨x, x', h⟩ := h
  unfold calling at h
  cases ha : act x.world <;> rw [ha] at h <;> cases h
  exact ⟨_, _, ha⟩

theorem expected_recorded (hb : b.Expected) : b.recorded.Expected :=
  ⟨fun f e he => hb.apply f e (raises_of_calling he),
    fun f e he => hb.remove f e (raises_of_calling he)⟩

/-- What a tracker has on record is what its calls came to: they put each fix in and take it out by
turns, and on record is what was put in last. -/
structure Agrees (t : Tracked (Recorded ω)) : Prop where
  alternate : ∀ k, Alternate (done k t.world.calls)
  held : ∀ k, k ∈ t.injected.map Fix.key ↔ (done k t.world.calls).getLast? = some .apply

theorem agrees_start (world : ω) : Agrees (.start ⟨world, []⟩) :=
  ⟨fun _ => ⟨.nil, fun _ hv => nomatch hv⟩, by simp [done, Tracked.start]⟩

/-- A call that fails changes nothing. -/
theorem agrees_failed (h : Agrees t) (world : ω) (verb : Verb) (f : Fix) (e : Fault) :
    Agrees ⟨⟨world, t.world.calls ++ [⟨verb, f, some e⟩]⟩, t.injected⟩ := by
  constructor <;> intro k <;> rw [done_snoc_of_fault]
  · exact h.alternate k
  · exact h.held k

/-- A tracker makes a call only when its turn has come. -/
theorem agrees_done (verb : Verb) (f : Fix) (h : Agrees t)
    (hcalls : t'.world.calls = t.world.calls ++ [⟨verb, f, none⟩])
    (hturn : verb = .apply ↔ ¬ t.holds f = true)
    (hheld : ∀ k, k ∈ t'.injected.map Fix.key ↔
      if k = f.key then verb = .apply else k ∈ t.injected.map Fix.key) : Agrees t' := by
  rw [Tracked.holds_iff, h.held] at hturn
  constructor
  · intro k
    rw [hcalls]
    by_cases hk : f.key = k
    · subst hk
      rw [done_snoc]
      exact alternate_snoc (h.alternate _) hturn
    · rw [done_snoc_of_ne hk]
      exact h.alternate k
  · intro k
    rw [hcalls, hheld]
    by_cases hk : f.key = k
    · subst hk
      simp [done_snoc]
    · rw [done_snoc_of_ne hk, if_neg (Ne.symm hk)]
      exact h.held k

theorem agrees_injectEach (h : Agrees t) : Agrees (final (b.recorded.injectEach fs t)) := by
  induction fs generalizing t with
  | nil => exact h
  | cons f rest ih =>
    unfold injectEach
    by_cases hf : t.holds f
    · rw [if_pos hf]
      exact ih h
    · rw [if_neg hf]
      simp only [recorded_apply, calling]
      cases b.apply f t.world.world with
      | ok _ world =>
        refine ih (agrees_done .apply f h rfl (by simp [hf]) fun k => ?_)
        rw [Tracked.mem_keys_add]
        by_cases hk : k = f.key <;> simp [hk]
      | error e world => exact agrees_failed h world .apply f e

theorem agrees_revertEach (h : Agrees t) : Agrees (final (b.recorded.revertEach fs t)) := by
  induction fs generalizing t with
  | nil => exact h
  | cons f rest ih =>
    unfold revertEach
    by_cases hf : t.holds f
    · simp only [hf, Bool.not_true, Bool.false_eq_true, if_false, recorded_remove, calling]
      cases b.remove f t.world.world with
      | ok _ world =>
        refine ih (agrees_done .remove f h rfl (by simp [hf]) fun k => ?_)
        rw [Tracked.mem_keys_drop]
        by_cases hk : k = f.key <;> simp [hk]
      | error e world =>
        have hfailed := agrees_failed h world .remove f e
        cases e with
        | workspace e =>
          have hrest := ih hfailed
          dsimp only
          cases hr : b.recorded.revertEach rest _ <;> rwa [hr] at hrest
        | _ => exact hfailed
    · simp only [hf, Bool.not_false, if_true]
      exact ih h

/-- How an injection of fixes that are not in runs, and the calls that it makes: it puts all of them
in, or stops at the first that cannot be put in, and what it put in before stays. -/
inductive PutsIn (t : Tracked (Recorded ω)) (todo : List Fix) :
    List Call → EStateM.Result Fault (Tracked (Recorded ω)) Unit → Prop
  | all {t' : Tracked (Recorded ω)} (hheld : t'.injected = t.injected ++ todo) :
      PutsIn t todo (todo.map applied) (.ok () t')
  | stopped (put : List Fix) {rest : List Fix} {f : Fix} {e : WorkspaceError}
      {t' : Tracked (Recorded ω)} (hstop : todo = put ++ f :: rest)
      (hheld : t'.injected = t.injected ++ put) :
      PutsIn t todo (put.map applied ++ [⟨.apply, f, some (.workspace e)⟩])
        (.error (.workspace e) t')

theorem PutsIn.cons {s : Tracked (Recorded ω)} {calls : List Call}
    {r : EStateM.Result Fault (Tracked (Recorded ω)) Unit} (hs : s.injected = t.injected ++ [f])
    (h : PutsIn s fs calls r) : PutsIn t (f :: fs) (applied f :: calls) r := by
  cases h with
  | all hheld =>
    refine .all ?_
    rw [hheld, hs, List.append_assoc, List.singleton_append]
  | @stopped put rest g e t' hstop hheld =>
    subst hstop
    refine .stopped (f :: put) rfl ?_
    rw [hheld, hs, List.append_assoc, List.singleton_append]

theorem injected_add_of_new (hf : t.holds f = false) (x : Recorded ω) :
    (Tracked.add f { t with world := x }).injected = t.injected ++ [f] :=
  congrArg Tracked.injected (Tracked.add_of_new (t := { t with world := x }) hf)

/-- What has another key is in once a fix has come in just if it was in before. -/
theorem filter_holds_add (hf : f.key ∉ fs.map Fix.key) (x : Recorded ω) :
    (fs.filter fun g => !(Tracked.add f { t with world := x }).holds g) =
      fs.filter fun g => !t.holds g := by
  refine List.filter_congr fun g hg => congrArg not (Bool.eq_iff_iff.mpr ?_)
  rw [Tracked.holds_add]
  exact or_iff_left fun hkey => hf (hkey ▸ List.mem_map_of_mem hg)

theorem putsIn_injectEach (hb : b.Expected) (hn : (fs.map Fix.key).Nodup)
    (t : Tracked (Recorded ω)) : ∃ calls,
      PutsIn t (fs.filter fun f => !t.holds f) calls (b.recorded.injectEach fs t) ∧
      (final (b.recorded.injectEach fs t)).world.calls = t.world.calls ++ calls := by
  induction fs generalizing t with
  | nil => exact ⟨[], .all (List.append_nil _).symm, (List.append_nil _).symm⟩
  | cons f rest ih =>
    rw [List.map_cons, List.nodup_cons] at hn
    unfold injectEach
    cases hf : t.holds f with
    | true =>
      rw [List.filter_cons_of_neg (by simp [hf])]
      exact ih hn.2 t
    | false =>
      rw [List.filter_cons_of_pos (by simp [hf])]
      simp only [Bool.false_eq_true, if_false, recorded_apply, calling]
      cases ha : b.apply f t.world.world with
      | ok _ world =>
        obtain ⟨calls, hputs, hcalls⟩ := ih hn.2
          (Tracked.add f { t with world := ⟨world, t.world.calls ++ [applied f]⟩ })
        rw [filter_holds_add hn.1] at hputs
        refine ⟨applied f :: calls, hputs.cons (injected_add_of_new hf _), ?_⟩
        exact hcalls.trans (List.append_assoc _ _ _)
      | error e world =>
        obtain ⟨we, rfl⟩ := hb.apply f e ⟨_, _, ha⟩
        exact ⟨_, .stopped [] rfl (List.append_nil _).symm, rfl⟩

theorem calls_of_removals (h : b.recorded.Removals x attempts x') :
    x'.calls = x.calls ++ attempts.map attempted := by
  induction h with
  | nil => simp
  | done h _ ih =>
    rw [ih, calls_of_ok h, List.append_assoc]
    rfl
  | kept h _ ih =>
    rw [ih, calls_of_error h, List.append_assoc]
    rfl

end Recorded

namespace Edit
open Recorded Call
variable {ω : Type} {b : Backend ω} {t : Tracked (Recorded ω)} {calls : List Call} {e : Edit}
  {r : EStateM.Result Fault (Tracked (Recorded ω)) Unit}

/-- An edit with how it ends. -/
def run (b : Backend ω) (t : Tracked ω) : Edit → EStateM.Result Fault (Tracked ω) Unit
  | inject fixes => b.inject fixes t
  | revert fixes => b.revert fixes t

theorem leaves_eq_final (b : Backend ω) (t : Tracked ω) (e : Edit) :
    leaves b t e = final (run b t e) := by
  cases e <;> rfl

/-- How an edit runs, and the calls that it makes. An injection puts in, of its fixes, those that
are not in. A revert attempts to take out each of its fixes that is in, once and in order, and ends
in one error that tells of those it could not take out, if there are any. -/
inductive Course (t : Tracked (Recorded ω)) :
    Edit → List Call → EStateM.Result Fault (Tracked (Recorded ω)) Unit → Prop
  | injected {fixes : List Fix} {calls : List Call}
      {r : EStateM.Result Fault (Tracked (Recorded ω)) Unit}
      (h : PutsIn t ((Fix.dedupe fixes).filter fun f => !t.holds f) calls r) :
      Course t (.inject fixes) calls r
  | reverted {fixes : List Fix} {attempts : List (Fix × Option WorkspaceError)}
      {t' : Tracked (Recorded ω)}
      (hattempts : attempts.map Prod.fst = (Fix.dedupe fixes).filter t.holds)
      (hheld : ∀ k, k ∈ t'.injected.map Fix.key ↔
        (k ∈ t.injected.map Fix.key ∧ k ∉ fixes.map Fix.key) ∨ Kept attempts k) :
      Course t (.revert fixes) (attempts.map attempted)
        (if (errorsOf attempts).isEmpty then .ok () t'
          else .error (.workspace (.several (errorsOf attempts))) t')

theorem forget_run (b : Backend ω) (t : Tracked (Recorded ω)) (e : Edit) :
    forget (run b.recorded t e) = run b (erase t) e := by
  cases e with
  | inject fixes => exact forget_injectEach b (Fix.dedupe fixes) t
  | revert fixes => exact forget_revert b fixes t

theorem erase_after (b : Backend ω) (past : List Edit) (t : Tracked (Recorded ω)) :
    erase (after b.recorded past t) = after b past (erase t) := by
  induction past using List.reverseRecOn with
  | nil => rfl
  | append_singleton past e ih =>
    rw [after_snoc, after_snoc, leaves_eq_final, leaves_eq_final, erase_final, forget_run, ih]

theorem agrees_leaves (h : Agrees t) (e : Edit) : Agrees (leaves b.recorded t e) := by
  cases e with
  | inject fixes => exact agrees_injectEach h
  | revert fixes =>
    rw [leaves, final_revert]
    exact agrees_revertEach h

theorem agrees_after (h : Agrees t) (past : List Edit) : Agrees (after b.recorded past t) := by
  induction past using List.reverseRecOn with
  | nil => exact h
  | append_singleton past e ih =>
    rw [after_snoc]
    exact agrees_leaves ih e

theorem course_run (hb : b.Expected) (t : Tracked (Recorded ω)) (e : Edit) :
    ∃ calls, Course t e calls (run b.recorded t e) ∧
      (leaves b.recorded t e).world.calls = t.world.calls ++ calls := by
  have hn : ∀ fixes : List Fix, ((Fix.dedupe fixes).map Fix.key).Nodup :=
    fun _ => Fix.nodup_keys_dedupe
  cases e with
  | inject fixes =>
    obtain ⟨calls, hputs, hcalls⟩ := putsIn_injectEach hb (hn fixes) t
    exact ⟨calls, .injected hputs, hcalls⟩
  | revert fixes =>
    obtain ⟨attempts, t', hrevert, hattempts, hremovals, hheld⟩ :=
      revertEach_removals (expected_recorded hb) (hn fixes) t
    have hrun : run b.recorded t (.revert fixes) = if (errorsOf attempts).isEmpty then .ok () t'
        else .error (.workspace (.several (errorsOf attempts))) t' := by
      rw [← revert_of_revertEach (hn fixes) hrevert]
      unfold run Backend.revert
      rw [Fix.dedupe_of_nodup (hn fixes)]
    refine ⟨attempts.map attempted, ?_, ?_⟩
    · rw [hrun]
      refine .reverted hattempts fun k => ?_
      rw [hheld, Fix.dedupe_same]
    · rw [leaves, final_revert, hrevert]
      exact calls_of_removals hremovals

/-- An edit calls for none but its own fixes. -/
theorem mem_of_course (h : Course t e calls r) : ∀ c ∈ calls, c.fix.key ∈ e.fixes.map Fix.key := by
  have hown : ∀ (fixes : List Fix) (f : Fix) (p : Fix → Bool), f ∈ (Fix.dedupe fixes).filter p →
      f.key ∈ fixes.map Fix.key := fun fixes f p hf =>
    (Fix.dedupe_same f.key).mp (List.mem_map_of_mem (List.mem_filter.mp hf).1)
  cases h with
  | injected h =>
    cases h with
    | all =>
      intro c hc
      obtain ⟨f, hf, rfl⟩ := List.mem_map.mp hc
      exact hown _ f _ hf
    | stopped _ hstop =>
      intro c hc
      rcases List.mem_append.mp hc with hc | hc
      · obtain ⟨f, hf, rfl⟩ := List.mem_map.mp hc
        exact hown _ f _ (hstop ▸ List.mem_append_left _ hf)
      · obtain rfl := List.mem_singleton.mp hc
        exact hown _ _ _ (hstop ▸ List.mem_append_right _ List.mem_cons_self)
  | reverted hattempts =>
    intro c hc
    obtain ⟨attempt, hmem, rfl⟩ := List.mem_map.mp hc
    exact hown _ attempt.1 _ (hattempts ▸ List.mem_map_of_mem hmem)

/-- Whatever edits came before, and whichever calls failed: the calls that succeeded put each fix in
and took it out by turns, and on record is what was put in last. The next edit then takes its
course, calls for none but its own fixes, and ends as it does without a record of calls. -/
theorem calls_of_history (hb : b.Expected) (world : ω) (past : List Edit) :
    erase (after b.recorded past (.start ⟨world, []⟩)) = after b past (.start world) ∧
    Agrees (after b.recorded past (.start ⟨world, []⟩)) ∧
    ∀ e : Edit,
      forget (run b.recorded (after b.recorded past (.start ⟨world, []⟩)) e) =
        run b (after b past (.start world)) e ∧
      ∃ calls,
        Course (after b.recorded past (.start ⟨world, []⟩)) e calls
          (run b.recorded (after b.recorded past (.start ⟨world, []⟩)) e) ∧
        (after b.recorded (past ++ [e]) (.start ⟨world, []⟩)).world.calls =
          (after b.recorded past (.start ⟨world, []⟩)).world.calls ++ calls ∧
        ∀ c ∈ calls, c.fix.key ∈ e.fixes.map Fix.key := by
  have herase := erase_after b past (.start ⟨world, []⟩)
  refine ⟨herase, agrees_after (agrees_start world) past, fun e => ⟨?_, ?_⟩⟩
  · rw [forget_run, herase]
    rfl
  · obtain ⟨calls, hcourse, hcalls⟩ :=
      course_run hb (after b.recorded past (.start ⟨world, []⟩)) e
    refine ⟨calls, hcourse, ?_, mem_of_course hcourse⟩
    rw [after_snoc, hcalls]

/-- A backend that fails at every third call. -/
def everyThird : Backend Nat :=
  let call : Act Nat Unit := fun n =>
    if n % 3 = 2 then .error (.workspace .noCommand) (n + 1) else .ok () (n + 1)
  ⟨fun _ => call, fun _ => call⟩

theorem expected_everyThird : everyThird.Expected := by
  have hall : ∀ e, (everyThird.apply (.ofField "A" "x")).Raises e → e.Expected := by
    rintro e ⟨n, n', h⟩
    change (if n % 3 = 2 then _ else _) = _ at h
    split at h <;> cases h
    exact ⟨_, rfl⟩
  exact ⟨fun _ => hall, fun _ => hall⟩

/-- Three fixes are put in, the last in vain, and again; then they are taken out, one in vain. -/
def thirds : List Edit :=
  [.inject [.ofField "A" "x", .ofField "A" "y", .ofField "A" "x", .ofField "B" "z"],
    .inject [.ofField "B" "z", .ofField "A" "x"],
    .revert [.ofField "A" "x", .ofField "A" "y", .ofField "B" "z"]]

/-- What was done to which member, and whether it succeeded. -/
def outline (c : Call) : Verb × String × Bool := (c.verb, c.fix.location.member, c.fault.isNone)

/-- What could not be taken out stays on record. The next revert attempts it again, and only it. -/
theorem calls_of_history_thirds :
    (after everyThird.recorded thirds (.start ⟨0, []⟩)).world.calls.map outline =
      [(.apply, "x", true), (.apply, "y", true), (.apply, "z", false), (.apply, "z", true),
        (.remove, "x", true), (.remove, "y", false), (.remove, "z", true)] ∧
    (Fix.ofField "A" "y").key ∈ (after everyThird thirds (.start 0)).injected.map Fix.key ∧
    ∃ calls, calls.map outline = [(.remove, "y", true)] ∧
      Course (after everyThird.recorded thirds (.start ⟨0, []⟩))
        (.revert [.ofField "A" "y", .ofField "A" "x"]) calls
        (run everyThird.recorded (after everyThird.recorded thirds (.start ⟨0, []⟩))
          (.revert [.ofField "A" "y", .ofField "A" "x"])) := by
  obtain ⟨herase, hagrees, hnext⟩ := calls_of_history expected_everyThird 0 thirds
  obtain ⟨-, calls, hcourse, hcalls, -⟩ := hnext (.revert [.ofField "A" "y", .ofField "A" "x"])
  refine ⟨by decide +kernel, ?_, calls, ?_, hcourse⟩
  · rw [← herase]
    exact (hagrees.held (Fix.ofField "A" "y").key).mpr (by decide +kernel)
  · have hmore := congrArg (List.map outline) hcalls
    rw [List.map_append] at hmore
    exact List.append_cancel_left (hmore.symm.trans (by decide +kernel))

end Edit
end FixTrial
