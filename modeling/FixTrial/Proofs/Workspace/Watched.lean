import FixTrial.Proofs.Batch
import FixTrial.Proofs.Workspace.Removals
import Mathlib.Data.List.Induction

/-!
Tracked workspaces under observation. Beside the world stands a record of its builds and of what is
taken out of it, which nothing reads: forgetting it gives back the runs that are not observed.
-/
namespace FixTrial
open Act

/-- A build, with the fixes that the tracker holds as it starts, or an attempt to take a fix out. -/
inductive Deed
  | built (held : List Fix)
  | removed (f : Fix) (done : Bool)

/-- A world, and what was done to it so far. -/
structure Watched (ω : Type) where
  world : ω
  deeds : List Deed

namespace Deed
open Backend

/-- Whether the last attempt to take a fix out failed. -/
def leftover (deeds : List Deed) (k : FixKey) : Bool :=
  deeds.foldl (fun left d =>
    match d with
    | .built _ => left
    | .removed f done => if f.key = k then !done else left) false

def removals (attempts : List (Fix × Option WorkspaceError)) : List Deed :=
  attempts.map fun attempt => .removed attempt.1 attempt.2.isNone

/-- In every build that was done after `past`, the fixes and the leftovers were in, and nothing
else. -/
def Fit (fixes : List Fix) (past deeds : List Deed) : Prop :=
  ∃ new, deeds = past ++ new ∧ ∀ before held after, new = before ++ .built held :: after →
    ∀ k, k ∈ held.map Fix.key ↔ k ∈ fixes.map Fix.key ∨ leftover (past ++ before) k

variable {past deeds : List Deed} {d : Deed} {k : FixKey} {f : Fix} {fixes held : List Fix}
  {attempts : List (Fix × Option WorkspaceError)}

@[simp] theorem leftover_built (held : List Fix) :
    leftover (deeds ++ [.built held]) = leftover deeds := by
  funext k
  simp [leftover]

theorem leftover_removed (f : Fix) (done : Bool) :
    leftover (deeds ++ [.removed f done]) k = if f.key = k then !done else leftover deeds k := by
  simp [leftover]

/-- What was never attempted in vain is not left over. -/
theorem leftover_eq_false (h : ∀ f, Deed.removed f false ∉ deeds) : leftover deeds k = false := by
  induction deeds using List.reverseRecOn with
  | nil => rfl
  | append_singleton deeds d ih =>
    have hrest : leftover deeds k = false := ih fun f hf => h f (List.mem_append_left _ hf)
    cases d with
    | built => simp [hrest]
    | removed f done =>
      cases done with
      | false => exact absurd (List.mem_append_right deeds (List.mem_singleton_self _)) (h f)
      | true => simp [leftover_removed, hrest]

/-- After removals it is left over what was kept, and what was left over before and not attempted. -/
theorem leftover_removals (hn : (attempts.map fun attempt => attempt.1.key).Nodup) :
    leftover (deeds ++ removals attempts) k ↔
      Kept attempts k ∨ leftover deeds k ∧ k ∉ attempts.map fun attempt => attempt.1.key := by
  induction attempts generalizing deeds with
  | nil => simp [removals, Kept]
  | cons attempt rest ih =>
    obtain ⟨f, o⟩ := attempt
    rw [List.map_cons, List.nodup_cons] at hn
    have hsplit : deeds ++ removals ((f, o) :: rest) =
        (deeds ++ [.removed f o.isNone]) ++ removals rest := by
      simp [removals]
    rw [hsplit, ih hn.2, leftover_removed, kept_cons, List.map_cons, List.mem_cons, not_or]
    by_cases hk : f.key = k
    · subst hk
      cases o <;> simp [hn.1]
    · simp [hk, Ne.symm hk]

theorem fit_refl : Fit fixes deeds deeds := ⟨[], by simp, by simp⟩

theorem fit_snoc (h : Fit fixes past deeds)
    (hd : ∀ held, d = .built held →
      ∀ k, k ∈ held.map Fix.key ↔ k ∈ fixes.map Fix.key ∨ leftover deeds k) :
    Fit fixes past (deeds ++ [d]) := by
  obtain ⟨new, rfl, hnew⟩ := h
  refine ⟨new ++ [d], by simp, ?_⟩
  intro before held after hsplit
  rcases List.eq_nil_or_concat after with rfl | ⟨rest, last, rfl⟩
  · obtain ⟨rfl, hlast⟩ := List.append_inj' hsplit rfl
    exact hd held (List.singleton_inj.mp hlast)
  · rw [List.concat_eq_append, ← List.cons_append, ← List.append_assoc] at hsplit
    exact hnew before held rest (List.append_inj' hsplit rfl).1

theorem fit_removals (h : Fit fixes past deeds)
    (attempts : List (Fix × Option WorkspaceError)) :
    Fit fixes past (deeds ++ removals attempts) := by
  induction attempts using List.reverseRecOn with
  | nil => simpa [removals] using h
  | append_singleton attempts attempt ih =>
    have hsnoc := fit_snoc (d := .removed attempt.1 attempt.2.isNone) ih (by simp)
    simpa [removals] using hsnoc

end Deed

namespace Watched
variable {ω α : Type}

/-- A watched world without its record. -/
def erase (x : Tracked (Watched ω)) : Tracked ω := ⟨x.world.world, x.injected⟩

def note (d : Deed) (x : Tracked (Watched ω)) : Tracked (Watched ω) :=
  { x with world := { x.world with deeds := x.world.deeds ++ [d] } }

/-- An action on the world that is watched. -/
def inside (act : Act ω α) : Act (Watched ω) α := fun x =>
  match act x.world with
  | .ok a world => .ok a { x with world }
  | .error e world => .error e { x with world }

/-- A build, with a record of what is held as it starts. -/
def build (verify : Act ω (List Diagnostic)) : Act (Tracked (Watched ω)) (List Diagnostic) :=
  fun x => Tracked.inside (inside verify) (note (.built x.injected) x)

/-- A removal, with a record of whether it was done. -/
def removing (f : Fix) (act : Act ω Unit) : Act (Watched ω) Unit := fun x =>
  match act x.world with
  | .ok () world => .ok () ⟨world, x.deeds ++ [.removed f true]⟩
  | .error e world => .error e ⟨world, x.deeds ++ [.removed f false]⟩

end Watched

namespace Backend
variable {ω : Type}

/-- The backend, with a record of what it takes out. -/
def watched (b : Backend ω) : Backend (Watched ω) where
  apply f := Watched.inside (b.apply f)
  remove f := Watched.removing f (b.remove f)

/-- The workspace of a backend, with a record of its builds and of what is taken out. -/
def watchedWorkspace (b : Backend ω) (verify : Act ω (List Diagnostic)) :
    Workspace (Tracked (Watched ω)) :=
  ⟨b.watched.inject, b.watched.revert, Watched.build verify⟩

end Backend

namespace Watched
open Backend
variable {ω α : Type} {b : Backend ω} {target verify : Act ω (List Diagnostic)} {act : Act ω α}
  {fixes batch : List Fix} {x : Tracked (Watched ω)} {s s' : Watched ω} {f : Fix} {e : Fault}
  {attempts : List (Fix × Option WorkspaceError)}

/-- A watched world and the world that it watches. -/
def Shows (s : Watched ω) (world : ω) : Prop := s.world = world

theorem eq_erase_of_over {t : Tracked ω} (h : Tracked.Over Shows x t) : t = erase x := by
  obtain ⟨hworld, hinjected⟩ := h
  unfold erase
  rw [hworld, hinjected]

theorem alike_inside (act : Act ω α) :
    Alike Shows (fun _ => True) (Both fun _ => True) (inside act) act := by
  rintro s _ rfl
  unfold inside
  cases act s.world with
  | ok a world => exact .ok ⟨rfl, trivial⟩ rfl
  | error e world => exact .error trivial rfl

theorem alike_removing (f : Fix) (act : Act ω Unit) :
    Alike Shows (fun _ => True) (Both fun _ => True) (removing f act) act := by
  rintro s _ rfl
  unfold removing
  cases act s.world with
  | ok a world => exact .ok ⟨rfl, trivial⟩ rfl
  | error e world => exact .error trivial rfl

theorem alike_build (verify : Act ω (List Diagnostic)) :
    Alike (Tracked.Over Shows) (fun _ => True) (Both fun _ => True) (build verify)
      (Tracked.inside verify) := by
  rintro x t ⟨hworld, hinjected⟩
  exact Tracked.alike_inside (alike_inside verify) (note (.built x.injected) x) t ⟨hworld, hinjected⟩

theorem alike_batch (b : Backend ω) (target verify : Act ω (List Diagnostic)) (batch : List Fix) :
    Alike (Tracked.Over Shows) (fun _ => True) (Both fun _ => True)
      (Batch.build (b.watchedWorkspace target) (build verify) batch)
      (Batch.build (b.workspace target) (Tracked.inside verify) batch) := by
  have hinject : Alike (Tracked.Over Shows) (fun _ => True) (Both fun _ => True)
      (b.watched.injectEach (Fix.dedupe batch)) (b.injectEach (Fix.dedupe batch)) :=
    alike_injectEach (fun f => alike_inside (b.apply f)) _
  exact hinject.bind fun _ _ _ => alike_build verify

theorem alike_revert (b : Backend ω) (target : Act ω (List Diagnostic)) (batch : List Fix) :
    Alike (Tracked.Over Shows) (fun _ => True) (Both fun _ => True)
      ((b.watchedWorkspace target).revert batch) ((b.workspace target).revert batch) :=
  Backend.alike_revert (fun _ => trivial) (fun f => alike_removing f (b.remove f)) batch

theorem raises_of_inside (h : (inside act).Raises e) : act.Raises e := by
  obtain ⟨s, s', h⟩ := h
  unfold inside at h
  cases ha : act s.world <;> rw [ha] at h <;> cases h
  exact ⟨_, _, ha⟩

theorem raises_of_removing {act : Act ω Unit} (h : (removing f act).Raises e) : act.Raises e := by
  obtain ⟨s, s', h⟩ := h
  unfold removing at h
  cases ha : act s.world <;> rw [ha] at h <;> cases h
  exact ⟨_, _, ha⟩

theorem raises_of_build {verify : Act ω (List Diagnostic)} (h : (build verify).Raises e) :
    verify.Raises e := by
  obtain ⟨x, x', h⟩ := h
  unfold build Tracked.inside inside note at h
  cases hv : verify x.world.world <;> simp only [hv] at h <;> cases h
  exact ⟨_, _, hv⟩

theorem expected_watched (hb : b.Expected) : b.watched.Expected :=
  ⟨fun f e he => hb.apply f e (raises_of_inside he),
    fun f e he => hb.remove f e (raises_of_removing he)⟩

/-- A build is recorded, however it ends, and what the tracker holds stays. -/
theorem final_build (verify : Act ω (List Diagnostic)) (x : Tracked (Watched ω)) :
    ∃ world, final (build verify x) =
      ⟨⟨world, x.world.deeds ++ [.built x.injected]⟩, x.injected⟩ := by
  unfold build Tracked.inside inside note
  cases verify x.world.world with
  | ok ds world => exact ⟨world, rfl⟩
  | error e world => exact ⟨world, rfl⟩

theorem keeps_inside (act : Act ω α) : Keeps Watched.deeds (inside act) := by
  intro s
  unfold inside
  cases act s.world <;> rfl

/-- To put fixes in is no deed. -/
theorem keeps_injectEach (b : Backend ω) (fs : List Fix) :
    Keeps (fun x => x.world.deeds) (b.watched.injectEach fs) := by
  induction fs with
  | nil => exact .of_pure
  | cons f rest ih =>
    intro x
    have hs : Watched.deeds (final (b.watched.apply f x.world)) = x.world.deeds :=
      keeps_inside (b.apply f) x.world
    unfold injectEach
    by_cases hf : x.holds f
    · rw [if_pos hf]
      exact ih x
    · rw [if_neg hf]
      cases ha : b.watched.apply f x.world with
      | ok _ s =>
        rw [ha] at hs
        exact (ih _).trans hs
      | error e s =>
        rw [ha] at hs
        exact hs

theorem deeds_of_ok {act : Act ω Unit} (h : removing f act s = .ok () s') :
    s'.deeds = s.deeds ++ [.removed f true] := by
  unfold removing at h
  cases ha : act s.world <;> rw [ha] at h <;> cases h
  rfl

theorem deeds_of_error {act : Act ω Unit} (h : removing f act s = .error e s') :
    s'.deeds = s.deeds ++ [.removed f false] := by
  unfold removing at h
  cases ha : act s.world <;> rw [ha] at h <;> cases h
  rfl

theorem deeds_of_removals (h : b.watched.Removals s attempts s') :
    s'.deeds = s.deeds ++ Deed.removals attempts := by
  induction h with
  | nil => simp [Deed.removals]
  | done h _ ih =>
    rw [ih, deeds_of_ok h]
    simp [Deed.removals]
  | kept h _ ih =>
    rw [ih, deeds_of_error h]
    simp [Deed.removals]

end Watched
end FixTrial
