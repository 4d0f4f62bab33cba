import FixTrial.Patch
import FixTrial.Proofs.Except

/-! Which patches can be completed: those of which every section header names two files. -/
namespace FixTrial.Patch
variable {line : List Char} {lines : List (List Char)} {mark : String} {file : List Char}

/-- If a line opens a section, it names two files. -/
def Whole (line : List Char) : Prop := isSectionHeader line = true → 4 ≤ (Text.words line).length

/-- Every line that opens a section names two files. -/
def Complete (s : String) : Prop := ∀ line ∈ Text.lines s.toList, Whole line

instance : Decidable (Whole line) := inferInstanceAs (Decidable (_ → _))

instance (s : String) : Decidable (Complete s) := inferInstanceAs (Decidable (∀ _ ∈ _, _))

theorem filesOf_ok_iff : (∃ files, filesOf line = .ok files) ↔ 4 ≤ (Text.words line).length := by
  unfold filesOf
  constructor
  · rintro ⟨files, h⟩
    split at h
    next hwords => simp [hwords]
    next => cases h
  · intro h
    match hwords : Text.words line with
    | [] | [_] | [_, _] | [_, _, _] => simp [hwords] at h
    | _ :: _ :: old :: new :: _ => exact ⟨(old, new), rfl⟩

/-- The lines that may follow a section header open no section themselves. -/
theorem whole_of_startsWith (hmark : mark = "--- " ∨ mark = "+++ ")
    (h : startsWith mark line = true) : Whole line := by
  intro hheader
  unfold isSectionHeader startsWith at *
  cases line with
  | nil => simp at hheader
  | cons c rest =>
    have hd : c = 'd' := by
      simp at hheader
      exact hheader.1.symm
    rcases hmark with rfl | rfl <;> simp [hd] at h

theorem whole_headerLine (hmark : mark = "--- " ∨ mark = "+++ ") :
    (∀ line ∈ (headerLine mark file lines).2, Whole line) ↔ ∀ line ∈ lines, Whole line := by
  cases lines with
  | nil => simp [headerLine]
  | cons line rest =>
    unfold headerLine
    dsimp only
    split
    next h => simp [whole_of_startsWith hmark h]
    next => rfl

/-- The induction follows the sections: behind a header come the two lines that it may lack. -/
theorem completeLines_ok_iff :
    (∃ out, completeLines lines = .ok out) ↔ ∀ line ∈ lines, Whole line := by
  induction lines using completeLines.induct with
  | case1 => simp [completeLines]
  | case2 line rest hheader e he =>
    have hshort : ¬ Whole line := by
      intro hwhole
      obtain ⟨files, hfiles⟩ := filesOf_ok_iff.mpr (hwhole hheader)
      cases he.symm.trans hfiles
    simp [completeLines, hheader, he, hshort]
  | case3 line rest hheader old new hfiles first second ih =>
    have hwhole : Whole line := fun _ => filesOf_ok_iff.mp ⟨_, hfiles⟩
    unfold completeLines
    simp only [hheader, if_true, hfiles, map_eq_ok_iff, List.forall_mem_cons, hwhole, true_and]
    rw [ih, whole_headerLine (.inr rfl), whole_headerLine (.inl rfl)]
  | case4 line rest hheader ih =>
    have hwhole : Whole line := fun h => absurd h hheader
    unfold completeLines
    simp only [hheader, Bool.false_eq_true, if_false, map_eq_ok_iff, List.forall_mem_cons, hwhole,
      true_and]
    exact ih

/-- A patch can be completed exactly if its section headers name two files each. -/
theorem normalize_ok_iff {s : String} : (∃ p, normalize s = .ok p) ↔ Complete s := by
  unfold normalize normalizeChars
  rw [map_eq_ok_iff, map_eq_ok_iff, completeLines_ok_iff]
  rfl

end FixTrial.Patch
