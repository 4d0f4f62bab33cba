import FixTrial.Proofs.Act
import FixTrial.Workspace.Build

/-!
Builds by command: what such a build returns is what it wrote, whatever was there before, and
everything else that it comes to is a workspace error, unless the command cannot be cut into words,
a folder is where the diagnostics should be, or they are nested too deep to be read.
-/
namespace FixTrial

/-- What a run ends in, apart from the state that it leaves. -/
def Act.ending {ω α : Type} : EStateM.Result Fault ω α → Except Fault α
  | .ok a _ => .ok a
  | .error e _ => .error e

namespace Files
variable {fs fs' : Files} {p : Path} {c : Content} {q parts : List String}

theorem properPrefix_iff {short long : List String} :
    properPrefix short long = true ↔ short <+: long ∧ short.length < long.length := by
  rw [properPrefix, Bool.and_eq_true, decide_eq_true_eq, decide_eq_true_eq, and_comm,
    List.prefix_iff_eq_take, eq_comm]

theorem isFolder_iff : fs.isFolder q = true ↔
    q = [] ∨ (∃ d ∈ fs.folders, q <+: d) ∨ ∃ f ∈ fs.files, q <+: f.1 ∧ q.length < f.1.length := by
  have hfolder (d : List String) : (decide (d = q) || properPrefix q d) = true ↔ q <+: d := by
    rw [Bool.or_eq_true, decide_eq_true_eq, properPrefix_iff]
    constructor
    · rintro (rfl | h)
      · exact List.prefix_rfl
      · exact h.1
    · intro h
      rcases Nat.eq_or_lt_of_le h.length_le with hlength | hlength
      · exact .inl (h.eq_of_length hlength).symm
      · exact .inr ⟨h, hlength⟩
  simp only [isFolder, Bool.or_eq_true, List.any_eq_true, hfolder, properPrefix_iff,
    List.isEmpty_iff, or_assoc]

/-- What leads to a folder is a folder. -/
theorem isFolder_of_prefix (h : fs.isFolder parts = true) (hq : q <+: parts) :
    fs.isFolder q = true := by
  rw [isFolder_iff] at h ⊢
  rcases h with rfl | ⟨d, hd, hpre⟩ | ⟨f, hf, hpre, hlength⟩
  · exact .inl (List.prefix_nil.mp hq)
  · exact .inr (.inl ⟨d, hd, hq.trans hpre⟩)
  · exact .inr (.inr ⟨f, hf, hq.trans hpre, Nat.lt_of_le_of_lt hq.length_le hlength⟩)

theorem create_eq_some (h : fs.create p c = some fs') : ∃ parts, fs.resolve? p = some parts ∧
    parts ≠ [] ∧ fs.isFolder parts.dropLast = true ∧ fs.isFolder parts = false ∧
      fs' = { fs with files := fs.files.filter (fun f => f.1 ≠ parts) ++ [(parts, c)] } := by
  obtain ⟨parts, hparts, h⟩ := Option.bind_eq_some_iff.mp h
  split at h
  next => cases h
  next hfree =>
    cases h
    simp only [Bool.or_eq_true, List.isEmpty_iff, Bool.not_eq_true', not_or,
      Bool.not_eq_false, Bool.not_eq_true] at hfree
    refine ⟨parts, hparts, hfree.1.1, hfree.1.2, hfree.2, ?_⟩
    rw [write, hparts]

/-- A file that is written in a folder makes no folder. -/
theorem isFolder_create (h : fs.create p c = some fs') : fs'.isFolder q = fs.isFolder q := by
  obtain ⟨parts, -, hne, hfolder, -, rfl⟩ := create_eq_some h
  rw [Bool.eq_iff_iff]
  constructor
  · intro hq
    rcases isFolder_iff.mp hq with rfl | hd | ⟨f, hf, hpre, hlength⟩
    · exact isFolder_iff.mpr (.inl rfl)
    · exact isFolder_iff.mpr (.inr (.inl hd))
    rcases List.mem_append.mp hf with hf | hf
    · exact isFolder_iff.mpr (.inr (.inr ⟨f, List.mem_of_mem_filter hf, hpre, hlength⟩))
    · obtain rfl := List.mem_singleton.mp hf
      -- what leads to the new file leads to the folder that it is in, which was there before
      refine isFolder_of_prefix hfolder ?_
      rw [List.prefix_iff_eq_take, List.dropLast_eq_take, List.take_take,
        Nat.min_eq_left (by simp only at hlength; omega), ← List.prefix_iff_eq_take]
      exact hpre
  · intro hq
    refine isFolder_iff.mpr ?_
    rcases isFolder_iff.mp hq with rfl | hd | ⟨f, hf, hpre, hlength⟩
    · exact .inl rfl
    · exact .inr (.inl hd)
    by_cases hparts : f.1 = parts
    -- the file that is replaced needed the folders that the new one needs
    · refine .inr (.inr ⟨(parts, c), by simp, ?_⟩)
      rw [← hparts]
      exact ⟨hpre, hlength⟩
    · exact .inr (.inr ⟨f, by simp [hf, hparts], hpre, hlength⟩)

theorem resolveFrom?_create (h : fs.create p c = some fs') (rest done : List String) :
    fs'.resolveFrom? done rest = fs.resolveFrom? done rest := by
  induction rest generalizing done with
  | nil => rfl
  | cons part rest ih =>
    by_cases hpart : part = ".."
    · subst hpart
      rw [resolveFrom?, resolveFrom?, isFolder_create h, ih]
    · rw [resolveFrom?, resolveFrom?, ih] <;> simpa using hpart

theorem resolve?_create (h : fs.create p c = some fs') (p' : Path) :
    fs'.resolve? p' = fs.resolve? p' := by
  rw [resolve?, resolve?, resolveFrom?_create h]

theorem get?_create (h : fs.create p c = some fs') : fs'.get? p = some c := by
  obtain ⟨parts, hparts, -, -, -, hfs⟩ := create_eq_some h
  have hnone : (fs.files.filter fun f => f.1 ≠ parts).lookup parts = none := by
    rw [List.lookup_eq_none_iff]
    intro f hf
    have hne : f.1 ≠ parts := by simpa using (List.mem_filter.mp hf).2
    simpa using Ne.symm hne
  rw [get?, resolve?_create h, hparts, hfs, Option.bind_some, List.lookup_append, hnone]
  simp

/-- A file that is written anew and removed again is as good as removed. -/
theorem erase_create (h : fs.create p c = some fs') : fs'.erase p = fs.erase p := by
  obtain ⟨parts, hparts, -, -, -, hfs⟩ := create_eq_some h
  rw [erase, erase, resolve?_create h, hparts, hfs]
  simp

theorem erase_of_none (h : fs.get? p = none) : fs.erase p = fs := by
  unfold erase
  split
  next parts hparts =>
    rw [get?, hparts, Option.bind_some, List.lookup_eq_none_iff] at h
    have hfiles : (fs.files.filter fun f => f.1 ≠ parts) = fs.files := by
      rw [List.filter_eq_self]
      intro f hf
      have hne : parts ≠ f.1 := by simpa using h f hf
      simpa using Ne.symm hne
    rw [hfiles]
  next => rfl

/-- Where a path leads does not depend on the files, once it leads anywhere. -/
theorem resolveFrom?_unique {rest done q' : List String} (h : fs.resolveFrom? done rest = some q)
    (h' : fs'.resolveFrom? done rest = some q') : q = q' := by
  induction rest generalizing done with
  | nil => exact Option.some.inj (h.symm.trans h')
  | cons part rest ih =>
    by_cases hpart : part = ".."
    · subst hpart
      rw [resolveFrom?] at h h'
      split at h
      next => cases h
      next =>
        split at h'
        next => cases h'
        next => exact ih h h'
    · rw [resolveFrom?] at h h'
      · exact ih h h'
      all_goals simpa using hpart

theorem get?_erase (fs : Files) (p : Path) : (fs.erase p).get? p = none := by
  cases hparts : fs.resolve? p with
  | none => rw [erase, hparts, get?, hparts, Option.bind_none]
  | some parts =>
    cases hleft : (fs.erase p).resolve? p with
    | none => rw [get?, hleft, Option.bind_none]
    | some parts' =>
      have hsame : parts = parts' := by
        unfold resolve? at hparts hleft
        split at hparts
        next => cases hparts
        next habsolute =>
          rw [if_neg habsolute] at hleft
          exact resolveFrom?_unique hparts hleft
      rw [get?, hleft, erase, hparts, Option.bind_some, List.lookup_eq_none_iff]
      intro f hf
      have hne : f.1 ≠ parts := by simpa using (List.mem_filter.mp hf).2
      rw [← hsame]
      simpa using Ne.symm hne

end Files

namespace BuildCommand
variable {σ : Type} {b : BuildCommand} {runner : Runner σ} {h h' : Host σ} {fs fs' files : Files}
  {c : Content} {outcome : Outcome} {e : Fault} {ds : List Diagnostic}

theorem clear_create (hc : fs.create b.outputPath c = some fs') : b.clear fs' = b.clear fs := by
  obtain ⟨parts, hparts, -, -, hfree, -⟩ := Files.create_eq_some hc
  have hfolder : fs.isFolderAt b.outputPath = false := by
    rw [Files.isFolderAt, hparts]
    exact hfree
  rw [clear, clear, Files.get?_create hc, Option.isSome_some, if_pos rfl, Files.erase_create hc,
    hfolder]
  cases hget : fs.get? b.outputPath with
  | none => rw [Files.erase_of_none hget]; rfl
  | some _ => rfl

/-- What is cleared holds no diagnostics, and only a folder in their place cannot be cleared. -/
theorem get?_of_clear (hc : b.clear fs = .ok files) : files.get? b.outputPath = none := by
  unfold clear at hc
  split at hc
  next =>
    cases hc
    exact Files.get?_erase ..
  next hfile =>
    split at hc
    next => cases hc
    next =>
      cases hc
      simpa using hfile

theorem clear_eq_error : b.clear fs = .error e ↔
    fs.get? b.outputPath = none ∧ fs.isFolderAt b.outputPath = true ∧ e = .system := by
  cases hfile : fs.get? b.outputPath <;> cases hfolder : fs.isFolderAt b.outputPath <;>
    simp [clear, hfile, hfolder, eq_comm]

/-- The process that a build runs has come to an end: the workspace holds no diagnostics as it
starts. -/
structure Ran (b : BuildCommand) (runner : Runner σ) (h : Host σ) (outcome : Outcome)
    (h' : Host σ) : Prop where
  command : b.command ≠ ""
  started : ∃ files words, b.clear h.files = .ok files ∧ files.get? b.outputPath = none ∧
    Text.shellWords b.command = .ok words ∧
      runner ⟨words, b.workspace, none, b.limit⟩ { h with files } = (outcome, h')

/-- What a build ends in that is no workspace error. -/
inductive Escapes (b : BuildCommand) (runner : Runner σ) (h : Host σ) : Fault → Host σ → Prop
  /-- A folder stands where the diagnostics should be written. -/
  | blocked (hcommand : b.command ≠ "") (hfile : h.files.get? b.outputPath = none)
      (hfolder : h.files.isFolderAt b.outputPath = true) : Escapes b runner h .system h
  /-- The command cannot be cut into words. -/
  | words {files : Files} {e : Text.ShellError} (hcommand : b.command ≠ "")
      (hclear : b.clear h.files = .ok files) (hwords : Text.shellWords b.command = .error e) :
      Escapes b runner h (shellFault e) { h with files }
  /-- The build made a folder where the diagnostics should be written. -/
  | folder {code : Int} {output errors : String} {h' : Host σ}
      (hran : b.Ran runner h (.finished code output errors) h') (hcode : code ∈ b.accepted)
      (hfile : h'.files.get? b.outputPath = none)
      (hfolder : h'.files.isFolderAt b.outputPath = true) : Escapes b runner h .system h'
  /-- The build wrote diagnostics that are nested too deep. -/
  | tooDeep {code : Int} {output errors s : String} {content : Content} {h' : Host σ}
      (hran : b.Ran runner h (.finished code output errors) h') (hcode : code ∈ b.accepted)
      (hfile : h'.files.get? b.outputPath = some content) (hread : content.read = .ok s)
      (hparse : Diagnostic.parse s = .error (.notJson .tooDeep)) :
      Escapes b runner h (.decode (.notJson .tooDeep)) h'

/-- The build wrote the diagnostics `ds`. -/
def Wrote (b : BuildCommand) (runner : Runner σ) (h : Host σ) (ds : List Diagnostic)
    (h' : Host σ) : Prop :=
  ∃ code output errors content s, b.Ran runner h (.finished code output errors) h' ∧
    code ∈ b.accepted ∧ h'.files.get? b.outputPath = some content ∧ content.read = .ok s ∧
      Diagnostic.parse s = .ok ds

/-- What is returned once the process has come to an end. -/
def finish (b : BuildCommand) (fs : Files) : Outcome → Except Fault (List Diagnostic)
  | .timedOut => .error (.workspace (.timedOut b.limit.plain))
  | .cannotStart reason => .error (.workspace (.cannotStart reason))
  | .finished code output errors => b.collect code output errors fs

theorem run_of_noCommand (hcommand : b.command = "") :
    b.run runner h = .error (.workspace .noCommand) h := by
  simp [run, hcommand]
  rfl

theorem run_eq (hcommand : b.command ≠ "") : b.run runner h =
    match b.clear h.files with
    | .error e => .error e h
    | .ok files =>
      match Text.shellWords b.command with
      | .error e => .error (shellFault e) { h with files }
      | .ok words =>
        let r := runner ⟨words, b.workspace, none, b.limit⟩ { h with files }
        resultOf (b.finish r.2.files r.1) r.2 := by
  have hempty : ¬ b.command.isEmpty = true := by simpa using hcommand
  unfold run
  rw [if_neg hempty]
  dsimp only
  rw [Act.get_bind]
  cases hclear : b.clear h.files with
  | error e => rfl
  | ok files =>
    cases hwords : Text.shellWords b.command with
    | error e => rfl
    | ok words =>
      have hfinish (r : Outcome × Host σ) : (match r.1 with
          | .timedOut => throw (.workspace (.timedOut b.limit.plain))
          | .cannotStart reason => throw (.workspace (.cannotStart reason))
          | .finished code output errors => resultOf (b.collect code output errors r.2.files) :
            Act (Host σ) (List Diagnostic)) r.2 = resultOf (b.finish r.2.files r.1) r.2 := by
        cases r.1 <;> rfl
      exact hfinish _

theorem run_of_ran (hran : b.Ran runner h outcome h') :
    b.run runner h = resultOf (b.finish h'.files outcome) h' := by
  obtain ⟨hcommand, files, words, hclear, -, hwords, hrunner⟩ := hran
  rw [run_eq hcommand, hclear, hwords]
  dsimp only
  rw [hrunner]

/-- A build ends before its process is started, or the process comes to an end. -/
theorem run_cases (b : BuildCommand) (runner : Runner σ) (h : Host σ) :
    (∃ e h', b.run runner h = .error e h' ∧ (e.Expected ∨ b.Escapes runner h e h')) ∨
      ∃ outcome h', b.Ran runner h outcome h' := by
  by_cases hcommand : b.command = ""
  · exact .inl ⟨_, h, run_of_noCommand hcommand, .inl ⟨_, rfl⟩⟩
  have hrun : b.run runner h = _ := run_eq hcommand
  cases hclear : b.clear h.files with
  | error e =>
    rw [hclear] at hrun
    obtain ⟨hfile, hfolder, rfl⟩ := clear_eq_error.mp hclear
    exact .inl ⟨_, h, hrun, .inr (.blocked hcommand hfile hfolder)⟩
  | ok files =>
    cases hwords : Text.shellWords b.command with
    | error e =>
      rw [hclear, hwords] at hrun
      exact .inl ⟨_, _, hrun, .inr (.words hcommand hclear hwords)⟩
    | ok words =>
      exact .inr ⟨_, _, hcommand, files, words, hclear, get?_of_clear hclear, hwords, rfl⟩

variable {code : Int} {output errors : String}

theorem collect_of_rejected (hcode : code ∉ b.accepted) :
    ∃ e, b.collect code output errors fs = .error (.workspace e) := by
  have hrejected : (!b.accepted.contains code) = true := by simpa using hcode
  exact ⟨_, by rw [collect, if_pos hrejected]⟩

theorem collect_of_none (hcode : code ∈ b.accepted) (hfile : fs.get? b.outputPath = none) :
    b.collect code output errors fs = .error (if fs.isFolderAt b.outputPath then .system
      else .workspace (.noDiagnostics b.outputPath.text)) := by
  cases hfolder : fs.isFolderAt b.outputPath <;>
    simp [collect, hcode, hfile, hfolder, Files.contains, loadFile, unusable?]

theorem collect_of_loaded (hcode : code ∈ b.accepted)
    (hfile : fs.get? b.outputPath = some c) (hload : loadFile fs b.outputPath = .ok ds) :
    b.collect code output errors fs = .ok ds := by
  simp [collect, hcode, hfile, Files.contains, hload]

theorem collect_of_fault (hcode : code ∈ b.accepted) (hfile : fs.get? b.outputPath = some c)
    (hload : loadFile fs b.outputPath = .error e) :
    b.collect code output errors fs = .error (match unusable? e with
      | some reason => .workspace (.unusableDiagnostics b.outputPath.text reason)
      | none => e) := by
  cases hreason : unusable? e <;> simp [collect, hcode, hfile, Files.contains, hload, hreason]

theorem unusable?_decode (e : DecodeError) :
    unusable? (.decode e) = if e = .notJson .tooDeep then none else some e.message := by
  rcases e with _ | _ | _ | _ | _ | _ | _ | _ | _ | _ | _ | _ | cause
  case notJson => cases cause <;> rfl
  all_goals rfl

theorem loadFile_of_some (hfile : fs.get? b.outputPath = some c) :
    loadFile fs b.outputPath = match c.read with
      | .error e => .error (.undecodable e)
      | .ok s => (Diagnostic.parse s).mapError .decode := by
  cases hread : c.read <;> simp [loadFile, hfile, hread]

theorem loadFile_of_read {s : String} (hfile : fs.get? b.outputPath = some c)
    (hread : c.read = .ok s) :
    loadFile fs b.outputPath = (Diagnostic.parse s).mapError .decode := by
  rw [loadFile_of_some hfile, hread]

/-- What a finished build left is read, or of no use, or cannot even be told to be of no use. -/
theorem collect_cases (b : BuildCommand) (code : Int) (output errors : String) (fs : Files) :
    (∃ e, b.collect code output errors fs = .error (.workspace e)) ∨ code ∈ b.accepted ∧
      ((fs.get? b.outputPath = none ∧ fs.isFolderAt b.outputPath = true ∧
          b.collect code output errors fs = .error .system) ∨
        ∃ content s, fs.get? b.outputPath = some content ∧ content.read = .ok s ∧
          (Diagnostic.parse s = .error (.notJson .tooDeep) ∧
              b.collect code output errors fs = .error (.decode (.notJson .tooDeep)) ∨
            ∃ ds, Diagnostic.parse s = .ok ds ∧ b.collect code output errors fs = .ok ds)) := by
  by_cases hcode : code ∈ b.accepted
  swap
  · exact .inl (collect_of_rejected hcode)
  cases hfile : fs.get? b.outputPath with
  | none =>
    have hcollect : b.collect code output errors fs = _ := collect_of_none hcode hfile
    cases hfolder : fs.isFolderAt b.outputPath with
    | false => exact .inl ⟨_, by rw [hcollect, hfolder]; rfl⟩
    | true => exact .inr ⟨hcode, .inl ⟨rfl, rfl, by rw [hcollect, hfolder]; rfl⟩⟩
  | some content =>
    cases hread : content.read with
    | error e =>
      have hload := loadFile_of_some hfile
      rw [hread] at hload
      exact .inl ⟨_, collect_of_fault hcode hfile hload⟩
    | ok s =>
      have hload := loadFile_of_read hfile hread
      cases hparse : Diagnostic.parse s with
      | ok ds =>
        rw [hparse] at hload
        exact .inr ⟨hcode, .inr ⟨content, s, rfl, hread,
          .inr ⟨ds, hparse, collect_of_loaded hcode hfile hload⟩⟩⟩
      | error e =>
        rw [hparse] at hload
        have hcollect : b.collect code output errors fs = _ := collect_of_fault hcode hfile hload
        rw [unusable?_decode] at hcollect
        by_cases hdeep : e = .notJson .tooDeep
        · subst hdeep
          exact .inr ⟨hcode, .inr ⟨content, s, rfl, hread, .inl ⟨hparse, hcollect⟩⟩⟩
        · rw [if_neg hdeep] at hcollect
          exact .inl ⟨_, hcollect⟩

theorem run_of_wrote (hw : b.Wrote runner h ds h') : b.run runner h = .ok ds h' := by
  obtain ⟨code, output, errors, content, s, hran, hcode, hfile, hread, hparse⟩ := hw
  have hload := loadFile_of_read hfile hread
  rw [hparse] at hload
  rw [run_of_ran hran, finish, collect_of_loaded hcode hfile hload]
  rfl

theorem run_of_escapes (he : b.Escapes runner h e h') :
    b.run runner h = .error e h' ∧ ¬ e.Expected := by
  cases he with
  | blocked hcommand hfile hfolder =>
    have hclear := clear_eq_error.mpr ⟨hfile, hfolder, rfl⟩
    refine ⟨by rw [run_eq hcommand, hclear], ?_⟩
    rintro ⟨_, ⟨⟩⟩
  | @words files e hcommand hclear hwords =>
    refine ⟨by rw [run_eq hcommand, hclear, hwords], ?_⟩
    cases e <;> rintro ⟨_, ⟨⟩⟩
  | folder hran hcode hfile hfolder =>
    rw [run_of_ran hran, finish, collect_of_none hcode hfile, hfolder]
    refine ⟨rfl, ?_⟩
    rintro ⟨_, ⟨⟩⟩
  | tooDeep hran hcode hfile hread hparse =>
    have hload := loadFile_of_read hfile hread
    rw [hparse] at hload
    rw [run_of_ran hran, finish, collect_of_fault hcode hfile hload, unusable?_decode]
    refine ⟨rfl, ?_⟩
    rintro ⟨_, ⟨⟩⟩

theorem run_total (b : BuildCommand) (runner : Runner σ) (h : Host σ) :
    (∃ e h', b.run runner h = .error e h' ∧ (e.Expected ∨ b.Escapes runner h e h')) ∨
      ∃ ds h', b.run runner h = .ok ds h' ∧ b.Wrote runner h ds h' := by
  rcases run_cases b runner h with hearly | ⟨outcome, h', hran⟩
  · exact .inl hearly
  have hrun := run_of_ran hran
  cases outcome with
  | timedOut => exact .inl ⟨_, h', hrun, .inl ⟨_, rfl⟩⟩
  | cannotStart reason => exact .inl ⟨_, h', hrun, .inl ⟨_, rfl⟩⟩
  | finished code output errors =>
    rw [finish] at hrun
    rcases collect_cases b code output errors h'.files with ⟨e, he⟩ | ⟨hcode, hrest⟩
    · rw [he] at hrun
      exact .inl ⟨_, h', hrun, .inl ⟨e, rfl⟩⟩
    rcases hrest with ⟨hfile, hfolder, he⟩ | ⟨content, s, hfile, hread, hrest⟩
    · rw [he] at hrun
      exact .inl ⟨_, h', hrun, .inr (.folder hran hcode hfile hfolder)⟩
    rcases hrest with ⟨hparse, he⟩ | ⟨ds, hparse, hds⟩
    · rw [he] at hrun
      exact .inl ⟨_, h', hrun, .inr (.tooDeep hran hcode hfile hread hparse)⟩
    · rw [hds] at hrun
      exact .inr ⟨ds, h', hrun, code, output, errors, content, s, hran, hcode, hfile, hread, hparse⟩

theorem ending_create (hc : h.files.create b.outputPath c = some files) :
    Act.ending (b.run runner { h with files }) = Act.ending (b.run runner h) := by
  by_cases hcommand : b.command = ""
  · rw [run_of_noCommand hcommand, run_of_noCommand hcommand]
    rfl
  · rw [run_eq hcommand, run_eq hcommand]
    dsimp only
    rw [clear_create hc]
    cases b.clear h.files <;> rfl

/-- A build returns what it wrote, or fails with a workspace error, or escapes; and whatever file
was in the place of its diagnostics, it comes to the same. -/
theorem run_ends (b : BuildCommand) (runner : Runner σ) (h : Host σ) :
    (∀ ds h', b.run runner h = .ok ds h' ↔ b.Wrote runner h ds h') ∧
      (∀ e h', b.run runner h = .error e h' ∧ ¬ e.Expected ↔ b.Escapes runner h e h') ∧
      ∀ content files, h.files.create b.outputPath content = some files →
        Act.ending (b.run runner { h with files }) = Act.ending (b.run runner h) := by
  refine ⟨fun ds h' => ⟨fun hrun => ?_, run_of_wrote⟩,
    fun e h' => ⟨fun ⟨hrun, he⟩ => ?_, run_of_escapes⟩, fun content files => ending_create⟩
  · rcases run_total b runner h with ⟨e, h'', hrun', -⟩ | ⟨ds', h'', hrun', hw⟩
    · cases hrun.symm.trans hrun'
    · cases hrun.symm.trans hrun'
      exact hw
  · rcases run_total b runner h with ⟨e', h'', hrun', hends⟩ | ⟨ds, h'', hrun', -⟩
    · cases hrun.symm.trans hrun'
      exact hends.resolve_left he
    · cases hrun.symm.trans hrun'

/-- A command with a quotation that is not closed. -/
def unclosed : BuildCommand where
  command := "make 'check"
  workspace := "ws"
  diagnosticsPath := "out.json"
  limit := .null
  accepted := [0]

/-- Whatever it would have written, the command with the open quotation fails with no workspace
error. -/
theorem unclosed_escapes : ∃ h' : Host Unit,
    unclosed.run (fun _ h => (.finished 0 "" "", h)) ⟨⟨[], [["ws"]]⟩, ()⟩ =
      .error .openQuotation h' ∧ ¬ Fault.Expected .openQuotation := by
  have hwords : Text.shellWords unclosed.command = .error .openQuotation := by decide
  exact ⟨_, run_of_escapes (.words (by decide) rfl hwords)⟩

end BuildCommand
end FixTrial
