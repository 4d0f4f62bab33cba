import FixTrial.Program.Scan
import FixTrial.Proofs.Keyed
import FixTrial.Proofs.Program.Occurrences

/-!
What an index tells of calls and of uses of attributes, for every place in the files of a program.
The classes that are declared in functions are passed over, and with them all that is called and used
there.
-/
namespace FixTrial
open Source

namespace Mentions
variable {ms : Mentions} {n m : String} {r r' : Region} {rs : List Region}

theorem of_cons : of ((n, rs) :: ms) m = if n = m then rs else ms.of m := by
  unfold of
  rw [List.lookup_cons]
  by_cases h : n = m
  · simp [h]
  · rw [if_neg h, beq_eq_false_iff_ne.mpr (Ne.symm h)]

theorem mem_of_add : r' ∈ (ms.add n r).of m ↔ r' ∈ ms.of m ∨ (n = m ∧ r = r') := by
  have hempty : of [] m = [] := rfl
  induction ms with
  | nil => by_cases h : n = m <;> simp [add, of_cons, hempty, h, eq_comm]
  | cons entry rest ih =>
    obtain ⟨name, rs⟩ := entry
    unfold add
    split
    next hname =>
      subst hname
      by_cases h : name = m
      · have hinsert : r' ∈ (Keyed.insert id rs r).map id ↔ r' ∈ rs.map id ∨ r' = r :=
          Keyed.mem_keys_insert
        simpa [of_cons, h, eq_comm] using hinsert
      · simp [of_cons, h]
    next hname =>
      by_cases h : name = m
      · have hother : n ≠ m := fun hn => hname (h.trans hn.symm)
        simp [of_cons, h, hother]
      · simpa [of_cons, h] using ih

end Mentions

namespace ProgramIndex
variable {x x' : ProgramIndex} {fact fact' : Fact} {facts : List Fact} {path : String}
  {fs : Files} {folder : Path} {file : SourceFile} {files : List SourceFile}

/-- The index has a call, or a use of an attribute, on record. -/
def Knows (x : ProgramIndex) : Fact → Prop
  | .call n r => r ∈ x.callers n
  | .read n r => r ∈ x.reads.of n
  | .write n r => r ∈ x.writes.of n
  | _ => False

theorem mem_fieldUsers_iff {n : String} {r : Region} :
    r ∈ x.fieldUsers n ↔ x.Knows (.read n r) ∨ x.Knows (.write n r) :=
  Keyed.mem_union ..

theorem knows_record (hm : fact.IsMention) :
    (x.record path fact').Knows fact ↔ x.Knows fact ∨ fact' = fact := by
  cases fact with
  | call n r =>
    cases fact' with
    | call m r' => simpa [Knows, callers, record] using Mentions.mem_of_add
    | _ => simp [Knows, callers, record]
  | read n r =>
    cases fact' with
    | read m r' => simpa [Knows, record] using Mentions.mem_of_add
    | _ => simp [Knows, record]
  | write n r =>
    cases fact' with
    | write m r' => simpa [Knows, record] using Mentions.mem_of_add
    | _ => simp [Knows, record]
  | _ => exact absurd hm id

end ProgramIndex

namespace SourceFile

/-- The statements that a file holds. -/
def Parses (file : SourceFile) (statements : List Statement) : Prop :=
  ∃ source, file.content.read = .ok source ∧ Source.read? source = some statements

theorem Parses.unique {file : SourceFile} {statements others : List Statement}
    (h : file.Parses statements) (h' : file.Parses others) : others = statements := by
  obtain ⟨source, hread, hparse⟩ := h
  obtain ⟨source', hread', hparse'⟩ := h'
  obtain rfl : source' = source := Except.ok.inj (hread'.symm.trans hread)
  exact Option.some.inj (hparse'.symm.trans hparse)

/-- An expression occurs in a file, at the end of a path. -/
def Shows (file : SourceFile) (e : Expression) (path : List Holder) : Prop :=
  ∃ statements, file.Parses statements ∧ Occurs e path statements

end SourceFile

namespace ProgramIndex
variable {x x' : ProgramIndex} {fact : Fact} {fs : Files} {folder : Path} {file : SourceFile}
  {files : List SourceFile}

/-- A file that parses adds what its statements tell, and one that does not adds nothing. -/
theorem addFile_cases (h : x.addFile file = .ok x') :
    (∃ statements, file.Parses statements ∧
      x' = ((Scope.ofModule file.moduleName).statementsFacts statements).foldl
        (record file.path) x) ∨
    x' = x ∧ ∀ statements, ¬ file.Parses statements := by
  unfold addFile at h
  split at h
  next => cases h
  next source hread =>
    split at h
    next statements hparse =>
      cases h
      exact .inl ⟨statements, ⟨source, hread, hparse⟩, rfl⟩
    next hparse =>
      cases h
      refine .inr ⟨rfl, ?_⟩
      rintro others ⟨source', hread', hparse'⟩
      cases hread.symm.trans hread'
      cases hparse.symm.trans hparse'

/-- What one more fact keeps, files keep. -/
theorem foldlM_addFile_invariant {I : ProgramIndex → Prop}
    (hstep : ∀ file ∈ files, ∀ x fact, I x → I (x.record file.path fact)) (hx : I x)
    (h : files.foldlM addFile x = .ok x') : I x' := by
  induction files generalizing x with
  | nil =>
    cases h
    exact hx
  | cons file rest ih =>
    rw [List.forall_mem_cons] at hstep
    rw [List.foldlM_cons] at h
    cases hfile : x.addFile file with
    | error e =>
      rw [hfile] at h
      cases h
    | ok x₁ =>
      rw [hfile] at h
      refine ih hstep.2 ?_ h
      rcases addFile_cases hfile with ⟨statements, -, rfl⟩ | ⟨rfl, -⟩
      · exact List.foldlRecOn _ _ hx fun y hy fact _ => hstep.1 y fact hy
      · exact hx

section
variable {P : ProgramIndex → Prop} {Q : Fact → Prop}
  (hstep : ∀ x path fact, P (record path x fact) ↔ P x ∨ Q fact)
include hstep

theorem foldl_record_iff {facts : List Fact} {path : String} :
    P (facts.foldl (record path) x) ↔ P x ∨ ∃ fact ∈ facts, Q fact := by
  induction facts generalizing x with
  | nil => simp
  | cons fact rest ih => rw [List.foldl_cons, ih, hstep, or_assoc, List.exists_mem_cons_iff]

/-- What becomes true with a fact of some kind is true after files exactly if it was before, or if
one of them tells such a fact. -/
theorem foldlM_addFile_iff (h : files.foldlM addFile x = .ok x') :
    P x' ↔ P x ∨ ∃ file ∈ files, ∃ statements, file.Parses statements ∧
      ∃ fact ∈ (Scope.ofModule file.moduleName).statementsFacts statements, Q fact := by
  induction files generalizing x with
  | nil =>
    cases h
    simp
  | cons file rest ih =>
    rw [List.foldlM_cons] at h
    cases hfile : x.addFile file with
    | error e =>
      rw [hfile] at h
      cases h
    | ok x₁ =>
      rw [hfile] at h
      rw [ih h, List.exists_mem_cons_iff, ← or_assoc]
      refine or_congr_left ?_
      rcases addFile_cases hfile with ⟨statements, hparses, rfl⟩ | ⟨rfl, hnone⟩
      · rw [foldl_record_iff hstep]
        refine or_congr_right ⟨fun hfact => ⟨statements, hparses, hfact⟩, ?_⟩
        rintro ⟨others, hothers, hfact⟩
        rwa [hparses.unique hothers] at hfact
      · exact (or_iff_left fun ⟨statements, hparses, _⟩ => hnone statements hparses).symm

end

/-- An index knows exactly what is told by its files. -/
theorem knows_ofFolder (hm : fact.IsMention) (h : ofFolder fs folder = .ok x) :
    x.Knows fact ↔ ∃ file ∈ SourceFile.below fs folder, ∃ statements, file.Parses statements ∧
      fact ∈ (Scope.ofModule file.moduleName).statementsFacts statements := by
  have hempty : ¬ empty.Knows fact := by
    cases fact <;> simp [Knows, callers, empty, Mentions.of]
  have hiff := foldlM_addFile_iff (P := fun x => x.Knows fact) (Q := fun fact' => fact' = fact)
    (fun _ _ _ => knows_record hm) h
  simpa only [exists_eq_right, or_iff_right hempty] using hiff

/-- An index knows exactly what its files mention, but for what is mentioned in a class that is
declared in a function. -/
theorem knows_iff (fact : Fact) (hm : fact.IsMention) (h : ofFolder fs folder = .ok x) :
    x.Knows fact ↔ ∃ file ∈ SourceFile.below fs folder, ∃ path e, file.Shows e path ∧
      ¬ Holder.HasLocalClass path ∧
      fact ∈ ((Scope.ofModule file.moduleName).into path).ownFacts e := by
  rw [knows_ofFolder hm h]
  refine exists_congr fun file => and_congr_right fun _ => ?_
  simp only [Scope.mem_statementsFacts_iff_occurs hm, Scope.follows_iff (s := .ofModule _) rfl]
  constructor
  · rintro ⟨statements, hparses, path, e, hoccurs, hpath⟩
    exact ⟨path, e, ⟨statements, hparses, hoccurs⟩, hpath⟩
  · rintro ⟨path, e, ⟨statements, hparses, hoccurs⟩, hpath⟩
    exact ⟨statements, hparses, path, e, hoccurs, hpath⟩

/-- The callers of a name are the regions of all calls of it, and the users of an attribute those of
all uses of it, in every file of the program that can be read; only what is in a class that is
declared in a function is passed over. -/
theorem mentions_iff (h : ofFolder fs folder = .ok x) (n : String) (r : Region) :
    (r ∈ x.callers n ↔ ∃ file ∈ SourceFile.below fs folder, ∃ path function arguments,
      file.Shows (.call function arguments) path ∧ function.simpleName? = some n ∧
      ¬ Holder.HasLocalClass path ∧ r = Holder.region file.moduleName path) ∧
    (r ∈ x.fieldUsers n ↔ ∃ file ∈ SourceFile.below fs folder, ∃ path value use,
      file.Shows (.attribute value n use) path ∧
      ¬ Holder.HasLocalClass path ∧ r = Holder.region file.moduleName path) := by
  have hregion : ∀ (module : String) (path : List Holder), ¬ Holder.HasLocalClass path →
      ((Scope.ofModule module).into path).region = Holder.region module path :=
    fun module path hlocal => Scope.region_into rfl hlocal
  constructor
  · change x.Knows (.call n r) ↔ _
    rw [knows_iff (.call n r) trivial h]
    simp only [Scope.call_mem_ownFacts]
    refine exists_congr fun file => and_congr_right fun _ => exists_congr fun path => ?_
    constructor
    · rintro ⟨_, hshows, hlocal, function, arguments, rfl, hname, hr⟩
      exact ⟨function, arguments, hshows, hname, hlocal, hregion _ _ hlocal ▸ hr⟩
    · rintro ⟨function, arguments, hshows, hname, hlocal, hr⟩
      exact ⟨_, hshows, hlocal, function, arguments, rfl, hname, (hregion _ _ hlocal).symm ▸ hr⟩
  · rw [mem_fieldUsers_iff, knows_iff (.read n r) trivial h, knows_iff (.write n r) trivial h]
    simp only [← exists_or, ← and_or_left, Scope.use_mem_ownFacts]
    refine exists_congr fun file => and_congr_right fun _ => exists_congr fun path => ?_
    constructor
    · rintro ⟨_, hshows, hlocal, value, use, rfl, hr⟩
      exact ⟨value, use, hshows, hlocal, hregion _ _ hlocal ▸ hr⟩
    · rintro ⟨value, use, hshows, hlocal, hr⟩
      exact ⟨_, hshows, hlocal, value, use, rfl, (hregion _ _ hlocal).symm ▸ hr⟩

/-- A program of one module. -/
def moduleOf (source : String) : Files := ⟨[(["m.py"], .text source)], []⟩

/-- A function that calls `helper` with the `size` of something. -/
def sizedSource : String := "def outer():\n    helper(x.size)\n"

/-- A function in which a class calls `helper`. -/
def localSource : String := "def outer():\n    class Local:\n        helper()\n"

/-- The region `r` calls `helper` and uses a `size`. -/
def usesBoth (r : Region) : Except Text.Utf8Error ProgramIndex → Bool
  | .ok x => (x.callers "helper").contains r && (x.fieldUsers "size").contains r
  | .error _ => false

theorem mentions_iff_sized : ∃ x, ofFolder (moduleOf sizedSource) ⟨false, []⟩ = .ok x ∧
    (∃ file ∈ SourceFile.below (moduleOf sizedSource) ⟨false, []⟩, ∃ path function arguments,
      file.Shows (.call function arguments) path ∧ function.simpleName? = some "helper" ∧
      ¬ Holder.HasLocalClass path ∧ ⟨"m", "outer"⟩ = Holder.region file.moduleName path) ∧
    ∃ file ∈ SourceFile.below (moduleOf sizedSource) ⟨false, []⟩, ∃ path value use,
      file.Shows (.attribute value "size" use) path ∧
      ¬ Holder.HasLocalClass path ∧ ⟨"m", "outer"⟩ = Holder.region file.moduleName path := by
  have hindex : usesBoth ⟨"m", "outer"⟩ (ofFolder (moduleOf sizedSource) ⟨false, []⟩) = true := by
    decide +kernel
  unfold usesBoth at hindex
  split at hindex
  next x hx =>
    simp only [Bool.and_eq_true, List.contains_iff_mem] at hindex
    obtain ⟨hcalls, huses⟩ := hindex
    exact ⟨x, hx, (mentions_iff hx "helper" _).1.mp hcalls, (mentions_iff hx "size" _).2.mp huses⟩
  next => cases hindex

/-- Nobody is known to call `helper`. -/
def knowsNoCaller : Except Text.Utf8Error ProgramIndex → Bool
  | .ok x => (x.callers "helper").isEmpty
  | .error _ => false

/-- The one statement is a function that does nothing but declare a class, which calls `helper`. -/
def callsLocally : Option (List Statement) → Bool
  | some [.function outer _ _ [.classDef _ _ _ [.compound [.call (.name callee) _] _]]] =>
    outer == "outer" && callee == "helper"
  | _ => false

/-- A class in a function calls `helper`, and nobody is known to. -/
theorem local_class_passed_over : ∃ x, ofFolder (moduleOf localSource) ⟨false, []⟩ = .ok x ∧
    x.callers "helper" = [] ∧ ∃ file ∈ SourceFile.below (moduleOf localSource) ⟨false, []⟩,
      ∃ path arguments, file.Shows (.call (.name "helper") arguments) path ∧
        Holder.region file.moduleName path = ⟨"m", "outer"⟩ := by
  have hindex : knowsNoCaller (ofFolder (moduleOf localSource) ⟨false, []⟩) = true := by
    decide +kernel
  have hparse : callsLocally (Source.read? localSource) = true := by
    decide +kernel
  have hbelow : SourceFile.below (moduleOf localSource) ⟨false, []⟩ =
      [⟨["m.py"], .text localSource⟩] := by
    have hsource : SourceFile.isSource ["m.py"] = true := by decide +kernel
    have hfound : (moduleOf localSource).below [] = [(["m.py"], .text localSource)] := rfl
    have hroot : (moduleOf localSource).resolve? ⟨false, []⟩ = some [] := rfl
    simp [SourceFile.below, hroot, hfound, hsource]
  have hname : SourceFile.moduleName ⟨["m.py"], .text localSource⟩ = "m" := by
    decide +kernel
  have hread : Content.read (.text localSource) = .ok localSource :=
    congrArg Except.ok (by decide +kernel)
  have hshows : ∃ path arguments, SourceFile.Shows ⟨["m.py"], .text localSource⟩
      (.call (.name "helper") arguments) path ∧ Holder.region "m" path = ⟨"m", "outer"⟩ := by
    unfold callsLocally at hparse
    split at hparse
    next callee arguments _ hstatements =>
      simp only [Bool.and_eq_true, beq_iff_eq] at hparse
      obtain ⟨rfl, rfl⟩ := hparse
      -- into the function, into the class, and there the call is what the statement is made of
      exact ⟨_, arguments, ⟨_, ⟨_, hread, hstatements⟩, .inner List.mem_cons_self
        (.inner List.mem_cons_self (.own List.mem_cons_self List.mem_cons_self .self))⟩, rfl⟩
    next => cases hparse
  unfold knowsNoCaller at hindex
  split at hindex
  next x hx =>
    rw [hbelow]
    refine ⟨x, hx, List.isEmpty_iff.mp hindex, _, List.mem_singleton_self _, ?_⟩
    rw [hname]
    exact hshows
  next => cases hindex

end ProgramIndex
end FixTrial
