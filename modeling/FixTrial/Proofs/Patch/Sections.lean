import FixTrial.Proofs.Patch.Lines
import Mathlib.Data.List.Forall2

/-!
Patches as sections: each opens with a header, and file lines and other extended header lines come
before its first hunk. What normalizing adds to a section is told by the two lines right behind its
header.
-/
namespace FixTrial.Patch

/-- The lines of a patch for one file. The hunks begin at the first line that opens one; there may
be none. -/
@[ext]
structure Section where
  header : List Char
  old : List Char
  new : List Char
  preamble : List (List Char)
  hunks : List (List Char)
  opens : isSectionHeader header = true
  names : filesOf header = .ok (old, new)
  before : ∀ line ∈ preamble, isSectionHeader line = false ∧ startsWith "@@" line = false
  hunk : ∀ line ∈ hunks.head?, startsWith "@@" line = true
  inside : ∀ line ∈ hunks, isSectionHeader line = false

variable {ls tail : List (List Char)} {line file : List Char} {mark mark' s : String}
  {x : Section} {xs : List Section}

/-- A line cannot have two marks that do not begin alike. -/
theorem not_startsWith (h : startsWith mark line = true)
    (hne : ¬ mark.toList <+: mark'.toList ∧ ¬ mark'.toList <+: mark.toList) :
    startsWith mark' line = false := by
  rw [Bool.eq_false_iff]
  intro h'
  rw [startsWith, List.isPrefixOf_iff_prefix] at h h'
  exact (List.prefix_or_prefix_of_prefix h h').elim hne.1 hne.2

theorem startsWith_mark_append (mark : String) (file : List Char) :
    startsWith mark (mark.toList ++ file) = true :=
  List.isPrefixOf_iff_prefix.mpr (List.prefix_append _ _)

theorem startsWith_headerLine : startsWith mark (headerLine mark file ls).1 = true := by
  obtain ⟨line, rest, -, hline, h⟩ | ⟨-, h⟩ := headerLine_cases mark file ls
  · rw [h]
    exact hline
  · rw [h]
    exact startsWith_mark_append mark file

theorem headerLine_suffix : (headerLine mark file ls).2 <:+ ls := by
  obtain ⟨line, rest, rfl, -, h⟩ | ⟨-, h⟩ := headerLine_cases mark file ls
  · rw [h]
    exact List.suffix_cons line rest
  · exact h ▸ List.suffix_rfl

theorem headerLine_of_stands (h : stands mark ls = true) :
    (headerLine mark file ls).1 :: (headerLine mark file ls).2 = ls := by
  obtain ⟨line, rest, rfl, -, hline⟩ | ⟨hstands, -⟩ := headerLine_cases mark file ls
  · rw [hline]
  · rw [hstands] at h
    cases h

theorem headerLine_of_not_stands (h : stands mark ls = false) :
    headerLine mark file ls = (mark.toList ++ file, ls) := by
  obtain ⟨line, rest, rfl, hline, -⟩ | ⟨-, hmade⟩ := headerLine_cases mark file ls
  · simp [stands, hline] at h
  · exact hmade

theorem sublist_headerLine :
    ls.Sublist ((headerLine mark file ls).1 :: (headerLine mark file ls).2) := by
  by_cases h : stands mark ls = true
  · rw [headerLine_of_stands h]
  · rw [headerLine_of_not_stands (by simpa using h)]
    exact List.sublist_cons_self _ _

/-- A line is made without regard to what follows, if that does not have the mark. -/
theorem headerLine_append (h : stands mark tail = false) :
    headerLine mark file (ls ++ tail) =
      ((headerLine mark file ls).1, (headerLine mark file ls).2 ++ tail) := by
  cases ls with
  | nil => exact headerLine_of_not_stands h
  | cons line rest =>
    unfold headerLine
    dsimp only [List.cons_append]
    split <;> rfl

theorem completeLines_append (h : ∀ line ∈ ls, isSectionHeader line = false) :
    completeLines (ls ++ tail) = (completeLines tail).map (ls ++ ·) := by
  induction ls with
  | nil =>
    rw [List.nil_append]
    cases completeLines tail <;> rfl
  | cons line rest ih =>
    rw [List.forall_mem_cons] at h
    rw [List.cons_append, completeLines_line h.1, ih h.2]
    cases completeLines tail <;> rfl

namespace Section

def lines (x : Section) : List (List Char) := x.header :: (x.preamble ++ x.hunks)

/-- One line for each of the two files comes before the hunks. -/
def HasHeads (x : Section) : Prop :=
  x.preamble.countP (startsWith "--- ") = 1 ∧ x.preamble.countP (startsWith "+++ ") = 1

/-- The lines for the two files come right behind the header. -/
def Leads (x : Section) : Prop :=
  stands "--- " x.preamble = true ∧ stands "+++ " x.preamble.tail = true

instance : Decidable x.HasHeads := inferInstanceAs (Decidable (_ ∧ _))

instance : Decidable x.Leads := inferInstanceAs (Decidable (_ ∧ _))

/-- The line for the old file, and what comes before the hunks behind it. -/
def first (x : Section) : List Char × List (List Char) := headerLine "--- " x.old x.preamble

/-- The line for the new file, and what comes before the hunks behind it. -/
def second (x : Section) : List Char × List (List Char) := headerLine "+++ " x.new x.first.2

/-- What comes before the hunks once the file lines are there. -/
def headed (x : Section) : List (List Char) := x.first.1 :: x.second.1 :: x.second.2

theorem second_before (x : Section) :
    ∀ line ∈ x.second.2, isSectionHeader line = false ∧ startsWith "@@" line = false :=
  fun line hline => x.before line ((headerLine_suffix.trans headerLine_suffix).subset hline)

theorem headed_before (x : Section) :
    ∀ line ∈ x.headed, isSectionHeader line = false ∧ startsWith "@@" line = false := by
  intro line hline
  rcases List.mem_cons.mp hline with rfl | hline
  · exact ⟨not_startsWith startsWith_headerLine (by decide),
      not_startsWith startsWith_headerLine (by decide)⟩
  rcases List.mem_cons.mp hline with rfl | hline
  · exact ⟨not_startsWith startsWith_headerLine (by decide),
      not_startsWith startsWith_headerLine (by decide)⟩
  · exact x.second_before line hline

/-- The section with the file lines that are not right behind its header. -/
def completed (x : Section) : Section := { x with preamble := x.headed, before := x.headed_before }

theorem completed_preamble (x : Section) :
    x.completed.preamble = x.first.1 :: x.second.1 :: x.second.2 := rfl

theorem stands_lines (hmark : mark = "--- " ∨ mark = "+++ ") :
    stands mark (xs.flatMap lines) = false := by
  cases xs with
  | nil => rfl
  | cons x xs =>
    have hopens : startsWith mark x.header = false :=
      not_startsWith x.opens (by rcases hmark with rfl | rfl <;> decide)
    simpa [stands, lines] using hopens

theorem stands_hunks (hmark : mark = "--- " ∨ mark = "+++ ") (htail : stands mark tail = false) :
    stands mark (x.hunks ++ tail) = false := by
  have hhunk := x.hunk
  cases hx : x.hunks with
  | nil => exact htail
  | cons line rest =>
    rw [hx] at hhunk
    have hline : startsWith mark line = false :=
      not_startsWith (hhunk line rfl) (by rcases hmark with rfl | rfl <;> decide)
    simpa [stands] using hline

theorem completeLines_lines_append (hold : stands "--- " tail = false)
    (hnew : stands "+++ " tail = false) :
    completeLines (x.lines ++ tail) = (completeLines tail).map (x.completed.lines ++ ·) := by
  have hrest : ∀ line ∈ x.second.2 ++ x.hunks, isSectionHeader line = false :=
    List.forall_mem_append.mpr ⟨fun line hline => (x.second_before line hline).1, x.inside⟩
  have hfirst : headerLine "--- " x.old (x.preamble ++ (x.hunks ++ tail)) =
      (x.first.1, x.first.2 ++ (x.hunks ++ tail)) :=
    headerLine_append (stands_hunks (.inl rfl) hold)
  have hsecond : headerLine "+++ " x.new (x.first.2 ++ (x.hunks ++ tail)) =
      (x.second.1, x.second.2 ++ (x.hunks ++ tail)) :=
    headerLine_append (stands_hunks (.inr rfl) hnew)
  rw [lines, List.cons_append, List.append_assoc, completeLines_header x.opens x.names, hfirst,
    hsecond]
  dsimp only
  rw [← List.append_assoc, completeLines_append hrest]
  cases completeLines tail <;> rfl

/-- Each section is completed by itself. -/
theorem completeLines_flatMap_lines :
    completeLines (xs.flatMap lines) = .ok ((xs.map completed).flatMap lines) := by
  induction xs with
  | nil => simp [completeLines]
  | cons x xs ih =>
    rw [List.flatMap_cons, completeLines_lines_append (stands_lines (.inl rfl))
      (stands_lines (.inr rfl)), ih]
    rfl

theorem first_of_stands (h : stands "--- " x.preamble = true) :
    x.first.1 :: x.first.2 = x.preamble := headerLine_of_stands h

theorem second_of_stands (h : stands "+++ " x.first.2 = true) :
    x.second.1 :: x.second.2 = x.first.2 := headerLine_of_stands h

theorem headed_of_leads (h : x.Leads) : x.headed = x.preamble := by
  have hfirst := first_of_stands h.1
  have hnew := h.2
  rw [← hfirst, List.tail_cons] at hnew
  rw [headed, second_of_stands hnew, hfirst]

theorem completed_of_leads (h : x.Leads) : x.completed = x :=
  Section.ext rfl rfl rfl (headed_of_leads h) rfl

/-- A line that is not right behind the header is not seen, and made again. -/
theorem hasHeads_completed (h : x.HasHeads) : x.completed.HasHeads ↔ x.Leads := by
  constructor
  · rintro ⟨hcountold, hcountnew⟩
    rw [completed_preamble, List.countP_cons] at hcountold hcountnew
    have hold : stands "--- " x.preamble = true := by
      by_contra hmissing
      have hfirst : x.first = ("--- ".toList ++ x.old, x.preamble) :=
        headerLine_of_not_stands (by simpa using hmissing)
      have hle : x.first.2.countP (startsWith "--- ") ≤
          (x.second.1 :: x.second.2).countP (startsWith "--- ") :=
        sublist_headerLine.countP_le
      rw [hfirst, h.1] at hle
      rw [hfirst, if_pos (startsWith_mark_append _ _)] at hcountold
      omega
    have hfirst := first_of_stands hold
    refine ⟨hold, ?_⟩
    rw [← hfirst, List.tail_cons]
    by_contra hmissing
    have hsecond : x.second = ("+++ ".toList ++ x.new, x.first.2) :=
      headerLine_of_not_stands (by simpa using hmissing)
    have hone := h.2
    rw [← hfirst, List.countP_cons] at hone
    rw [hsecond, List.countP_cons, if_pos (startsWith_mark_append _ _)] at hcountnew
    dsimp only at hcountnew
    omega
  · intro hleads
    rwa [completed_of_leads hleads]

theorem headed_lines (x : Section) : Headed x.lines x.completed.lines := by
  have h := @completeLines_flatMap_lines [x]
  simp only [List.map_cons, List.map_nil, List.flatMap_singleton] at h
  exact headed_completeLines h

/-- How a section comes out: with file lines put in at most, none if they stand right behind its
header. If they stand elsewhere, it does not come out with one of each. -/
structure Yields (x y : Section) : Prop where
  header : y.header = x.header
  hunks : y.hunks = x.hunks
  lines : Headed x.lines y.lines
  same : x.Leads → y = x
  heads : x.HasHeads → (y.HasHeads ↔ x.Leads)

theorem yields_completed (x : Section) : x.Yields x.completed where
  header := rfl
  hunks := rfl
  lines := x.headed_lines
  same := completed_of_leads
  heads := hasHeads_completed

end Section

/-- Normalizing a patch of sections gives sections, each of which comes from one of them. -/
theorem normalize_sections (h : Text.lines s.toList = xs.flatMap Section.lines) :
    ∃ p ys, normalize s = .ok p ∧ p.toList = joinLines (ys.flatMap Section.lines) ∧
      List.Forall₂ Section.Yields xs ys := by
  refine ⟨String.ofList (joinLines ((xs.map Section.completed).flatMap Section.lines)),
    xs.map Section.completed, ?_, String.toList_ofList, ?_⟩
  · unfold normalize normalizeChars
    rw [h, Section.completeLines_flatMap_lines]
    rfl
  · exact List.forall₂_map_right_iff.mpr (List.forall₂_same.mpr fun x _ => x.yields_completed)

namespace Section

/-- A section with no header lines but those for its two files. -/
def plain : Section where
  header := "diff --git a/f b/f".toList
  old := "a/f".toList
  new := "b/f".toList
  preamble := ["--- a/f".toList, "+++ b/f".toList]
  hunks := ["@@ -1 +1 @@".toList, "-old".toList, "+new".toList]
  opens := by decide
  names := by decide
  before := by decide
  hunk := by decide
  inside := by decide

/-- A section with an index line ahead of its file lines, as there is for every tracked file. -/
def revised : Section where
  header := "diff --git a/g b/g".toList
  old := "a/g".toList
  new := "b/g".toList
  preamble := ["index 3367afd..3e75765 100644".toList, "--- a/g".toList, "+++ b/g".toList]
  hunks := ["@@ -1 +1 @@".toList, "-old".toList, "+new".toList]
  opens := by decide
  names := by decide
  before := by decide
  hunk := by decide
  inside := by decide

end Section

/-- One section comes out as it is, the other with its file lines doubled. -/
theorem normalize_sections_plain_revised :
    Text.lines ("diff --git a/f b/f\n--- a/f\n+++ b/f\n@@ -1 +1 @@\n-old\n+new\n" ++
        "diff --git a/g b/g\nindex 3367afd..3e75765 100644\n--- a/g\n+++ b/g\n" ++
        "@@ -1 +1 @@\n-old\n+new\n").toList =
      [Section.plain, Section.revised].flatMap Section.lines ∧
    ∃ p y, normalize ("diff --git a/f b/f\n--- a/f\n+++ b/f\n@@ -1 +1 @@\n-old\n+new\n" ++
        "diff --git a/g b/g\nindex 3367afd..3e75765 100644\n--- a/g\n+++ b/g\n" ++
        "@@ -1 +1 @@\n-old\n+new\n") = .ok p ∧
      p.toList = joinLines ([Section.plain, y].flatMap Section.lines) ∧
      Section.revised.HasHeads ∧ ¬ y.HasHeads := by
  have hlines : Text.lines ("diff --git a/f b/f\n--- a/f\n+++ b/f\n@@ -1 +1 @@\n-old\n+new\n" ++
        "diff --git a/g b/g\nindex 3367afd..3e75765 100644\n--- a/g\n+++ b/g\n" ++
        "@@ -1 +1 @@\n-old\n+new\n").toList =
      [Section.plain, Section.revised].flatMap Section.lines := by
    decide +kernel
  obtain ⟨p, ys, hp, htext, hyields⟩ := normalize_sections hlines
  obtain ⟨x, _, hplain, hrest, rfl⟩ := List.forall₂_cons_left_iff.mp hyields
  obtain ⟨y, _, hrevised, hnil, rfl⟩ := List.forall₂_cons_left_iff.mp hrest
  obtain rfl := List.forall₂_nil_left_iff.mp hnil
  rw [hplain.same (by decide)] at htext
  have hheads : Section.revised.HasHeads := by decide
  have hlate : ¬ Section.revised.Leads := by decide
  exact ⟨hlines, p, y, hp, htext, hheads, fun hy => hlate ((hrevised.heads hheads).mp hy)⟩

/-- The section of one file has both file lines, and comes out with four. -/
theorem file_lines_doubled :
    ∃ x y : Section,
      Text.lines ("diff --git a/g b/g\nindex 3367afd..3e75765 100644\n--- a/g\n+++ b/g\n" ++
        "@@ -1 +1 @@\n-old\n+new\n").toList = x.lines ∧ x.HasHeads ∧
      normalize ("diff --git a/g b/g\nindex 3367afd..3e75765 100644\n--- a/g\n+++ b/g\n" ++
        "@@ -1 +1 @@\n-old\n+new\n") = .ok
          ("diff --git a/g b/g\n--- a/g\n+++ b/g\nindex 3367afd..3e75765 100644\n--- a/g\n" ++
            "+++ b/g\n@@ -1 +1 @@\n-old\n+new\n") ∧
      Text.lines ("diff --git a/g b/g\n--- a/g\n+++ b/g\nindex 3367afd..3e75765 100644\n" ++
        "--- a/g\n+++ b/g\n@@ -1 +1 @@\n-old\n+new\n").toList = y.lines ∧ ¬ y.HasHeads :=
  ⟨Section.revised, Section.revised.completed, by decide +kernel, by decide, by decide +kernel,
    by decide +kernel, by decide⟩

end FixTrial.Patch
