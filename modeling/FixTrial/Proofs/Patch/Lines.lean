import FixTrial.Proofs.Patch
import FixTrial.Proofs.Text.Lines

/-!
What normalizing keeps of a patch. The lines it reads are cut at every line break, and those that it
writes are joined by line feeds: it keeps every line as it reads it, and so the pieces between line
feeds where a patch has no other line breaks and no blank line at its end.
-/
namespace FixTrial.Patch

/-- Lines of a patch, and the same lines with file lines put in: both behind a section header, the
first alone, or the second alone behind a first that stands. -/
inductive Headed : List (List Char) → List (List Char) → Prop
  | nil : Headed [] []
  | line {ls out : List (List Char)} (line : List Char) (h : Headed ls out) :
      Headed (line :: ls) (line :: out)
  | both {ls out : List (List Char)} {header old new : List Char}
      (hheader : isSectionHeader header = true) (hfiles : filesOf header = .ok (old, new))
      (h : Headed ls out) : Headed (header :: ls)
        (header :: ("--- ".toList ++ old) :: ("+++ ".toList ++ new) :: out)
  | first {ls out : List (List Char)} {header old new : List Char}
      (hheader : isSectionHeader header = true) (hfiles : filesOf header = .ok (old, new))
      (h : Headed ls out) : Headed (header :: ls) (header :: ("--- ".toList ++ old) :: out)
  | second {ls out : List (List Char)} {header line old new : List Char}
      (hheader : isSectionHeader header = true) (hfiles : filesOf header = .ok (old, new))
      (hfirst : startsWith "--- " line = true) (h : Headed ls out) :
      Headed (header :: line :: ls) (header :: line :: ("+++ ".toList ++ new) :: out)

variable {ls out ls' out' rest : List (List Char)} {l line file header old new cs : List Char}
  {mark s : String}

theorem completeLines_line (h : isSectionHeader line = false) :
    completeLines (line :: rest) = (completeLines rest).map (line :: ·) := by
  simp [completeLines, h]

/-- Behind a section header, the two lines that have to come next are made first. -/
theorem completeLines_header (hheader : isSectionHeader header = true)
    (hfiles : filesOf header = .ok (old, new)) :
    completeLines (header :: rest) =
      (completeLines (headerLine "+++ " new (headerLine "--- " old rest).2).2).map fun lines =>
        header :: (headerLine "--- " old rest).1 ::
          (headerLine "+++ " new (headerLine "--- " old rest).2).1 :: lines := by
  rw [completeLines, if_pos hheader, hfiles]

/-- The next line has a mark. -/
def stands (mark : String) (ls : List (List Char)) : Bool := ls.head?.any (startsWith mark)

theorem headerLine_cases (mark : String) (file : List Char) (ls : List (List Char)) :
    (∃ line rest, ls = line :: rest ∧ startsWith mark line = true ∧
      headerLine mark file ls = (line, rest)) ∨
    stands mark ls = false ∧ headerLine mark file ls = (mark.toList ++ file, ls) := by
  cases ls with
  | nil => exact .inr ⟨rfl, rfl⟩
  | cons line rest =>
    by_cases h : startsWith mark line = true
    · exact .inl ⟨line, rest, rfl, h, if_pos h⟩
    · exact .inr ⟨by simpa [stands] using h, if_neg h⟩

theorem Headed.refl (ls : List (List Char)) : Headed ls ls := by
  induction ls with
  | nil => exact .nil
  | cons line _ ih => exact .line line ih

theorem Headed.append (h : Headed ls out) (h' : Headed ls' out') :
    Headed (ls ++ ls') (out ++ out') := by
  induction h with
  | nil => exact h'
  | line l _ ih => exact .line l ih
  | both hheader hfiles _ ih => exact .both hheader hfiles ih
  | first hheader hfiles _ ih => exact .first hheader hfiles ih
  | second hheader hfiles hfirst _ ih => exact .second hheader hfiles hfirst ih

/-- The cases are those of the two lines behind a section header: each stands or is made. -/
theorem headed_completeLines (h : completeLines ls = .ok out) : Headed ls out := by
  induction ls using completeLines.induct generalizing out with
  | case1 =>
    rw [completeLines] at h
    cases h
    exact .nil
  | case2 line rest hheader e he =>
    rw [completeLines, if_pos hheader, he] at h
    cases h
  | case3 header rest hheader old new hfiles first second =>
    rename_i ih
    rw [completeLines_header hheader hfiles] at h
    obtain ⟨tail, htail, rfl⟩ := exists_of_map_eq_ok h
    have hrest := ih htail
    dsimp only [first, second] at hrest
    obtain ⟨line, rest', rfl, hline, hfirst⟩ | ⟨-, hfirst⟩ := headerLine_cases "--- " old rest
    · obtain ⟨line', rest, rfl, -, hsecond⟩ | ⟨-, hsecond⟩ := headerLine_cases "+++ " new rest'
      · rw [hfirst, hsecond] at hrest ⊢
        exact .line _ (.line _ (.line _ hrest))
      · rw [hfirst, hsecond] at hrest ⊢
        exact .second hheader hfiles hline hrest
    · obtain ⟨line', rest', rfl, -, hsecond⟩ | ⟨-, hsecond⟩ := headerLine_cases "+++ " new rest
      · rw [hfirst, hsecond] at hrest ⊢
        exact .first hheader hfiles (.line _ hrest)
      · rw [hfirst, hsecond] at hrest ⊢
        exact .both hheader hfiles hrest
  | case4 line rest hheader ih =>
    rw [completeLines_line (by simpa using hheader)] at h
    obtain ⟨tail, htail, rfl⟩ := exists_of_map_eq_ok h
    exact .line line (ih htail)

theorem mem_words_of_filesOf (h : filesOf header = .ok (old, new)) :
    old ∈ Text.words header ∧ new ∈ Text.words header := by
  unfold filesOf at h
  split at h
  next hwords =>
    cases h
    simp [hwords]
  next => cases h

theorem ne_nil_of_startsWith (hmark : mark.toList ≠ []) (h : startsWith mark line = true) :
    line ≠ [] := by
  rintro rfl
  exact hmark (List.prefix_nil.mp (List.isPrefixOf_iff_prefix.mp h))

theorem Headed.sublist (h : Headed ls out) : ls.Sublist out := by
  induction h with
  | nil => exact .slnil
  | line l _ ih => exact ih.cons_cons l
  | both _ _ _ ih => exact ((ih.cons _).cons _).cons_cons _
  | first _ _ _ ih => exact (ih.cons _).cons_cons _
  | second _ _ _ _ ih => exact ((ih.cons _).cons_cons _).cons_cons _

theorem mark_append_ne_nil (hmark : mark = "--- " ∨ mark = "+++ ") : mark.toList ++ file ≠ [] := by
  rcases hmark with rfl | rfl <;> exact List.cons_ne_nil _ _

theorem unbroken_mark_append (hmark : mark = "--- " ∨ mark = "+++ ")
    (hfile : file ∈ Text.words header) : Text.Unbroken (mark.toList ++ file) := by
  have hunbroken : Text.Unbroken mark.toList := by rcases hmark with rfl | rfl <;> decide
  exact List.forall_mem_append.mpr ⟨hunbroken, Text.unbroken_of_mem_words hfile⟩

theorem Headed.unbroken (h : Headed ls out) (hls : ∀ l ∈ ls, Text.Unbroken l) :
    ∀ l ∈ out, Text.Unbroken l := by
  induction h with
  | nil => exact hls
  | line l _ ih =>
    rw [List.forall_mem_cons] at hls ⊢
    exact ⟨hls.1, ih hls.2⟩
  | both _ hfiles _ ih =>
    obtain ⟨hold, hnew⟩ := mem_words_of_filesOf hfiles
    simp only [List.forall_mem_cons] at hls ⊢
    exact ⟨hls.1, unbroken_mark_append (.inl rfl) hold, unbroken_mark_append (.inr rfl) hnew,
      ih hls.2⟩
  | first _ hfiles _ ih =>
    simp only [List.forall_mem_cons] at hls ⊢
    exact ⟨hls.1, unbroken_mark_append (.inl rfl) (mem_words_of_filesOf hfiles).1, ih hls.2⟩
  | second _ hfiles _ _ ih =>
    simp only [List.forall_mem_cons] at hls ⊢
    exact ⟨hls.1, hls.2.1, unbroken_mark_append (.inr rfl) (mem_words_of_filesOf hfiles).2,
      ih hls.2.2⟩

/-- No blank line is put in. -/
theorem Headed.count_blank (h : Headed ls out) : out.count [] = ls.count [] := by
  induction h with
  | nil => rfl
  | line l _ ih => rw [List.count_cons, List.count_cons, ih]
  | both _ _ _ ih =>
    rw [List.count_cons, List.count_cons_of_ne (mark_append_ne_nil (.inl rfl)),
      List.count_cons_of_ne (mark_append_ne_nil (.inr rfl)), ih, List.count_cons]
  | first _ _ _ ih =>
    rw [List.count_cons, List.count_cons_of_ne (mark_append_ne_nil (.inl rfl)), ih,
      List.count_cons]
  | second _ _ _ _ ih =>
    rw [List.count_cons, List.count_cons, List.count_cons_of_ne (mark_append_ne_nil (.inr rfl)), ih,
      List.count_cons, List.count_cons]

theorem getLast?_cons_blank (hl : l ≠ []) :
    (l :: ls).getLast? = some [] ↔ ls.getLast? = some [] := by
  cases ls with
  | nil => simp [hl]
  | cons m rest => rw [List.getLast?_cons_cons]

/-- Lines are put in behind lines that are not blank, and are not blank themselves. -/
theorem Headed.last_blank (h : Headed ls out) (l : List Char) :
    (l :: ls).getLast? = some [] ↔ (l :: out).getLast? = some [] := by
  have hswap {l m : List Char} {ls : List (List Char)} (hl : l ≠ []) (hm : m ≠ []) :
      (l :: ls).getLast? = some [] ↔ (m :: ls).getLast? = some [] :=
    (getLast?_cons_blank hl).trans (getLast?_cons_blank hm).symm
  induction h generalizing l with
  | nil => rfl
  | line m _ ih =>
    rw [List.getLast?_cons_cons, List.getLast?_cons_cons]
    exact ih m
  | both hheader _ _ ih =>
    simp only [List.getLast?_cons_cons]
    have hl := ne_nil_of_startsWith (by decide) hheader
    exact (ih _).trans (hswap hl (mark_append_ne_nil (.inr rfl)))
  | first hheader _ _ ih =>
    simp only [List.getLast?_cons_cons]
    have hl := ne_nil_of_startsWith (by decide) hheader
    exact (ih _).trans (hswap hl (mark_append_ne_nil (.inl rfl)))
  | second _ _ hfirst _ ih =>
    simp only [List.getLast?_cons_cons]
    have hl := ne_nil_of_startsWith (by decide) hfirst
    exact (ih _).trans (hswap hl (mark_append_ne_nil (.inr rfl)))

theorem Headed.getLast?_blank (h : Headed ls out) :
    ls.getLast? = some [] ↔ out.getLast? = some [] := by
  have hmark : "--- ".toList ≠ [] := by decide
  rw [← getLast?_cons_blank hmark, h.last_blank, getLast?_cons_blank hmark]

/-- The first line stays the first: what is said of the last holds of the lines behind it. -/
theorem Headed.tail_blank (h : Headed ls out) :
    ls.tail.getLast? = some [] ↔ out.tail.getLast? = some [] := by
  have hold {file : List Char} : "--- ".toList ++ file ≠ [] := mark_append_ne_nil (.inl rfl)
  have hnew {file : List Char} : "+++ ".toList ++ file ≠ [] := mark_append_ne_nil (.inr rfl)
  cases h with
  | nil => rfl
  | line _ h => exact h.getLast?_blank
  | both _ _ h =>
    rw [List.tail_cons, List.tail_cons, getLast?_cons_blank hold, getLast?_cons_blank hnew]
    exact h.getLast?_blank
  | first _ _ h =>
    rw [List.tail_cons, List.tail_cons, getLast?_cons_blank hold]
    exact h.getLast?_blank
  | second _ _ hfirst h =>
    have hline := ne_nil_of_startsWith (by decide) hfirst
    rw [List.tail_cons, List.tail_cons, getLast?_cons_blank hline, getLast?_cons_blank hline,
      getLast?_cons_blank hnew]
    exact h.getLast?_blank

/-- The pieces of a patch between line feeds come through: with a line feed at its end and file
lines put in, the patch is all of the text. -/
def Survives (patch text : List Char) : Prop :=
  Headed (Text.feedLines (Text.ended patch)) (Text.feedLines text)

/-- A piece that holds another line break does not come through. -/
theorem Survives.onlyFeeds (hout : ∀ l ∈ out, Text.Unbroken l) (h : Survives cs (joinLines out)) :
    Text.OnlyFeeds cs := by
  intro c hc hbreak
  by_contra hfeed
  obtain ⟨piece, hpiece, hcp⟩ := (Text.mem_feedLines hfeed).mpr ((Text.mem_ended hfeed).mpr hc)
  have htext : c ∈ joinLines out :=
    (Text.mem_feedLines hfeed).mp ⟨piece, h.sublist.subset hpiece, hcp⟩
  obtain ⟨line, hline, hcl⟩ := (Text.mem_intercalate hfeed).mp ((Text.mem_ended hfeed).mp htext)
  exact absurd hbreak (by simp [hout line hline c hcl])

/-- A blank line at the end is taken for the line feed that a text has to end in. -/
theorem survives_joinLines (hout : Headed (Text.lines cs) out) :
    Survives cs (joinLines out) ↔ Text.OnlyFeeds cs ∧ ¬ ['\n', '\n'] <:+ cs := by
  have hclean := hout.unbroken fun _ => Text.unbroken_of_mem_lines
  by_cases hfeeds : Text.OnlyFeeds cs
  swap
  · exact iff_of_false (fun h => hfeeds (h.onlyFeeds hclean)) fun h => hfeeds h.1
  by_cases hne : cs = []
  · subst hne
    have hnil : Headed [] out := hout
    cases hnil
    exact iff_of_true (.refl _) ⟨hfeeds, by simp⟩
  have hsome : out ≠ [] := by
    rintro rfl
    exact Text.lines_ne_nil hfeeds hne (List.sublist_nil.mp hout.sublist)
  have hfeed : ∀ l ∈ out, '\n' ∉ l := fun l hl => (hclean l hl).feed_notMem
  rw [and_iff_right hfeeds, ← Text.blank_lines_iff hfeeds, hout.tail_blank,
    ← Text.intercalate_ends_iff hfeed hsome, Survives, Text.feedLines_ended hfeeds hne]
  by_cases hend : (['\n'].intercalate out).getLast? = some '\n'
  · rw [joinLines, if_pos hend, Text.feedLines_intercalate hfeed hsome]
    refine iff_of_false (fun h => ?_) (not_not_intro hend)
    have hcount := h.count_blank
    rw [hout.count_blank, List.count_append] at hcount
    simp at hcount
  · rw [joinLines, if_neg hend, Text.feedLines_append_feed, Text.feedLines_intercalate hfeed hsome]
    exact iff_of_true (hout.append (.refl _)) hend

/-- Normalizing a patch with complete section headers gives a text in which every line stands as it
was read, with file lines put in and joined by line feeds. The pieces of the patch between line
feeds stand in it too, with nothing else changed, just if line feeds are its only line breaks and it
does not end in a blank line. -/
theorem normalize_survives_iff (h : Complete s) : ∃ p out, normalize s = .ok p ∧
    p.toList = joinLines out ∧ Headed (Text.lines s.toList) out ∧
    (∀ line ∈ out, Text.Unbroken line) ∧
    (Survives s.toList p.toList ↔
      Text.OnlyFeeds s.toList ∧ ¬ ['\n', '\n'] <:+ s.toList) := by
  obtain ⟨out, hout⟩ := completeLines_ok_iff.mpr h
  have hheaded := headed_completeLines hout
  refine ⟨String.ofList (joinLines out), out, ?_, String.toList_ofList, hheaded,
    hheaded.unbroken fun _ => Text.unbroken_of_mem_lines, ?_⟩
  · unfold normalize normalizeChars
    rw [hout]
    rfl
  · rw [String.toList_ofList]
    exact survives_joinLines hheaded

/-- A patch that names its files in the section header alone. -/
theorem normalize_survives_iff_headless :
    Complete "diff --git a/f b/f\n@@ -1 +1 @@\n-old\n+new" ∧ ∃ p,
      normalize "diff --git a/f b/f\n@@ -1 +1 @@\n-old\n+new" = .ok p ∧
      Survives "diff --git a/f b/f\n@@ -1 +1 @@\n-old\n+new".toList p.toList := by
  have hcomplete : Complete "diff --git a/f b/f\n@@ -1 +1 @@\n-old\n+new" := by decide +kernel
  obtain ⟨p, -, hp, -, -, -, hsurvives⟩ := normalize_survives_iff hcomplete
  exact ⟨hcomplete, p, hp, hsurvives.mpr ⟨by decide +kernel, by decide +kernel⟩⟩

/-- The carriage returns of a file with both line breaks are lost. -/
theorem carriage_returns_lost :
    normalize "diff --git a/f b/f\n--- a/f\n+++ b/f\n@@ -1 +1 @@\n-old\r\n+new\r\n" =
      .ok "diff --git a/f b/f\n--- a/f\n+++ b/f\n@@ -1 +1 @@\n-old\n+new\n" ∧
    ¬ Survives "diff --git a/f b/f\n--- a/f\n+++ b/f\n@@ -1 +1 @@\n-old\r\n+new\r\n".toList
      "diff --git a/f b/f\n--- a/f\n+++ b/f\n@@ -1 +1 @@\n-old\n+new\n".toList := by
  refine ⟨by decide +kernel, fun h => ?_⟩
  have hpiece := h.sublist.subset (a := "-old\r".toList) (by decide +kernel)
  exact absurd hpiece (by decide +kernel)

end FixTrial.Patch
