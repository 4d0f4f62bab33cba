import FixTrial.Text.Blank
import FixTrial.Text.Lines
import Mathlib.Data.List.Basic

/-!
Lines that end at any line break, and lines that end at line feeds only. Where a text has no other
breaks than line feeds they are the same, but for the piece behind the last line feed.
-/
namespace FixTrial.Text
variable {c : Char} {cs acc word line : List Char} {ls : List (List Char)}

theorem isBlank_of_isLineBreak (h : isLineBreak c = true) : isBlank c = true := by
  simp only [isLineBreak, isBlank, Bool.or_eq_true, Bool.and_eq_true, decide_eq_true_eq,
    beq_iff_eq] at h ⊢
  omega

theorem isBlank_of_mem_wordsFrom (hacc : ∀ c ∈ acc, isBlank c = false)
    (hw : word ∈ wordsFrom acc cs) (hc : c ∈ word) : isBlank c = false := by
  induction acc, cs using wordsFrom.induct with
  | case1 acc hempty => simp [wordsFrom, hempty] at hw
  | case2 acc hempty =>
    obtain rfl : word = acc.reverse := by simpa [wordsFrom, hempty] using hw
    exact hacc c (List.mem_reverse.mp hc)
  | case3 acc d rest hd hempty ih =>
    rw [wordsFrom, if_pos hd, if_pos hempty] at hw
    exact ih (by simp) hw
  | case4 acc d rest hd hempty ih =>
    rw [wordsFrom, if_pos hd, if_neg hempty] at hw
    rcases List.mem_cons.mp hw with rfl | hw
    · exact hacc c (List.mem_reverse.mp hc)
    · exact ih (by simp) hw
  | case5 acc d rest hd ih =>
    rw [wordsFrom, if_neg hd] at hw
    exact ih (List.forall_mem_cons.mpr ⟨by simpa using hd, hacc⟩) hw

/-- No line break stands in a line. -/
def Unbroken (line : List Char) : Prop := ∀ c ∈ line, isLineBreak c = false

instance : Decidable (Unbroken line) := List.decidableBAll (isLineBreak · = false) line

theorem Unbroken.feed_notMem (h : Unbroken line) : '\n' ∉ line := fun hc =>
  absurd (h _ hc) (by decide)

theorem unbroken_of_mem_words (hw : word ∈ words cs) : Unbroken word := by
  intro c hc
  cases hb : isLineBreak c with
  | false => rfl
  | true => rw [← isBlank_of_mem_wordsFrom (by simp) hw hc, isBlank_of_isLineBreak hb]

theorem not_isLineBreak_of_mem_linesFrom (hacc : ∀ c ∈ acc, isLineBreak c = false)
    (hl : line ∈ linesFrom acc cs) (hc : c ∈ line) : isLineBreak c = false := by
  induction acc, cs using linesFrom.induct with
  | case1 acc hempty => simp [linesFrom, hempty] at hl
  | case2 acc hempty =>
    obtain rfl : line = acc.reverse := by simpa [linesFrom, hempty] using hl
    exact hacc c (List.mem_reverse.mp hc)
  | case3 acc rest ih =>
    rw [linesFrom] at hl
    rcases List.mem_cons.mp hl with rfl | hl
    · exact hacc c (List.mem_reverse.mp hc)
    · exact ih (by simp) hl
  | case4 acc d rest hpair hd ih =>
    rw [linesFrom.eq_3 _ _ _ hpair, if_pos hd] at hl
    rcases List.mem_cons.mp hl with rfl | hl
    · exact hacc c (List.mem_reverse.mp hc)
    · exact ih (by simp) hl
  | case5 acc d rest hpair hd ih =>
    rw [linesFrom.eq_3 _ _ _ hpair, if_neg hd] at hl
    exact ih (List.forall_mem_cons.mpr ⟨by simpa using hd, hacc⟩) hl

theorem unbroken_of_mem_lines (hl : line ∈ lines cs) : Unbroken line := fun _ =>
  not_isLineBreak_of_mem_linesFrom (by simp) hl

theorem feedLinesFrom_eq_splitOnPPrepend :
    feedLinesFrom acc cs = List.splitOnPPrepend (· == '\n') cs acc := by
  induction cs generalizing acc with
  | nil => rfl
  | cons c rest ih =>
    rw [feedLinesFrom, List.splitOnPPrepend, ih, ih]
    by_cases hc : c = '\n' <;> simp [hc]

theorem feedLines_eq_splitOn : feedLines cs = cs.splitOn '\n' := feedLinesFrom_eq_splitOnPPrepend

theorem feedLines_append_feed (xs ys : List Char) :
    feedLines (xs ++ '\n' :: ys) = feedLines xs ++ feedLines ys := by
  simp only [feedLines_eq_splitOn, List.splitOn_append_cons_self]

theorem feedLines_ne_nil : feedLines cs ≠ [] := by
  rw [feedLines_eq_splitOn]
  exact List.splitOnP_ne_nil _ _

/-- Line feeds are the only line breaks of a text. -/
def OnlyFeeds (cs : List Char) : Prop := ∀ c ∈ cs, isLineBreak c = true → c = '\n'

instance : Decidable (OnlyFeeds cs) :=
  List.decidableBAll (fun c => isLineBreak c = true → c = '\n') cs

/-- A text with the line feed at its end that it may lack. -/
def ended (cs : List Char) : List Char := if cs.getLast? = some '\n' then cs else cs ++ ['\n']

theorem ended_ne_nil : ended cs ≠ [] := by
  unfold ended
  split
  next h =>
    rintro rfl
    simp at h
  next => exact List.append_ne_nil_of_right_ne_nil cs (List.cons_ne_nil _ _)

theorem mem_ended (hc : c ≠ '\n') : c ∈ ended cs ↔ c ∈ cs := by
  unfold ended
  split <;> simp [hc]

theorem linesFrom_cons (h : isLineBreak c = true → c = '\n') (rest : List Char) :
    linesFrom acc (c :: rest) =
      if c = '\n' then acc.reverse :: linesFrom [] rest else linesFrom (c :: acc) rest := by
  rw [linesFrom.eq_3]
  · by_cases hc : c = '\n'
    · subst hc
      rfl
    · rw [if_neg hc, if_neg fun hb => hc (h hb)]
  · rintro rest rfl -
    exact absurd (h rfl) (by decide)

theorem feedLinesFrom_snoc (h : OnlyFeeds cs) :
    feedLinesFrom acc (cs ++ ['\n']) = linesFrom acc (cs ++ ['\n']) ++ [[]] := by
  induction cs generalizing acc with
  | nil => rw [List.nil_append, linesFrom_cons fun _ => rfl]; rfl
  | cons c rest ih =>
    have hrest : OnlyFeeds rest := fun d hd => h d (List.mem_cons_of_mem c hd)
    rw [List.cons_append, linesFrom_cons (h c List.mem_cons_self), feedLinesFrom, ih hrest,
      ih hrest]
    split <;> rfl

theorem linesFrom_snoc (h : OnlyFeeds cs) (hne : cs = [] → acc ≠ [])
    (hlast : cs.getLast? ≠ some '\n') : linesFrom acc (cs ++ ['\n']) = linesFrom acc cs := by
  induction cs generalizing acc with
  | nil =>
    rw [List.nil_append, linesFrom_cons fun _ => rfl]
    simp [linesFrom, hne rfl]
  | cons c rest ih =>
    have hrest : OnlyFeeds rest := fun d hd => h d (List.mem_cons_of_mem c hd)
    rw [List.getLast?_cons] at hlast
    rw [List.cons_append, linesFrom_cons (h c List.mem_cons_self),
      linesFrom_cons (h c List.mem_cons_self)]
    have hlast' : rest.getLast? ≠ some '\n' := by
      intro hr
      simp [hr] at hlast
    by_cases hc : c = '\n'
    · have hne' : rest ≠ [] := by
        rintro rfl
        exact hlast (by simp [hc])
      rw [if_pos hc, if_pos hc, ih hrest (fun hr => absurd hr hne') hlast']
    · rw [if_neg hc, if_neg hc, ih hrest (fun _ => List.cons_ne_nil c acc) hlast']

/-- Behind the last line feed comes an empty piece, which is no line. -/
theorem feedLines_ended (h : OnlyFeeds cs) (hne : cs ≠ []) :
    feedLines (ended cs) = lines cs ++ [[]] := by
  unfold ended
  split
  next hlast =>
    obtain ⟨body, rfl⟩ := List.getLast?_eq_some_iff.mp hlast
    exact feedLinesFrom_snoc fun c hc => h c (List.mem_append_left _ hc)
  next hlast =>
    have hsame : lines (cs ++ ['\n']) = lines cs := linesFrom_snoc h (fun hn => absurd hn hne) hlast
    rw [← hsame]
    exact feedLinesFrom_snoc h

theorem intercalate_snoc_nil (h : ls ≠ []) :
    ['\n'].intercalate (ls ++ [[]]) = ['\n'].intercalate ls ++ ['\n'] := by
  induction ls with
  | nil => exact absurd rfl h
  | cons l rest ih =>
    cases rest with
    | nil => simp [List.intercalate_cons_cons]
    | cons m rest =>
      have hrest := ih (List.cons_ne_nil m rest)
      rw [List.cons_append] at hrest
      rw [List.cons_append, List.cons_append, List.intercalate_cons_cons, hrest,
        List.intercalate_cons_cons, List.append_assoc (l ++ ['\n'])]

theorem intercalate_feedLines (cs : List Char) : ['\n'].intercalate (feedLines cs) = cs := by
  rw [feedLines_eq_splitOn, List.intercalate_splitOn]

theorem feedLines_intercalate (h : ∀ l ∈ ls, '\n' ∉ l) (hne : ls ≠ []) :
    feedLines (['\n'].intercalate ls) = ls := by
  rw [feedLines_eq_splitOn, List.splitOn_intercalate '\n' h hne]

theorem mem_intercalate (hc : c ≠ '\n') : c ∈ ['\n'].intercalate ls ↔ ∃ l ∈ ls, c ∈ l := by
  induction ls with
  | nil => simp
  | cons l rest ih =>
    cases rest with
    | nil => simp
    | cons m rest =>
      rw [List.intercalate_cons_cons, List.mem_append, List.mem_append, ih]
      simp [hc]

/-- The pieces of a text hold all of it but the line feeds. -/
theorem mem_feedLines (hc : c ≠ '\n') : (∃ l ∈ feedLines cs, c ∈ l) ↔ c ∈ cs := by
  rw [← mem_intercalate hc, intercalate_feedLines]

/-- Lines that are joined end in a line feed where the last is blank, and not the only one. -/
theorem intercalate_ends_iff (h : ∀ l ∈ ls, '\n' ∉ l) (hne : ls ≠ []) :
    (['\n'].intercalate ls).getLast? = some '\n' ↔ ls.tail.getLast? = some [] := by
  constructor
  · intro hend
    obtain ⟨body, hbody⟩ := List.getLast?_eq_some_iff.mp hend
    have hpieces : ls = feedLines body ++ [[]] := by
      rw [← feedLines_intercalate h hne, hbody, feedLines_append_feed]
      rfl
    rw [hpieces, List.tail_append_of_ne_nil feedLines_ne_nil]
    exact List.getLast?_concat
  · intro hblank
    cases ls with
    | nil => exact absurd rfl hne
    | cons first rest =>
      obtain ⟨before, rfl⟩ := List.getLast?_eq_some_iff.mp hblank
      rw [← List.cons_append, intercalate_snoc_nil (List.cons_ne_nil _ _)]
      exact List.getLast?_concat

theorem lines_ne_nil (h : OnlyFeeds cs) (hne : cs ≠ []) : lines cs ≠ [] := by
  intro hl
  apply @ended_ne_nil cs
  rw [← intercalate_feedLines (ended cs), feedLines_ended h hne, hl]
  rfl

/-- The last line is blank, and not the only one, where two line feeds stand at the end. -/
theorem blank_lines_iff (h : OnlyFeeds cs) :
    (lines cs).tail.getLast? = some [] ↔ ['\n', '\n'] <:+ cs := by
  by_cases hne : cs = []
  · subst hne
    exact iff_of_false (by simp [lines, linesFrom]) (by simp)
  have hfeed : ∀ l ∈ lines cs, '\n' ∉ l := fun l hl => (unbroken_of_mem_lines hl).feed_notMem
  have hjoin : ended cs = ['\n'].intercalate (lines cs) ++ ['\n'] := by
    rw [← intercalate_snoc_nil (lines_ne_nil h hne), ← feedLines_ended h hne, intercalate_feedLines]
  rw [← intercalate_ends_iff hfeed (lines_ne_nil h hne)]
  generalize ['\n'].intercalate (lines cs) = joined at hjoin
  unfold ended at hjoin
  split at hjoin
  next =>
    rw [hjoin]
    constructor
    · intro hlast
      obtain ⟨before, rfl⟩ := List.getLast?_eq_some_iff.mp hlast
      exact ⟨before, List.append_cons _ _ _⟩
    · rintro ⟨before, hbefore⟩
      rw [← List.append_cancel_right ((List.append_cons _ _ _).symm.trans hbefore)]
      exact List.getLast?_concat
  next hlast =>
    obtain rfl : cs = joined := List.append_cancel_right hjoin
    refine iff_of_false hlast ?_
    rintro ⟨before, rfl⟩
    simp at hlast

end FixTrial.Text
