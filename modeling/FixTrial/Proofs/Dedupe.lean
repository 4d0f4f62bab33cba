import FixTrial.Proofs.Suggestions
import Mathlib.Data.List.Induction

/-!
Fixes that are mentioned several times, collapsed. Each is kept once, in the order of first
mentions, with what is said of it at all of them. Merging is associative, so parts of a list may be
collapsed before the whole is.
-/
namespace FixTrial

namespace Fix
variable {f g h root : Fix} {fixes others roots : List Fix} {occurs : Fix → Prop} {s : String}
  {j : Json} {k : FixKey}

/-- Each fix that occurs is among the roots, once, with what is said of it where it occurs: all the
reasons, that the target asks for it if it does anywhere, and a patch if there is one. -/
structure Gathered (occurs : Fix → Prop) (roots : List Fix) : Prop where
  once : (roots.map key).Nodup
  all : ∀ k, k ∈ roots.map key ↔ ∃ f, occurs f ∧ f.key = k
  reasons : ∀ root ∈ roots, ∀ s,
    s ∈ root.reasons ↔ ∃ f, occurs f ∧ f.key = root.key ∧ s ∈ f.reasons
  origin : ∀ root ∈ roots,
    root.origin = .target ↔ ∃ f, occurs f ∧ f.key = root.key ∧ f.origin = .target
  unpatched : ∀ root ∈ roots,
    root.patch = none ↔ ∀ f, occurs f → f.key = root.key → f.patch = none
  patched : ∀ root ∈ roots, ∀ j, root.patch = some j →
    ∃ f, occurs f ∧ f.key = root.key ∧ f.patch = some j

theorem mem_suggestions {k : FixKey} : f ∈ suggestions k fixes ↔ f ∈ fixes ∧ f.key = k := by
  simp [suggestions]

theorem merged_of_mem_dedupe (h : root ∈ dedupe fixes) :
    merged (suggestions root.key fixes) = some root := by
  rw [← find?_dedupe, Keyed.find?_of_mem nodup_keys_dedupe h]

theorem gathered_dedupe (fixes : List Fix) : Gathered (· ∈ fixes) (dedupe fixes) where
  once := nodup_keys_dedupe
  all k := (dedupe_same k).trans List.mem_map
  reasons root hroot s := by
    rw [(merged_carries (merged_of_mem_dedupe hroot)).2]
    simp only [mem_suggestions, and_assoc]
  origin root hroot := by
    rw [← asked_iff_of_mem nodup_keys_dedupe hroot, asked_dedupe]
    rfl
  unpatched root hroot := by
    rw [(merged_carries (merged_of_mem_dedupe hroot)).1, List.findSome?_eq_none_iff]
    simp only [mem_suggestions, and_imp]
  patched root hroot j hj := exists_patch_of_mem_dedupe hroot hj

theorem Gathered.of_iff {others : Fix → Prop} (h : Gathered occurs roots)
    (hiff : ∀ f, others f ↔ occurs f) : Gathered others roots := by
  obtain rfl : others = occurs := funext fun f => propext (hiff f)
  exact h

theorem dedupe_concat : dedupe (fixes ++ [f]) = collect (dedupe fixes) f := by
  simp [dedupe]

/-- The fixes are in the order in which their keys are met first. -/
def InOrder (fixes roots : List Fix) : Prop :=
  (roots.map key).Pairwise fun k l => (fixes.map key).idxOf k < (fixes.map key).idxOf l

/-- One more fix is met after all that were met before, or else it was met before. -/
theorem inOrder_dedupe (fixes : List Fix) : InOrder fixes (dedupe fixes) := by
  induction fixes using List.reverseRecOn with
  | nil => exact List.Pairwise.nil
  | append_singleton rest f ih =>
    have hmet : ∀ k, k ∈ (dedupe rest).map key ↔ k ∈ rest.map key := dedupe_same
    have hsame : ∀ k ∈ rest.map key,
        ((rest ++ [f]).map key).idxOf k = (rest.map key).idxOf k := by
      intro k hk
      rw [List.map_append, List.idxOf_append_of_mem hk]
    have hold : ((dedupe rest).map key).Pairwise fun k l =>
        ((rest ++ [f]).map key).idxOf k < ((rest ++ [f]).map key).idxOf l := by
      refine ih.imp_of_mem fun {k l} hk hl hlt => ?_
      rwa [hsame k ((hmet k).mp hk), hsame l ((hmet l).mp hl)]
    unfold InOrder
    rw [dedupe_concat, keys_collect, Keyed.insert]
    split
    · exact hold
    next hnew =>
      rw [Bool.not_eq_true, Keyed.has_eq_false_iff, hmet] at hnew
      have hkeys : (dedupe rest ++ [f]).map key = (dedupe rest).map key ++ [f.key] :=
        List.map_append
      rw [hkeys, List.pairwise_append]
      refine ⟨hold, List.pairwise_singleton _ _, fun k hk l hl => ?_⟩
      obtain rfl : l = f.key := List.mem_singleton.mp hl
      rw [hsame k ((hmet k).mp hk), List.map_append, List.idxOf_append_of_notMem hnew]
      exact Nat.lt_add_right _ (List.idxOf_lt_length_of_mem ((hmet k).mp hk))

/-- What is left of fixes: they are gathered, in the order in which they are mentioned first, each
at the location of its first mention and with the first patch that is given with it. -/
structure Collapsed (fixes roots : List Fix) : Prop extends Gathered (· ∈ fixes) roots where
  inOrder : InOrder fixes roots
  location : ∀ root ∈ roots, ∃ first, Keyed.find? key root.key fixes = some first ∧
    root.location = first.location
  patch : ∀ root ∈ roots, root.patch = (suggestions root.key fixes).findSome? Fix.patch

theorem location_foldl_absorb : (others.foldl absorb f).location = f.location := by
  induction others generalizing f with
  | nil => rfl
  | cons g rest ih => rw [List.foldl_cons, ih, absorb]

theorem collapsed_dedupe (fixes : List Fix) : Collapsed fixes (dedupe fixes) where
  toGathered := gathered_dedupe fixes
  inOrder := inOrder_dedupe fixes
  location root hroot := by
    have hmerged := merged_of_mem_dedupe hroot
    rw [← head?_suggestions]
    cases hs : suggestions root.key fixes with
    | nil => simp [hs, merged] at hmerged
    | cons first rest =>
      rw [hs, merged] at hmerged
      refine ⟨first, rfl, ?_⟩
      rw [← Option.some.inj hmerged, location_foldl_absorb]
  patch root hroot := (merged_carries (merged_of_mem_dedupe hroot)).1

/-- A fix entered under its key, or merged into the one that has this key. -/
def enter (table : List (FixKey × Fix)) (f : Fix) : Except MergeError (List (FixKey × Fix)) :=
  match table with
  | [] => .ok [(f.key, f)]
  | (k, g) :: rest =>
    if k = f.key then do return (k, ← g.merge f) :: rest
    else do return (k, g) :: (← enter rest f)

/-- Fixes entered one after the other. -/
def tabulate (fixes : List Fix) : Except MergeError (List (FixKey × Fix)) := fixes.foldlM enter []

/-- Fixes, each under its own key. -/
def entries (fixes : List Fix) : List (FixKey × Fix) := fixes.map fun f => (f.key, f)

/-- What is under a key has that key, so that a merge into it is not refused. -/
theorem enter_entries : enter (entries fixes) f = .ok (entries (collect fixes f)) := by
  induction fixes with
  | nil => rfl
  | cons g rest ih =>
    change (if g.key = f.key then _ else _) = _
    unfold collect
    split
    next hkey =>
      rw [merge, if_pos hkey]
      rfl
    next =>
      change (enter (entries rest) f >>= _) = _
      rw [ih]
      rfl

theorem tabulate_eq (fixes : List Fix) : tabulate fixes = .ok (entries (dedupe fixes)) := by
  induction fixes using List.reverseRecOn with
  | nil => rfl
  | append_singleton rest f ih =>
    rw [dedupe_concat, ← enter_entries, tabulate, List.foldlM_append]
    change (tabulate rest >>= fun table => [f].foldlM enter table) = _
    rw [ih]
    exact bind_pure (enter (entries (dedupe rest)) f)

theorem map_key_dedupe : (dedupe fixes).map key = Keyed.distinct id (fixes.map key) := by
  induction fixes using List.reverseRecOn with
  | nil => rfl
  | append_singleton rest f ih =>
    rw [dedupe_concat, keys_collect, Keyed.map_insert, ih, List.map_append, Keyed.distinct_append]
    rfl

theorem absorb_assoc : (f.absorb g).absorb h = f.absorb (g.absorb h) := by
  have hreasons : Keyed.union id (Keyed.union id f.reasons g.reasons) h.reasons =
      Keyed.union id f.reasons (Keyed.union id g.reasons h.reasons) := Keyed.union_assoc
  have hpatch : ((f.patch <|> g.patch) <|> h.patch) = (f.patch <|> g.patch <|> h.patch) := by
    cases f.patch <;> simp
  unfold absorb
  rw [hreasons, hpatch]
  cases f.origin <;> cases g.origin <;> cases h.origin <;> rfl

theorem foldl_absorb_absorb :
    others.foldl absorb (f.absorb g) = f.absorb (others.foldl absorb g) := by
  induction others generalizing g with
  | nil => rfl
  | cons h rest ih => rw [List.foldl_cons, List.foldl_cons, absorb_assoc, ih]

/-- Suggestions may be merged part by part. -/
theorem merged_append :
    merged (fixes ++ others) = merged ((merged fixes).toList ++ (merged others).toList) := by
  cases fixes with
  | nil => cases others <;> rfl
  | cons f rest =>
    cases others with
    | nil => simp [merged]
    | cons g rest' => simp [merged, List.foldl_append, foldl_absorb_absorb]

theorem suggestions_append (k : FixKey) (fixes others : List Fix) :
    suggestions k (fixes ++ others) = suggestions k fixes ++ suggestions k others :=
  List.filter_append ..

theorem suggestions_of_nodup (hn : (fixes.map key).Nodup) :
    suggestions k fixes = (Keyed.find? key k fixes).toList := by
  induction fixes with
  | nil => rfl
  | cons f rest ih =>
    rw [List.map_cons, List.nodup_cons] at hn
    by_cases hf : f.key = k
    · have hrest : suggestions k rest = [] := by
        rw [ih hn.2, Keyed.find?_eq_none_iff.mpr (hf ▸ hn.1), Option.toList_none]
      have hcons : suggestions k (f :: rest) = f :: suggestions k rest := by
        simp [suggestions, hf]
      have hfind : Keyed.find? key k (f :: rest) = some f := by
        simp [Keyed.find?, hf]
      rw [hcons, hrest, hfind, Option.toList_some]
    · have hcons : suggestions k (f :: rest) = suggestions k rest := by
        simp [suggestions, hf]
      have hfind : Keyed.find? key k (f :: rest) = Keyed.find? key k rest := by
        simp [Keyed.find?, hf]
      rw [hcons, ih hn.2, hfind]

theorem suggestions_dedupe (k : FixKey) (fixes : List Fix) :
    suggestions k (dedupe fixes) = (merged (suggestions k fixes)).toList := by
  rw [suggestions_of_nodup nodup_keys_dedupe, find?_dedupe]

/-- What is collapsed in parts is collapsed in all. -/
theorem dedupe_append : dedupe (fixes ++ others) = dedupe (dedupe fixes ++ dedupe others) := by
  refine Keyed.eq_of_find? ?_ nodup_keys_dedupe fun k => ?_
  · simp only [map_key_dedupe, List.map_append]
    exact Keyed.distinct_append_distinct.symm
  · rw [find?_dedupe, find?_dedupe, suggestions_append, suggestions_append, suggestions_dedupe,
      suggestions_dedupe, ← merged_append]

/-- However often fixes are mentioned, collapsing leaves each of them once, where it is first
mentioned and with what all of its mentions say. It merges only what is one fix, so that no merge is
refused, and collapsing parts of a list before the whole changes nothing about any of them. -/
theorem dedupe_collapses (fixes others : List Fix) :
    Collapsed fixes (dedupe fixes) ∧ tabulate fixes = .ok (entries (dedupe fixes)) ∧
      dedupe (fixes ++ others) = dedupe (dedupe fixes ++ dedupe others) :=
  ⟨collapsed_dedupe fixes, tabulate_eq fixes, dedupe_append⟩

/-- One field, suggested for a dependent module and then for the target, with another in between. -/
def sizeTwice : List Fix :=
  [{ ofField "m.Base" "size" with
      location := ⟨⟨.field, "m.Base", "size", 0⟩, "first.py"⟩
      reasons := ["read"], origin := .downstream },
    ofField "m.Base" "name",
    { ofField "m.Base" "size" with
      location := ⟨⟨.field, "m.Base", "size", 0⟩, "second.py"⟩
      reasons := ["written"], patch := some (.text "diff") }]

/-- The field is left once, as the target asks for it, where it was mentioned first. -/
theorem dedupe_collapses_twice :
    dedupe sizeTwice =
      [{ ofField "m.Base" "size" with
          location := ⟨⟨.field, "m.Base", "size", 0⟩, "first.py"⟩
          reasons := ["read", "written"], patch := some (.text "diff") },
        ofField "m.Base" "name"] ∧
    Collapsed sizeTwice (dedupe sizeTwice) ∧
    dedupe (sizeTwice ++ sizeTwice) = dedupe (dedupe sizeTwice ++ dedupe sizeTwice) :=
  ⟨rfl, (dedupe_collapses sizeTwice []).1, (dedupe_collapses sizeTwice sizeTwice).2.2⟩

end Fix
end FixTrial
