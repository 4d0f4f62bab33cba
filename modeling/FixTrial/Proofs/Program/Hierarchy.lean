import FixTrial.Program.Hierarchy
import Mathlib.Data.List.Nodup
import Mathlib.Data.List.Perm.Subperm
import Mathlib.Logic.Relation

/-!
The type hierarchy as a relation. The types above a type are those that one or more extensions lead
to, each found once, also where the hierarchy is cyclic or a simple name stands for several types.
-/
namespace FixTrial.ProgramIndex
variable {x : ProgramIndex} {r s t : String} {seen : List String}

/-- The indexed type `s` bears one of the names that `t` lists for the types it extends. -/
def Extends (x : ProgramIndex) (t s : String) : Prop :=
  s ∈ x.types ∧ ∃ names, x.bases.lookup t = some names ∧ Place.lastPart s ∈ names

theorem mem_parents : s ∈ x.parents t ↔ x.Extends t s := by
  unfold parents named Extends
  cases x.bases.lookup t <;> simp [List.mem_flatMap, List.mem_filter, and_comm]

/-- Only an indexed type extends another. -/
theorem mem_types_of_extends (h : x.Extends t s) : t ∈ x.types := by
  obtain ⟨-, names, hnames, -⟩ := h
  obtain ⟨before, after, hbases, -⟩ := List.lookup_eq_some_iff.mp hnames
  simp [types, hbases]

namespace Search
variable {c : Search} {ss rest : List String}

theorem mem_seen_foldl_find : r ∈ (ss.foldl find c).seen ↔ r ∈ c.seen ∨ r ∈ ss := by
  induction ss generalizing c with
  | nil => simp
  | cons s ss ih =>
    rw [List.foldl_cons, ih, find]
    split <;> grind

theorem mem_pending_foldl_find :
    r ∈ (ss.foldl find c).pending ↔ r ∈ c.pending ∨ r ∈ ss ∧ r ∉ c.seen := by
  induction ss generalizing c with
  | nil => simp
  | cons s ss ih =>
    rw [List.foldl_cons, ih, find]
    split <;> grind

theorem nodup_seen_foldl_find (h : c.seen.Nodup) : (ss.foldl find c).seen.Nodup := by
  induction ss generalizing c with
  | nil => exact h
  | cons s ss ih =>
    refine ih ?_
    unfold find
    split
    · exact h
    · exact List.nodup_append_comm.mp (List.nodup_cons.mpr ⟨‹_›, h⟩)

/-- A search for the types above `t` on its way: of what was found, whatever is not pending has had
the types found that it extends. -/
structure Above (x : ProgramIndex) (t : String) (c : Search) : Prop where
  reached : ∀ s ∈ c.seen, Relation.TransGen x.Extends t s
  found : ∀ s ∈ c.pending, s ∈ t :: c.seen
  closed : ∀ r ∈ t :: c.seen, r ∈ c.pending ∨ ∀ s, x.Extends r s → s ∈ c.seen
  nodup : c.seen.Nodup

theorem above_start : Above x t ⟨[t], []⟩ := by
  constructor <;> simp

/-- One type is looked at. -/
theorem above_foldl_find (h : Above x t ⟨r :: rest, seen⟩) :
    Above x t ((x.parents r).foldl find ⟨rest, seen⟩) := by
  obtain ⟨hreached, hfound, hclosed, hnodup⟩ := h
  refine ⟨?_, ?_, ?_, nodup_seen_foldl_find hnodup⟩
  · intro s hs
    rcases mem_seen_foldl_find.mp hs with hs | hs
    · exact hreached s hs
    · have hr : r ∈ t :: seen := hfound r List.mem_cons_self
      rcases List.mem_cons.mp hr with rfl | hr
      · exact .single (mem_parents.mp hs)
      · exact (hreached r hr).tail (mem_parents.mp hs)
  · intro s hs
    rw [List.mem_cons, mem_seen_foldl_find]
    rcases mem_pending_foldl_find.mp hs with hs | ⟨hs, -⟩
    · exact (List.mem_cons.mp (hfound s (List.mem_cons_of_mem r hs))).imp_right .inl
    · exact .inr (.inr hs)
  · intro s hs
    simp only [mem_pending_foldl_find, mem_seen_foldl_find]
    rw [List.mem_cons, mem_seen_foldl_find, ← or_assoc, ← List.mem_cons] at hs
    by_cases hold : s ∈ t :: seen
    · rcases hclosed s hold with hpending | hparents
      · rcases List.mem_cons.mp hpending with rfl | hpending
        · exact .inr fun u hu => .inr (mem_parents.mpr hu)
        · exact .inl (.inl hpending)
      · exact .inr fun u hu => .inl (hparents u hu)
    · exact .inl (.inr ⟨hs.resolve_left hold, fun h => hold (List.mem_cons_of_mem t h)⟩)

/-- When nothing is pending any more, a search has found all that it was for. -/
theorem above_climb (h : Above x t c) : Above x t ⟨[], x.climb c⟩ := by
  induction c using climb.induct x with
  | case1 seen =>
    rw [climb]
    exact h
  | case2 r rest seen ih =>
    rw [climb]
    exact ih (above_foldl_find h)

end Search

theorem above_supertypes (x : ProgramIndex) (t : String) :
    Search.Above x t ⟨[], x.supertypes t⟩ := Search.above_climb Search.above_start

/-- A type is above another exactly if one or more extensions lead to it. -/
theorem mem_supertypes : s ∈ x.supertypes t ↔ Relation.TransGen x.Extends t s := by
  have hall : ∀ r ∈ t :: x.supertypes t, ∀ s, x.Extends r s → s ∈ x.supertypes t := by
    intro r hr
    exact ((above_supertypes x t).closed r hr).resolve_left List.not_mem_nil
  constructor
  · exact (above_supertypes x t).reached s
  · intro h
    induction h with
    | single h => exact hall t List.mem_cons_self _ h
    | tail _ h ih => exact hall _ (List.mem_cons_of_mem t ih) _ h

theorem supertypes_trans (hs : s ∈ x.supertypes t) (hr : r ∈ x.supertypes s) :
    r ∈ x.supertypes t :=
  mem_supertypes.mpr ((mem_supertypes.mp hs).trans (mem_supertypes.mp hr))

theorem nodup_supertypes : (x.supertypes t).Nodup := (above_supertypes x t).nodup

theorem supertypes_subset : x.supertypes t ⊆ x.types := by
  intro s hs
  obtain ⟨r, -, hr⟩ := Relation.TransGen.tail'_iff.mp (mem_supertypes.mp hs)
  exact hr.1

/-- Only an indexed type has types above it. -/
theorem mem_types_of_mem_supertypes (h : s ∈ x.supertypes t) : t ∈ x.types := by
  obtain ⟨u, hu, -⟩ := Relation.TransGen.head'_iff.mp (mem_supertypes.mp h)
  exact mem_types_of_extends hu

/-- One type is below another exactly if the other is above it. -/
theorem mem_subtypes : s ∈ x.subtypes t ↔ t ∈ x.supertypes s := by
  unfold subtypes
  rw [List.mem_filter, List.contains_iff_mem]
  constructor
  · exact And.right
  · exact fun h => ⟨mem_types_of_mem_supertypes h, h⟩

theorem subtypes_trans (hs : s ∈ x.subtypes t) (hr : r ∈ x.subtypes s) : r ∈ x.subtypes t :=
  mem_subtypes.mpr (supertypes_trans (mem_subtypes.mp hr) (mem_subtypes.mp hs))

/-- However types list each other's names, a search ends: it finds no type twice, and so no more
types than are indexed. It has then found exactly what one or more extensions lead to. To be above
is transitive, and a type is below another exactly if that one is above it. -/
theorem supertypes_reached (x : ProgramIndex) :
    (∀ t, (x.supertypes t).Nodup ∧ (x.supertypes t).length ≤ x.types.length) ∧
    (∀ t s, s ∈ x.supertypes t ↔ Relation.TransGen x.Extends t s) ∧
    (∀ t s r, s ∈ x.supertypes t → r ∈ x.supertypes s → r ∈ x.supertypes t) ∧
    ∀ t s, t ∈ x.subtypes s ↔ s ∈ x.supertypes t := by
  refine ⟨fun t => ⟨nodup_supertypes, ?_⟩, fun t s => mem_supertypes, fun t s r => supertypes_trans,
    fun t s => mem_subtypes⟩
  exact (List.subperm_of_subset nodup_supertypes supertypes_subset).length_le

/-- Two types of one simple name, one of which extends a type that extends both. All three have a
method of one parameter. -/
def tangled : ProgramIndex :=
  { ProgramIndex.empty with
    methods := ["a.Node", "b.Node", "a.Leaf"].map fun t => (⟨t, "put"⟩, ["value"])
    bases := [("a.Node", ["Leaf"]), ("b.Node", []), ("a.Leaf", ["Node", "Absent"])] }

/-- On a cycle every type is above itself, and what is above one of them is above all. -/
theorem supertypes_reached_tangled :
    "a.Node" ∈ tangled.supertypes "a.Leaf" ∧ "a.Leaf" ∈ tangled.supertypes "a.Node" ∧
      "a.Leaf" ∈ tangled.supertypes "a.Leaf" ∧ "b.Node" ∈ tangled.supertypes "a.Node" ∧
      "a.Node" ∈ tangled.subtypes "b.Node" ∧ tangled.supertypes "b.Node" = [] := by
  obtain ⟨-, hreached, htrans, hbelow⟩ := supertypes_reached tangled
  have hleaf : tangled.Extends "a.Leaf" "a.Node" := mem_parents.mp (by decide +kernel)
  have hother : tangled.Extends "a.Leaf" "b.Node" := mem_parents.mp (by decide +kernel)
  have hnode : tangled.Extends "a.Node" "a.Leaf" := mem_parents.mp (by decide +kernel)
  have hup : "a.Node" ∈ tangled.supertypes "a.Leaf" := (hreached _ _).mpr (.single hleaf)
  have hback : "a.Leaf" ∈ tangled.supertypes "a.Node" := (hreached _ _).mpr (.single hnode)
  have habove : "b.Node" ∈ tangled.supertypes "a.Node" :=
    htrans _ _ _ hback ((hreached _ _).mpr (.single hother))
  exact ⟨hup, hback, htrans _ _ _ hup hback, habove, (hbelow _ _).mpr habove, by decide +kernel⟩

end FixTrial.ProgramIndex
