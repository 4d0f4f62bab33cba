import FixTrial.Program.Index

/-!
The type hierarchy of a program. Base types are listed by simple name, and such a name stands for
every indexed type that bears it; the hierarchy may be cyclic.
-/
namespace FixTrial.ProgramIndex
variable (x : ProgramIndex)

def named (simple : String) : List String := x.types.filter fun t => Place.lastPart t = simple

def parents (t : String) : List String := ((x.bases.lookup t).getD []).flatMap x.named

theorem mem_types_of_mem_parents {s t : String} (h : s ∈ x.parents t) : s ∈ x.types := by
  obtain ⟨n, _, hs⟩ := List.mem_flatMap.1 h
  exact (List.mem_filter.1 hs).1

/-- A stronger test that fails one element of a list holds of fewer elements. -/
theorem countP_lt {p q : α → Bool} {a : α} {xs : List α} (h : ∀ y, p y → q y) (ha : a ∈ xs)
    (hp : p a = false) (hq : q a = true) : xs.countP p < xs.countP q := by
  induction xs with
  | nil => simp at ha
  | cons y ys ih =>
    have hle : ys.countP p ≤ ys.countP q := List.countP_mono_left fun z _ => h z
    rcases List.mem_cons.1 ha with rfl | hm
    · simp [hp, hq]
      omega
    · have := ih hm
      by_cases hy : p y
      · simp [hy, h y hy]
        omega
      · have hc := List.countP_cons (p := q) (a := y) (l := ys)
        rw [List.countP_cons_of_neg hy]
        omega

/-- A search for the types above one: those still to be looked at, and all that were found. -/
structure Search where
  pending : List String
  seen : List String

namespace Search

/-- Finds a type, which is to be looked at in its turn if it is new. -/
def find (c : Search) (s : String) : Search :=
  if s ∈ c.seen then c else ⟨s :: c.pending, c.seen ++ [s]⟩

/-- A type to be found weighs as much as finding it and looking at it. -/
def weight (x : ProgramIndex) (c : Search) : Nat :=
  2 * x.types.countP (fun s => s ∉ c.seen) + c.pending.length

theorem weight_find {x : ProgramIndex} {s : String} (hs : s ∈ x.types) (c : Search) :
    (c.find s).weight x ≤ c.weight x := by
  unfold find
  split
  · exact Nat.le_refl _
  · have hless : x.types.countP (fun r => r ∉ c.seen ++ [s]) <
        x.types.countP (fun r => r ∉ c.seen) := by
      refine countP_lt ?_ hs (by simp) (by simpa)
      intro r hr
      simp only [List.mem_append, decide_eq_true_eq] at hr ⊢
      exact fun hm => hr (Or.inl hm)
    simp only [weight, List.length_cons]
    omega

theorem weight_foldl_find {x : ProgramIndex} {ss : List String} (h : ∀ s ∈ ss, s ∈ x.types)
    (c : Search) : (ss.foldl find c).weight x ≤ c.weight x := by
  induction ss generalizing c with
  | nil => exact Nat.le_refl _
  | cons s ss ih =>
    have hrest := ih (fun r hr => h r (List.mem_cons_of_mem s hr)) (c.find s)
    exact Nat.le_trans hrest (weight_find (h s List.mem_cons_self) c)

end Search

/-- All that is found by looking at the last pending type, as long as there is one. -/
def climb (c : Search) : List String :=
  match c with
  | ⟨[], seen⟩ => seen
  | ⟨t :: rest, seen⟩ => climb ((x.parents t).foldl Search.find ⟨rest, seen⟩)
termination_by c.weight x
decreasing_by
  have hle : ((x.parents t).foldl Search.find ⟨rest, seen⟩).weight x ≤
      Search.weight x ⟨rest, seen⟩ :=
    Search.weight_foldl_find (fun _ => x.mem_types_of_mem_parents) _
  simp only [Search.weight, List.length_cons] at hle ⊢
  omega

/-- The types above `t`: itself only if the hierarchy leads back to it. -/
def supertypes (t : String) : List String := x.climb ⟨[t], []⟩

def subtypes (t : String) : List String := x.types.filter fun s => (x.supertypes s).contains t

end FixTrial.ProgramIndex
