import FixTrial.Program.Family
import FixTrial.Proofs.Keyed
import FixTrial.Proofs.Program.Hierarchy

/-!
Override families, member by member. The types below one type and those above another are two views
of one relation, so that a family is the same seen from each of its declared members.
-/
namespace FixTrial.ProgramIndex
variable {x : ProgramIndex} {l m : Location} {p : Place} {types : List String}

theorem mem_counterparts : m ∈ x.counterparts l types ↔
    l.kind ≠ .field ∧ (∃ t ∈ types, x.counterpart l t = m) ∧ x.declares m.toPlace = true := by
  unfold counterparts
  split
  next hfield => simp [hfield]
  next hkind => simp [hkind, List.mem_filter, List.mem_map]

theorem mem_family : m ∈ x.family l ↔
    l.kind ≠ .field ∧
      (∃ t, (t ∈ x.subtypes l.typeName ∨ t ∈ x.supertypes l.typeName) ∧ x.counterpart l t = m) ∧
      x.declares m.toPlace = true := by
  rw [family, mem_counterparts]
  simp only [Keyed.mem_union]

variable (x) in
/-- A family does not depend on the file that a member was found in. -/
theorem family_congr (h : l.toPlace = m.toPlace) : x.family l = x.family m := by
  obtain ⟨p, path⟩ := l
  obtain ⟨p', path'⟩ := m
  obtain rfl : p = p' := h
  rfl

/-- A declared member is in the family of every member of its own. -/
theorem family_symm (hl : x.declares l.toPlace = true) (hm : m ∈ x.family l) :
    ∃ l' ∈ x.family m, l'.toPlace = l.toPlace := by
  obtain ⟨hkind, ⟨t, hrelated, rfl⟩, -⟩ := mem_family.mp hm
  refine ⟨x.counterpart (x.counterpart l t) l.typeName, mem_family.mpr ⟨hkind, ⟨_, ?_, rfl⟩, hl⟩, rfl⟩
  rcases hrelated with hbelow | habove
  · exact .inr (mem_subtypes.mp hbelow)
  · exact .inl (mem_subtypes.mpr habove)

/-- The places of one family: that of `l` and its counterparts. -/
def InFamily (x : ProgramIndex) (l : Location) (p : Place) : Prop :=
  p = l.toPlace ∨ ∃ m ∈ x.family l, m.toPlace = p

end FixTrial.ProgramIndex
