import FixTrial.Proofs.Program.Linked

/-!
Trees that annotate an override family in part. As families are symmetric, to look from the fixes
of a tree at what is missing finds the same as to look from what is missing at the tree.
-/
namespace FixTrial.ProgramIndex
variable {x : ProgramIndex} {f : Fix} {l m : Location} {tree tree' a b : List Fix}

/-- The place of `m` is in the family of `l`. -/
def Related (x : ProgramIndex) (l m : Location) : Prop := ∃ m' ∈ x.family l, m'.toPlace = m.toPlace

theorem declares_of_related (h : x.Related l m) : x.declares m.toPlace = true := by
  obtain ⟨m', hm', hplace⟩ := h
  rw [← hplace]
  exact (mem_family.mp hm').2.2

theorem related_symm (hl : x.declares l.toPlace = true) (h : x.Related l m) : x.Related m l := by
  obtain ⟨m', hm', hplace⟩ := h
  rw [Related, ← x.family_congr hplace]
  exact family_symm hl hm'

theorem key_relocate : (f.relocate l).key = ⟨l.toPlace, f.mark⟩ := rfl

/-- A tree breaks a family where it annotates one member of it and leaves another out. -/
theorem isDestructive_iff : x.isDestructive tree = true ↔
    ∃ k ∈ Fix.keys tree, ∃ l ∈ x.family ⟨k.place, ""⟩, ⟨l.toPlace, k.mark⟩ ∉ Fix.keys tree := by
  have hfamily : ∀ f : Fix, x.family f.location = x.family ⟨f.key.place, ""⟩ :=
    fun f => x.family_congr rfl
  unfold isDestructive
  simp only [List.any_eq_true, Bool.not_eq_true', Keyed.has_eq_false_iff, key_relocate, hfamily,
    Fix.mem_keys, List.mem_map, exists_exists_and_eq_and]
  rfl

theorem isDestructive_congr (h : Fix.keys tree = Fix.keys tree') :
    x.isDestructive tree = x.isDestructive tree' := by
  rw [Bool.eq_iff_iff, isDestructive_iff, isDestructive_iff, h]

/-- A tree leaves out a member that is related to one of its own. -/
theorem isDestructive_iff_related : x.isDestructive tree = true ↔
    ∃ f ∈ tree, ∃ m, x.Related f.location m ∧ (f.relocate m).key ∉ Fix.keys tree := by
  rw [isDestructive_iff]
  constructor
  · rintro ⟨k, hk, m, hm, hout⟩
    obtain ⟨f, hf, rfl⟩ := List.mem_map.mp (Fix.mem_keys.mp hk)
    exact ⟨f, hf, m, ⟨m, hm, rfl⟩, hout⟩
  · rintro ⟨f, hf, m, ⟨m', hm', hplace⟩, hout⟩
    refine ⟨f.key, Fix.mem_keys.mpr (List.mem_map_of_mem hf), m', hm', ?_⟩
    rwa [hplace]

/-- Whatever two trees leave out together, one of them leaves out. -/
theorem isDestructive_of_union (h : Fix.keys tree = Fix.keys a ∪ Fix.keys b)
    (hd : x.isDestructive tree = true) : x.isDestructive a = true ∨ x.isDestructive b = true := by
  obtain ⟨k, hk, m, hm, hout⟩ := isDestructive_iff.mp hd
  rw [h, Finset.mem_union] at hk hout
  rw [not_or] at hout
  rcases hk with hk | hk
  · exact .inl (isDestructive_iff.mpr ⟨k, hk, m, hm, hout.1⟩)
  · exact .inr (isDestructive_iff.mpr ⟨k, hk, m, hm, hout.2⟩)

/-- A declared member is in the family of each member of its own, and these are declared. So a tree
of declared fixes is destructive exactly if some declared fix outside it has one of its fixes, with
the same annotation, in its family. Two trees that are not destructive are not so together. -/
theorem families_symmetric (x : ProgramIndex) :
    (∀ l m : Location, x.declares l.toPlace = true → x.Related l m →
      x.declares m.toPlace = true ∧ x.Related m l) ∧
    (∀ tree : List Fix, (∀ f ∈ tree, x.declares f.location.toPlace = true) →
      (x.isDestructive tree = true ↔
        ∃ g : Fix, x.declares g.location.toPlace = true ∧ g.key ∉ Fix.keys tree ∧
          ∃ f ∈ tree, f.mark = g.mark ∧ x.Related g.location f.location)) ∧
    ∀ a b tree : List Fix, Fix.keys tree = Fix.keys a ∪ Fix.keys b →
      x.isDestructive a = false → x.isDestructive b = false → x.isDestructive tree = false := by
  refine ⟨fun l m hl h => ⟨declares_of_related h, related_symm hl h⟩, fun tree htree => ?_,
    fun a b tree hkeys ha hb => ?_⟩
  · rw [isDestructive_iff_related]
    constructor
    · rintro ⟨f, hf, m, hm, hout⟩
      exact ⟨f.relocate m, declares_of_related hm, hout, f, hf, rfl, related_symm (htree f hf) hm⟩
    · rintro ⟨g, hg, hout, f, hf, hmark, hrelated⟩
      refine ⟨f, hf, g.location, related_symm hg hrelated, ?_⟩
      rwa [key_relocate, hmark]
  · by_contra hd
    rw [Bool.not_eq_false] at hd
    rcases isDestructive_of_union hkeys hd with h | h
    · simp [ha] at h
    · simp [hb] at h

/-- The parameters of two types are not to be annotated without that of the third, which is related
to both of them. Those of all three are, and a field as well. -/
theorem families_symmetric_tangled :
    tangled.Related (tangledValue "b.Node").location (tangledValue "a.Leaf").location ∧
    tangled.isDestructive (["a.Leaf", "a.Node"].map tangledValue) = true ∧
    tangled.isDestructive (Keyed.union Fix.key (["b.Node", "a.Leaf", "a.Node"].map tangledValue)
      [.ofField "a.Leaf" "size"]) = false := by
  obtain ⟨hsymm, houtside, hunion⟩ := families_symmetric tangled
  have hbelow : tangled.Related (tangledValue "a.Leaf").location (tangledValue "b.Node").location :=
    ⟨(tangledValue "b.Node").location, by decide +kernel, rfl⟩
  obtain ⟨hdeclared, hrelated⟩ := hsymm _ _ (by decide +kernel) hbelow
  refine ⟨hrelated, (houtside _ ?_).mpr ?_, hunion _ _ _ Fix.keys_union ?_ ?_⟩
  · decide +kernel
  · exact ⟨tangledValue "b.Node", hdeclared, by decide +kernel, tangledValue "a.Leaf", by simp, rfl,
      hrelated⟩
  · decide +kernel
  · decide +kernel

end FixTrial.ProgramIndex
