import FixTrial.Proofs.Program.Families
import FixTrial.Proofs.Suggestions
import FixTrial.Proofs.Workspace.Repeatable

/-!
What goes in together with a fix: the fix as it is, and of the parameters that override its own
those that are suggested. To override is transitive, so that what these call for is in as well.
-/
namespace FixTrial.ProgramIndex
variable {x : ProgramIndex} {f g : Fix} {k : FixKey} {suggested : Option (List Fix)}

/-- A parameter is overridden by its declared counterparts in the types below its own. -/
theorem mem_overridingKeys : k ∈ x.overridingKeys f ↔
    f.key.place.kind = .parameter ∧ k.mark = f.key.mark ∧
      (∃ t ∈ x.subtypes f.key.place.typeName, k.place = { f.key.place with typeName := t }) ∧
      x.declares k.place = true := by
  unfold overridingKeys
  split
  next hkind =>
    have hfield : f.location.kind ≠ .field := by simp [hkind]
    rw [and_iff_right (show f.key.place.kind = .parameter from hkind), List.mem_map]
    constructor
    · rintro ⟨m, hm, rfl⟩
      obtain ⟨-, ⟨t, ht, rfl⟩, hdeclared⟩ := mem_counterparts.mp hm
      exact ⟨rfl, ⟨t, ht, rfl⟩, hdeclared⟩
    · rintro ⟨hmark, ⟨t, ht, hplace⟩, hdeclared⟩
      obtain ⟨place, mark⟩ := k
      obtain rfl : mark = f.mark := hmark
      obtain rfl : place = (x.counterpart f.location t).toPlace := hplace
      exact ⟨x.counterpart f.location t,
        mem_counterparts.mpr ⟨hfield, ⟨t, ht, rfl⟩, hdeclared⟩, rfl⟩
  next hkind =>
    have hplace : f.key.place.kind ≠ .parameter := hkind
    simp [hplace]

/-- What overrides a parameter that overrides another one overrides that one too. -/
theorem overridingKeys_subset (hg : g.key = f.key ∨ g.key ∈ x.overridingKeys f) :
    x.overridingKeys g ⊆ x.overridingKeys f := by
  intro k hk
  rw [mem_overridingKeys] at hk ⊢
  rcases hg with hsame | hover
  · rwa [hsame] at hk
  · obtain ⟨hkind, hmark, ⟨s, hs, hplace⟩, -⟩ := mem_overridingKeys.mp hover
    obtain ⟨-, hkmark, ⟨t, ht, hkplace⟩, hdeclared⟩ := hk
    rw [hplace] at ht hkplace
    exact ⟨hkind, hkmark.trans hmark, ⟨t, subtypes_trans hs ht, hkplace⟩, hdeclared⟩

/-- With a fix goes in what overrides it; where suggestions are given, only what they suggest. -/
theorem mem_keys_linked : k ∈ Fix.keys (x.linked suggested f) ↔
    k = f.key ∨ k ∈ x.overridingKeys f ∧ ∀ fixes, suggested = some fixes → k ∈ Fix.keys fixes := by
  have hoverriding : f.location.kind = .parameter →
      ((x.overriding f.location).map f.relocate).map Fix.key = x.overridingKeys f := by
    intro hkind
    rw [overridingKeys, if_pos hkind, List.map_map]
    rfl
  rw [Fix.mem_keys]
  unfold linked
  split
  next hkind =>
    have hnone : x.overridingKeys f = [] := if_neg hkind
    simp [hnone]
  next hkind =>
    rw [not_not] at hkind
    rw [Keyed.mem_keys_union, List.map_singleton, List.mem_singleton]
    refine or_congr_right ?_
    cases suggested with
    | none => simp [hoverriding hkind]
    | some fixes =>
      -- the suggestions are searched by key, so one is found exactly if its key is among them
      have hpicked := Keyed.find?_picked Fix.key k fixes.reverse
        ((x.overriding f.location).map f.relocate)
      rw [hoverriding hkind] at hpicked
      rw [← not_iff_not, ← Keyed.find?_eq_none_iff, hpicked, ite_eq_right_iff,
        Keyed.find?_eq_none_iff, List.map_reverse, List.mem_reverse, ← Fix.mem_keys]
      simp

variable (x) in
theorem keys_linked (suggested : Option (List Fix)) (h : f.key = g.key) :
    Fix.keys (x.linked suggested f) = Fix.keys (x.linked suggested g) := by
  ext k
  rw [mem_keys_linked, mem_keys_linked, mem_overridingKeys, mem_overridingKeys, h]

theorem mem_linked_self : f ∈ x.linked suggested f := by
  have hself : Keyed.find? Fix.key f.key [f] = some f := by simp [Keyed.find?]
  have hfound : Keyed.find? Fix.key f.key (x.linked suggested f) = some f := by
    unfold linked
    split
    · exact hself
    · rw [Keyed.find?_union, hself, Option.some_or]
  exact List.mem_of_find?_eq_some hfound

/-- A fix goes in as it is; whatever else goes in overrides it. -/
theorem eq_or_mem_overridingKeys (hg : g ∈ x.linked suggested f) :
    g = f ∨ g.key ∈ x.overridingKeys f := by
  rcases mem_keys_linked.mp (Fix.mem_keys.mpr (List.mem_map_of_mem hg)) with hkey | hover
  · exact .inl (List.inj_on_of_nodup_map (x.nodup_linked suggested f) hg mem_linked_self hkey)
  · exact .inr hover.1

theorem keys_linked_subset (hg : g ∈ x.linked suggested f) :
    Fix.keys (x.linked suggested g) ⊆ Fix.keys (x.linked suggested f) := by
  intro k hk
  rcases mem_keys_linked.mp hk with rfl | ⟨hover, hsuggested⟩
  · exact Fix.mem_keys.mpr (List.mem_map_of_mem hg)
  · have hkey : g.key = f.key ∨ g.key ∈ x.overridingKeys f :=
      (eq_or_mem_overridingKeys hg).imp_left (congrArg Fix.key)
    exact mem_keys_linked.mpr (.inr ⟨overridingKeys_subset hkey hover, hsuggested⟩)

/-- Whatever hierarchy a program has and whatever is suggested, all that goes in with a fix
annotates the same parameter of the same member in the same way, and but for the fix itself it is
declared in a type below that of the fix. What a part of it calls for is in it: to link all of it
once more adds nothing. -/
theorem linked_closed (x : ProgramIndex) (suggested : Option (List Fix)) (f : Fix) :
    (∀ g ∈ x.linked suggested f,
      Fix.keys (x.linked suggested g) ⊆ Fix.keys (x.linked suggested f) ∧
      g.mark = f.mark ∧ g.location.kind = f.location.kind ∧
      g.location.member = f.location.member ∧ g.location.index = f.location.index ∧
      (g = f ∨ x.declares g.location.toPlace = true ∧
        g.location.typeName ∈ x.subtypes f.location.typeName)) ∧
    Fix.keys ((x.linked suggested f).flatMap (x.linked suggested)) =
      Fix.keys (x.linked suggested f) := by
  refine ⟨fun g hg => ⟨keys_linked_subset hg, ?_⟩, ?_⟩
  · rcases eq_or_mem_overridingKeys hg with rfl | hover
    · exact ⟨rfl, rfl, rfl, rfl, .inl rfl⟩
    · obtain ⟨-, hmark, ⟨t, ht, hplace⟩, hdeclared⟩ := mem_overridingKeys.mp hover
      have hsame : g.location.toPlace = { f.location.toPlace with typeName := t } := hplace
      refine ⟨hmark, ?_, ?_, ?_, .inr ⟨hdeclared, ?_⟩⟩ <;> rw [hsame]
      exact ht
  · ext k
    rw [Fix.mem_keys, List.map_flatMap, List.mem_flatMap]
    constructor
    · rintro ⟨g, hg, hk⟩
      exact keys_linked_subset hg (Fix.mem_keys.mpr hk)
    · exact fun hk => ⟨f, mem_linked_self, Fix.mem_keys.mp hk⟩

/-- The parameter of one of the types of `tangled`, annotated. -/
def tangledValue (typeName : String) : Fix := putValue typeName "stored" none

/-- The parameter of the type on which the other two depend brings in theirs. One of these brings in
the other, and itself once more, as the two types extend each other. -/
theorem linked_closed_tangled :
    tangled.linked none (tangledValue "b.Node") = ["b.Node", "a.Node", "a.Leaf"].map tangledValue ∧
    Fix.keys (tangled.linked none (tangledValue "a.Leaf")) ⊆
      Fix.keys (tangled.linked none (tangledValue "b.Node")) ∧
    "a.Leaf" ∈ tangled.subtypes "b.Node" := by
  have hover : tangled.overriding (tangledValue "b.Node").location =
      ["a.Node", "a.Leaf"].map fun t => (tangledValue t).location := by
    decide +kernel
  have hlinked : tangled.linked none (tangledValue "b.Node") =
      ["b.Node", "a.Node", "a.Leaf"].map tangledValue := by
    unfold linked
    rw [hover]
    rfl
  have hleaf : tangledValue "a.Leaf" ∈ tangled.linked none (tangledValue "b.Node") := by
    simp [hlinked]
  obtain ⟨hclosed, -⟩ := linked_closed tangled none (tangledValue "b.Node")
  obtain ⟨hsubset, -, -, -, -, hself | ⟨-, hbelow⟩⟩ := hclosed _ hleaf
  · have hname := congrArg (fun f : Fix => f.location.typeName) hself
    exact absurd hname (by decide)
  · exact ⟨hlinked, hsubset, hbelow⟩

end FixTrial.ProgramIndex
