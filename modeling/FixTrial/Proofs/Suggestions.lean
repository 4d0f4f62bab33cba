import FixTrial.Exploration.Indexed
import FixTrial.Proofs.Snapshot

/-!
Suggestions: a checker may suggest one fix with several diagnostics, each time with reasons of its
own and with or without a patch. Merging them loses nothing. A snapshot does not merge: the first
suggestion of a fix stands for all of them, also where the fix is linked to another.
-/
namespace FixTrial

namespace Keyed
variable {α κ : Type} [DecidableEq κ] {key : α → κ} {k : κ} {x : α} {xs ys : List α}

theorem find?_eq_none_iff : find? key k xs = none ↔ k ∉ xs.map key := by
  simp [find?]

theorem find?_insert : find? key k (insert key xs x) =
    (find? key k xs).or (if key x = k then some x else none) := by
  unfold insert
  split
  next h =>
    split
    next hx =>
      subst hx
      obtain ⟨y, hy⟩ : ∃ y, find? key (key x) xs = some y := by
        rw [← Option.ne_none_iff_exists', Ne, find?_eq_none_iff, not_not]
        exact has_iff.mp h
      rw [hy]
      rfl
    next => rw [Option.or_none]
  next => by_cases hx : key x = k <;> simp [find?, hx]

theorem find?_union : find? key k (union key xs ys) = (find? key k xs).or (find? key k ys) := by
  induction ys generalizing xs with
  | nil => simp [union, find?]
  | cons y ys ih =>
    change find? key k (union key (insert key xs y) ys) = _
    rw [ih, find?_insert, Option.or_assoc]
    congr 1
    by_cases hy : key y = k <;> simp [find?, hy]

/-- Of the elements with a key the first one is kept. -/
theorem find?_distinct : find? key k (distinct key xs) = find? key k xs := by
  rw [distinct, find?_union]
  rfl

theorem find?_of_mem (hn : (xs.map key).Nodup) (hx : x ∈ xs) : find? key (key x) xs = some x := by
  cases h : find? key (key x) xs with
  | none => exact absurd (List.mem_map_of_mem hx) (find?_eq_none_iff.mp h)
  | some y =>
    have hkey : key y = key x := by simpa using List.find?_some h
    rw [List.inj_on_of_nodup_map hn (List.mem_of_find?_eq_some h) hx hkey]

/-- Lists without repeated keys are equal if their keys are, and what they hold under each. -/
theorem eq_of_find? (hkeys : xs.map key = ys.map key) (hn : (xs.map key).Nodup)
    (hfind : ∀ k, find? key k xs = find? key k ys) : xs = ys := by
  have hsome : ∀ zs : List α, (zs.map key).Nodup →
      zs.map some = (zs.map key).map fun k => find? key k zs := by
    intro zs hzs
    rw [List.map_map]
    exact List.map_congr_left fun z hz => (find?_of_mem hzs hz).symm
  have heq : xs.map some = ys.map some := by
    rw [hsome xs hn, hsome ys (hkeys ▸ hn), hkeys]
    simp only [hfind]
  exact List.map_injective_iff.mpr (fun _ _ => Option.some.inj) heq

theorem find?_reverse (hn : (xs.map key).Nodup) : find? key k xs.reverse = find? key k xs := by
  cases h : find? key k xs with
  | none =>
    rw [find?_eq_none_iff, List.map_reverse, List.mem_reverse]
    exact find?_eq_none_iff.mp h
  | some x =>
    obtain rfl : key x = k := by simpa using List.find?_some h
    refine find?_of_mem ?_ (List.mem_reverse.mpr (List.mem_of_find?_eq_some h))
    rwa [List.map_reverse, List.nodup_reverse]

/-- What some elements pick by their keys from a list. -/
theorem find?_picked (key : α → κ) (k : κ) (xs ys : List α) :
    find? key k (ys.filterMap fun y => find? key (key y) xs) =
      if k ∈ ys.map key then find? key k xs else none := by
  induction ys with
  | nil => rfl
  | cons y ys ih =>
    rw [List.filterMap_cons]
    by_cases hy : key y = k
    · subst hy
      rw [if_pos (by simp)]
      cases h : find? key (key y) xs with
      | none =>
        rw [ih, h]
        split <;> rfl
      | some x =>
        have hkey : key x = key y := by simpa using List.find?_some h
        simp [find?, hkey]
    · have hskip : k ∈ (y :: ys).map key ↔ k ∈ ys.map key := by simp [Ne.symm hy]
      rw [if_congr hskip rfl rfl, ← ih]
      cases h : find? key (key y) xs with
      | none => rfl
      | some x =>
        have hkey : key x = key y := by simpa using List.find?_some h
        simp [find?, hkey, hy]

end Keyed

namespace Fix
variable {f g m : Fix} {fixes others : List Fix} {k : FixKey}

/-- The suggestions of one fix, in their order. -/
def suggestions (k : FixKey) (fixes : List Fix) : List Fix := fixes.filter fun f => f.key = k

/-- Suggestions of one fix as one. -/
def merged : List Fix → Option Fix
  | [] => none
  | f :: rest => some (rest.foldl absorb f)

theorem head?_suggestions : (suggestions k fixes).head? = Keyed.find? key k fixes :=
  List.head?_filter ..

theorem find?_collect : Keyed.find? key k (collect fixes f) =
    if f.key = k then some ((Keyed.find? key k fixes).elim f fun g => g.absorb f)
    else Keyed.find? key k fixes := by
  induction fixes with
  | nil => by_cases hf : f.key = k <;> simp [collect, Keyed.find?, hf]
  | cons g rest ih =>
    unfold collect
    by_cases hg : g.key = f.key
    · by_cases hf : f.key = k
      · simp [Keyed.find?, hg, hf]
      · simp [Keyed.find?, hg, hf]
    · rw [if_neg hg]
      by_cases hgk : g.key = k
      · have hf : f.key ≠ k := fun h => hg (hgk.trans h.symm)
        simp [Keyed.find?, hgk, hf]
      · have hskip : ∀ l, Keyed.find? key k (g :: l) = Keyed.find? key k l := by
          simp [Keyed.find?, hgk]
        rw [hskip, hskip, ih]

theorem find?_foldl_collect : Keyed.find? key k (others.foldl collect fixes) =
    (Keyed.find? key k fixes).elim (merged (suggestions k others)) fun g =>
      some ((suggestions k others).foldl absorb g) := by
  induction others generalizing fixes with
  | nil => cases h : Keyed.find? key k fixes <;> simp [suggestions, merged, h]
  | cons f rest ih =>
    rw [List.foldl_cons, ih, find?_collect]
    by_cases hf : f.key = k
    · have hcons : suggestions k (f :: rest) = f :: suggestions k rest := by
        simp [suggestions, hf]
      rw [if_pos hf, hcons]
      cases Keyed.find? key k fixes <;> rfl
    · have hcons : suggestions k (f :: rest) = suggestions k rest := by
        simp [suggestions, hf]
      rw [if_neg hf, hcons]

/-- What is kept of a fix is all of its suggestions, as one. -/
theorem find?_dedupe : Keyed.find? key k (dedupe fixes) = merged (suggestions k fixes) :=
  find?_foldl_collect

theorem patch_foldl_absorb : (others.foldl absorb f).patch = (f :: others).findSome? Fix.patch := by
  induction others generalizing f with
  | nil => cases h : f.patch <;> simp [h]
  | cons g rest ih =>
    rw [List.foldl_cons, ih]
    cases hf : f.patch <;> cases hg : g.patch <;> simp [absorb, hf, hg]

theorem mem_reasons_foldl_absorb {r : String} :
    r ∈ (others.foldl absorb f).reasons ↔ ∃ g ∈ f :: others, r ∈ g.reasons := by
  induction others generalizing f with
  | nil => simp
  | cons g rest ih =>
    have habsorb : r ∈ (f.absorb g).reasons ↔ r ∈ f.reasons ∨ r ∈ g.reasons :=
      Keyed.mem_union f.reasons g.reasons
    rw [List.foldl_cons, ih]
    simp only [List.exists_mem_cons_iff, habsorb, or_assoc]

/-- Suggestions of one fix, merged, have the reasons of all and a patch if one has. -/
theorem merged_carries (h : merged fixes = some m) : m.patch = fixes.findSome? Fix.patch ∧
    ∀ r, r ∈ m.reasons ↔ ∃ g ∈ fixes, r ∈ g.reasons := by
  cases fixes with
  | nil => cases h
  | cons f rest =>
    obtain rfl : rest.foldl absorb f = m := by simpa [merged] using h
    exact ⟨patch_foldl_absorb, fun _ => mem_reasons_foldl_absorb⟩

/-- The patch of what is kept of a fix is that of one of its suggestions. -/
theorem exists_patch_of_mem_dedupe {j : Json} (hf : f ∈ dedupe fixes) (hj : f.patch = some j) :
    ∃ g ∈ fixes, g.key = f.key ∧ g.patch = some j := by
  have hmerged : merged (suggestions f.key fixes) = some f := by
    rw [← find?_dedupe, Keyed.find?_of_mem nodup_keys_dedupe hf]
  rw [(merged_carries hmerged).1] at hj
  obtain ⟨g, hg, hpatch⟩ := List.exists_of_findSome?_eq_some hj
  obtain ⟨hmem, hkey⟩ := List.mem_filter.mp hg
  exact ⟨g, hmem, by simpa using hkey, hpatch⟩

/-- The first suggestion has the patch of all of them unless it has none and another one has. -/
theorem patch_eq_iff_of_merged (hf : fixes.head? = some f) (hm : merged fixes = some m) :
    f.patch = m.patch ↔ (f.patch = none → ∀ g ∈ fixes, g.patch = none) := by
  obtain ⟨rest, rfl⟩ : ∃ rest, fixes = f :: rest := List.head?_eq_some_iff.mp hf
  rw [(merged_carries hm).1]
  cases hp : f.patch with
  | some p => simp [hp]
  | none =>
    rw [eq_comm, List.findSome?_eq_none_iff]
    simp

theorem reasons_iff_of_merged (hf : fixes.head? = some f) (hm : merged fixes = some m) :
    (∀ r, r ∈ f.reasons ↔ r ∈ m.reasons) ↔ ∀ g ∈ fixes, g.reasons ⊆ f.reasons := by
  obtain ⟨rest, rfl⟩ : ∃ rest, fixes = f :: rest := List.head?_eq_some_iff.mp hf
  simp only [(merged_carries hm).2]
  constructor
  · exact fun heq g hg r hr => (heq r).mpr ⟨g, hg, hr⟩
  · intro hall r
    exact ⟨fun hr => ⟨f, List.mem_cons_self, hr⟩, fun ⟨g, hg, hr⟩ => hall g hg hr⟩

end Fix

/-- All that a snapshot's diagnostics suggest of one fix. -/
def Snapshot.suggestions (s : Snapshot) (k : FixKey) : List Fix :=
  Fix.suggestions k (s.diagnostics.flatMap (·.fixes))

theorem Snapshot.find?_fixes (s : Snapshot) (k : FixKey) :
    Keyed.find? Fix.key k s.fixes = (s.suggestions k).head? := by
  rw [fixes, Diagnostic.fixesOf, Keyed.find?_distinct, suggestions, Fix.head?_suggestions]

theorem Snapshot.nodup_fixes (s : Snapshot) : (s.fixes.map Fix.key).Nodup :=
  Keyed.nodup_keys_union List.nodup_nil

namespace ProgramIndex
variable (x : ProgramIndex) {k : FixKey}

/-- The fixes that stand for a parameter fix in the overriding methods. -/
def overridingKeys (f : Fix) : List FixKey :=
  if f.location.kind = .parameter then (x.overriding f.location).map fun l => (f.relocate l).key
  else []

theorem find?_linked (s : Snapshot) (f : Fix) : Keyed.find? Fix.key k (x.linked (some s.fixes) f) =
    if f.key = k then some f
    else if k ∈ x.overridingKeys f then (s.suggestions k).head? else none := by
  have hself : Keyed.find? Fix.key k [f] = if f.key = k then some f else none := by
    by_cases hf : f.key = k <;> simp [Keyed.find?, hf]
  unfold linked overridingKeys
  by_cases hkind : f.location.kind = .parameter
  · have hpicked := Keyed.find?_picked Fix.key k s.fixes.reverse
      ((x.overriding f.location).map f.relocate)
    -- the link searches from the last suggestion, but each fix is held only once
    rw [Keyed.find?_reverse s.nodup_fixes, s.find?_fixes, List.map_map] at hpicked
    rw [if_neg (not_not.mpr hkind), if_pos hkind]
    dsimp only
    rw [Keyed.find?_union, hpicked, hself]
    split <;> rfl
  · rw [if_pos hkind, if_neg hkind, hself, if_neg List.not_mem_nil]

theorem nodup_linked (suggested : Option (List Fix)) (f : Fix) :
    ((x.linked suggested f).map Fix.key).Nodup := by
  unfold linked
  split
  · exact List.nodup_singleton _
  · exact Keyed.nodup_keys_union (List.nodup_singleton _)

end ProgramIndex

/-- Of all that is suggested of a fix a snapshot holds what the first suggestion says, and this is
what an indexed program links to a fix that it overrides. Merged, the suggestions keep every reason,
and a patch if there is one. So a patch is lost exactly where the first suggestion has none and
another one has, and a reason where the first suggestion does not give it. -/
theorem first_suggestion_stands {ω : Type} (ctx : Context ω) (x : ProgramIndex)
    (lookup : RegionLookup) (s : Snapshot) (f : Fix) (k : FixKey) :
    (s.fixes.map Fix.key).Nodup ∧ Keyed.find? Fix.key k s.fixes = (s.suggestions k).head? ∧
    (((ctx.indexed x lookup true).link s f).map Fix.key).Nodup ∧
    Keyed.find? Fix.key k ((ctx.indexed x lookup true).link s f) =
      (if f.key = k then some f
        else if k ∈ x.overridingKeys f then (s.suggestions k).head? else none) ∧
    Keyed.find? Fix.key k (Fix.dedupe (s.diagnostics.flatMap (·.fixes))) =
      Fix.merged (s.suggestions k) ∧
    ∀ first all, (s.suggestions k).head? = some first → Fix.merged (s.suggestions k) = some all →
      all.patch = (s.suggestions k).findSome? Fix.patch ∧
      (∀ r, r ∈ all.reasons ↔ ∃ g ∈ s.suggestions k, r ∈ g.reasons) ∧
      (first.patch = all.patch ↔
        (first.patch = none → ∀ g ∈ s.suggestions k, g.patch = none)) ∧
      ((∀ r, r ∈ first.reasons ↔ r ∈ all.reasons) ↔
        ∀ g ∈ s.suggestions k, g.reasons ⊆ first.reasons) := by
  have hlink : (ctx.indexed x lookup true).link s f = x.linked (some s.fixes) f := rfl
  rw [hlink]
  refine ⟨s.nodup_fixes, s.find?_fixes k, x.nodup_linked _ f, x.find?_linked s f,
    Fix.find?_dedupe, fun first all hfirst hall => ?_⟩
  obtain ⟨hpatch, hreasons⟩ := Fix.merged_carries hall
  exact ⟨hpatch, hreasons, Fix.patch_eq_iff_of_merged hfirst hall,
    Fix.reasons_iff_of_merged hfirst hall⟩

/-- A method `put` of one parameter, and another that overrides it. -/
def overridden : ProgramIndex :=
  { ProgramIndex.empty with
    methods := [(⟨"m.Base", "put"⟩, ["value"]), (⟨"m.Sub", "put"⟩, ["value"])]
    bases := [("m.Base", []), ("m.Sub", ["Base"])] }

/-- The parameter of `put`, as it is suggested for one reason. -/
def putValue (typeName reason : String) (patch : Option Json) : Fix :=
  { location := ⟨⟨.parameter, typeName, "put", 0⟩, ""⟩, mark := "Nullable", reasons := [reason]
    origin := .target, patch }

/-- Two diagnostics that suggest one fix, the second with a patch. -/
def suggestedTwice : Snapshot :=
  ⟨[⟨"null", "stored", ⟨"m.Sub", "put"⟩, [putValue "m.Sub" "stored" none]⟩,
    ⟨"null", "passed", ⟨"m.Sub", "put"⟩, [putValue "m.Sub" "passed" (some (.text "diff"))]⟩]⟩

/-- A patch that some diagnostic suggests for an overriding method goes in with no fix. -/
theorem linked_without_patch :
    ∃ g ∈ overridden.linked (some suggestedTwice.fixes) (putValue "m.Base" "stored" none),
      g ∈ suggestedTwice.fixes ∧ g.key = (putValue "m.Sub" "" none).key ∧ g.patch = none ∧
        g.reasons = ["stored"] ∧
        ∃ d ∈ suggestedTwice.diagnostics, ∃ h ∈ d.fixes, h.key = g.key ∧
          h.patch = some (.text "diff") ∧ h.reasons = ["passed"] := by
  have hover : overridden.overriding (putValue "m.Base" "stored" none).location =
      [(putValue "m.Sub" "" none).location] := by
    decide +kernel
  have hlinked : overridden.linked (some suggestedTwice.fixes) (putValue "m.Base" "stored" none) =
      [putValue "m.Base" "stored" none, putValue "m.Sub" "stored" none] := by
    unfold ProgramIndex.linked
    rw [hover]
    rfl
  have hheld : suggestedTwice.fixes = [putValue "m.Sub" "stored" none] := rfl
  refine ⟨putValue "m.Sub" "stored" none, by rw [hlinked]; simp, by rw [hheld]; simp, rfl, rfl, rfl,
    ?_⟩
  exact ⟨_, List.mem_cons_of_mem _ List.mem_cons_self, _, List.mem_singleton_self _, rfl, rfl, rfl⟩

end FixTrial
