import FixTrial.Proofs.Exploration.Decomposed
import FixTrial.Proofs.Exploration.Estimated
import FixTrial.Proofs.Graph.Unrelated

/-!
What new diagnostics are attributed to. The lower bound of some fixes counts the diagnostics that one
of them alone resolves, the upper bound those that one of them is among the fixes of. So both grow with
the fixes, and the lower bounds of sets of fixes that have none in common add up. The candidates of one
batch are such sets, so that no diagnostic is counted below for two of them.
-/
namespace FixTrial

namespace Bounds
variable {news : List (Diagnostic × Int)} {p q r : Diagnostic → Bool} {fixes A B : List Fix}
  {d : Diagnostic}

/-- How often the diagnostics of a kind occur anew. -/
def total (p : Diagnostic → Bool) (news : List (Diagnostic × Int)) : Int :=
  ((news.filter fun e => p e.1).map (·.2)).sum

/-- A diagnostic that one of some fixes resolves, and nothing else does. -/
def settles (fixes : List Fix) (d : Diagnostic) : Bool :=
  match d.resolvingFix with
  | .ok f => Keyed.has Fix.key f.key fixes
  | .error _ => false

/-- A diagnostic that one of some fixes resolves. -/
def touches (fixes : List Fix) (d : Diagnostic) : Bool := Keyed.meets Fix.key d.fixes fixes

theorem total_cons (e : Diagnostic × Int) :
    total p (e :: news) = (if p e.1 then e.2 else 0) + total p news := by
  unfold total
  cases h : p e.1 <;> simp [h]

theorem total_mono (hnews : ∀ e ∈ news, 0 ≤ e.2) (h : ∀ d, p d = true → q d = true) :
    total p news ≤ total q news := by
  induction news with
  | nil => exact Int.le_refl _
  | cons e news ih =>
    obtain ⟨he, hnews⟩ := List.forall_mem_cons.mp hnews
    have hrest := ih hnews
    have hcase := h e.1
    rw [total_cons, total_cons]
    cases hp : p e.1 with
    | true =>
      rw [hcase hp]
      omega
    | false =>
      cases q e.1 <;> simp <;> omega

/-- Diagnostics of one of two kinds are counted once for each, less what is of both. -/
theorem total_or (p q : Diagnostic → Bool) (news : List (Diagnostic × Int)) :
    total (fun d => p d || q d) news + total (fun d => p d && q d) news =
      total p news + total q news := by
  induction news with
  | nil => rfl
  | cons e news ih =>
    simp only [total_cons]
    cases p e.1 <;> cases q e.1 <;> simp <;> omega

theorem total_nonneg (hnews : ∀ e ∈ news, 0 ≤ e.2) : 0 ≤ total p news := by
  have hnone : total (fun _ => false) news = 0 := by simp [total]
  rw [← hnone]
  exact total_mono hnews fun d h => absurd h Bool.false_ne_true

theorem settles_iff :
    settles fixes d = true ↔ ∃ f, d.resolvingFix = .ok f ∧ f.key ∈ Fix.keys fixes := by
  unfold settles
  cases d.resolvingFix <;> simp [Keyed.has_iff, Fix.mem_keys]

theorem touches_iff : touches fixes d = true ↔ ∃ f ∈ d.fixes, f.key ∈ Fix.keys fixes := by
  simp [touches, Keyed.meets, Keyed.has_iff, Fix.mem_keys]

/-- Only one fix resolves what is settled, and then that is one of `fixes`. -/
theorem settles_eq : settles fixes d = (touches fixes d && d.hasSingleFix) := by
  unfold settles touches Diagnostic.resolvingFix Diagnostic.hasSingleFix
  split
  next f hf =>
    split at hf
    · cases hf
      rename_i hfixes
      simp [hfixes, Keyed.meets]
    · cases hf
  next e hf =>
    split at hf
    · cases hf
    next hnot =>
      have hlength : d.fixes.length ≠ 1 := fun h => by
        obtain ⟨f, hf⟩ := List.length_eq_one_iff.mp h
        exact hnot f hf
      simp [hlength]

theorem ofDiagnostic_eq {n : Int} : ofDiagnostic fixes d n =
    ⟨if settles fixes d then n else 0, if touches fixes d then n else 0⟩ := by
  rw [settles_eq, touches, ofDiagnostic]
  cases Keyed.meets Fix.key d.fixes fixes <;> simp [zero]

/-- The bounds of some fixes, as the numbers of the diagnostics that are attributed to them. -/
theorem count_eq : count news fixes = ⟨total (settles fixes) news, total (touches fixes) news⟩ := by
  have hfoldl : ∀ b : Bounds, news.foldl (fun b e => b.add (ofDiagnostic fixes e.1 e.2)) b =
      ⟨b.lower + total (settles fixes) news, b.upper + total (touches fixes) news⟩ := by
    induction news with
    | nil => simp [total]
    | cons e news ih =>
      intro b
      rw [List.foldl_cons, ih, total_cons, total_cons, ofDiagnostic_eq, add]
      simp only [Int.add_assoc]
  have hcount : count news fixes = _ := hfoldl zero
  simpa [zero] using hcount

theorem touches_mono (h : Fix.keys A ⊆ Fix.keys B) (ht : touches A d = true) :
    touches B d = true := by
  obtain ⟨f, hf, hkey⟩ := touches_iff.mp ht
  exact touches_iff.mpr ⟨f, hf, h hkey⟩

theorem settles_mono (h : Fix.keys A ⊆ Fix.keys B) (hs : settles A d = true) :
    settles B d = true := by
  obtain ⟨f, hf, hkey⟩ := settles_iff.mp hs
  exact settles_iff.mpr ⟨f, hf, h hkey⟩

theorem settles_union {U : List Fix} (hU : Fix.keys U = Fix.keys A ∪ Fix.keys B) :
    settles U d = (settles A d || settles B d) := by
  rw [Bool.eq_iff_iff, Bool.or_eq_true, settles_iff, settles_iff, settles_iff, hU]
  simp only [Finset.mem_union, and_or_left, exists_or]

theorem touches_union {U : List Fix} (hU : Fix.keys U = Fix.keys A ∪ Fix.keys B) :
    touches U d = (touches A d || touches B d) := by
  rw [Bool.eq_iff_iff, Bool.or_eq_true, touches_iff, touches_iff, touches_iff, hU]
  simp only [Finset.mem_union, and_or_left, exists_or]

/-- Nothing is settled by two sets of fixes that have none in common. -/
theorem not_settles_both (h : Disjoint (Fix.keys A) (Fix.keys B)) :
    (settles A d && settles B d) = false := by
  rw [Bool.and_eq_false_iff]
  by_contra hboth
  simp only [not_or, Bool.not_eq_false] at hboth
  obtain ⟨f, hf, hA⟩ := settles_iff.mp hboth.1
  obtain ⟨f', hf', hB⟩ := settles_iff.mp hboth.2
  cases hf.symm.trans hf'
  exact Finset.disjoint_left.mp h hA hB

theorem total_settles_union {U : List Fix} (hU : Fix.keys U = Fix.keys A ∪ Fix.keys B)
    (h : Disjoint (Fix.keys A) (Fix.keys B)) :
    total (settles U) news = total (settles A) news + total (settles B) news := by
  have hor := total_or (settles A) (settles B) news
  have hunion : settles U = fun d => settles A d || settles B d := funext fun _ => settles_union hU
  have hnone : total (fun d => settles A d && settles B d) news = 0 := by
    simp [total, not_settles_both h]
  rw [hnone] at hor
  rw [hunion]
  omega

/-- At least as much is touched by a union as by each part, and at most as much as by both. -/
theorem total_touches_union (hnews : ∀ e ∈ news, 0 ≤ e.2) {U : List Fix}
    (hU : Fix.keys U = Fix.keys A ∪ Fix.keys B) :
    max (total (touches A) news) (total (touches B) news) ≤ total (touches U) news ∧
      total (touches U) news ≤ total (touches A) news + total (touches B) news := by
  have hA : total (touches A) news ≤ total (touches U) news :=
    total_mono hnews fun _ => touches_mono (hU ▸ Finset.subset_union_left)
  have hB : total (touches B) news ≤ total (touches U) news :=
    total_mono hnews fun _ => touches_mono (hU ▸ Finset.subset_union_right)
  refine ⟨max_le hA hB, ?_⟩
  have hor := total_or (touches A) (touches B) news
  have hunion : touches U = fun d => touches A d || touches B d := funext fun _ => touches_union hU
  have hboth : 0 ≤ total (fun d => touches A d && touches B d) news := total_nonneg hnews
  rw [hunion]
  omega

/-- Of sets of fixes that have none in common, each settles diagnostics of its own. -/
theorem sum_settles_le (hnews : ∀ e ∈ news, 0 ≤ e.2) {families : List (List Fix)}
    (h : families.Pairwise fun A B => Disjoint (Fix.keys A) (Fix.keys B)) :
    (families.map fun A => total (settles A) news).sum ≤ total Diagnostic.hasSingleFix news := by
  -- the sets settle together what their union does
  have hsum : (families.map fun A => total (settles A) news).sum =
      total (settles families.flatten) news := by
    induction families with
    | nil =>
      have hnone : ∀ d, settles [] d = false := fun d => by
        simp [settles_eq, touches, Keyed.meets, Keyed.has]
      simp [total, hnone]
    | cons A rest ih =>
      obtain ⟨hA, hrest⟩ := List.pairwise_cons.mp h
      have hdisjoint : Disjoint (Fix.keys A) (Fix.keys rest.flatten) := by
        rw [Finset.disjoint_left]
        intro k hk hrest
        rw [Fix.mem_keys, List.map_flatten, List.mem_flatten] at hrest
        obtain ⟨ks, hks, hmem⟩ := hrest
        obtain ⟨B, hB, rfl⟩ := List.mem_map.mp hks
        exact Finset.disjoint_left.mp (hA B hB) hk (Fix.mem_keys.mpr hmem)
      rw [List.map_cons, List.sum_cons, ih hrest, List.flatten_cons]
      exact (total_settles_union Fix.keys_append hdisjoint).symm
  rw [hsum]
  refine total_mono hnews fun d hd => ?_
  rw [settles_eq, Bool.and_eq_true] at hd
  exact hd.2

end Bounds

namespace Graph
variable {g h : Graph} {group : List Nat} {source : RegionSource}

/-- Two nodes of one group have no fix in common, if each fix impacts its own region. -/
theorem disjoint_fixes_of_mem_partition (hg : g.Arena)
    (hown : ∀ l : Location, l.region ∈ (source l).getD [])
    (hgroup : group ∈ (g.updateRegions source).partition) :
    ((g.updateRegions source).members group).Pairwise fun a b =>
      Disjoint (Fix.keys a.fixes) (Fix.keys b.fixes) := by
  have hregion : ∀ n ∈ (g.updateRegions source).members group, ∀ f ∈ n.fixes,
      f.location.region ∈ n.regions := by
    intro n hn f hf
    obtain ⟨i, -, hi⟩ := mem_members.mp hn
    rw [regions_of_updateRegions (List.mem_of_getElem? hi)]
    exact RegionSource.mem_ofFixes.mpr ⟨f, hf, hown f.location⟩
  refine (disjoint_of_mem_partition hg hgroup).1.imp_of_mem fun {a b} ha hb hapart => ?_
  rw [Finset.disjoint_left]
  intro k hka hkb
  obtain ⟨f, hf, rfl⟩ := List.mem_map.mp (Fix.mem_keys.mp hka)
  obtain ⟨f', hf', hkey⟩ := List.mem_map.mp (Fix.mem_keys.mp hkb)
  have hplace : f'.location.toPlace = f.location.toPlace := congrArg FixKey.place hkey
  have hsame : f'.location.region = f.location.region :=
    congrArg (fun p : Place => (⟨p, ""⟩ : Location).region) hplace
  exact hapart (hregion a ha f hf) (hsame ▸ hregion b hb f' hf')

end Graph

namespace Exploration
open FixTrial.Graph
variable {ω : Type} {ctx : Context ω} {g h : Graph} {source : RegionSource}
  {cands : List Candidate} {baseline : Snapshot} {ds : List Diagnostic}

/-- The candidates of one batch have no fix in common. -/
theorem disjoint_linked_of_candidates (hg : g.Arena)
    (hown : ∀ l : Location, l.region ∈ (source l).getD [])
    (hb : h.bare = (prepared source g).bare) (hc : cands ∈ candidates h) :
    cands.Pairwise fun c c' => Disjoint (Fix.keys c.linked) (Fix.keys c'.linked) := by
  obtain ⟨hmap, -⟩ := List.mem_filter.mp hc
  obtain ⟨group, hgroup, rfl⟩ := List.mem_map.mp hmap
  have hgroups : h.groups = (g.updateRegions source).partition := congrArg Graph.groups hb
  have hfixes : ((h.members group).map (·.fixes)).Pairwise fun A B =>
      Disjoint (Fix.keys A) (Fix.keys B) := by
    rw [map_fixes_of_bare_eq hb]
    exact List.pairwise_map.mpr (disjoint_fixes_of_mem_partition hg hown (hgroups ▸ hgroup))
  exact List.pairwise_map.mpr ((List.pairwise_map.mp hfixes).sublist List.filter_sublist)

/-- What a build adds to the lower bounds of candidates that have no fix in common is at most what it
reports anew with a single fix. -/
theorem sum_contribution_le
    (h : cands.Pairwise fun c c' => Disjoint (Fix.keys c.linked) (Fix.keys c'.linked)) :
    ((Estimate.contribution baseline cands ds).map (·.2.lower)).sum ≤
      Bounds.total Diagnostic.hasSingleFix (Estimate.news baseline ds) := by
  have hlower : (Estimate.contribution baseline cands ds).map (·.2.lower) =
      (cands.map (·.linked)).map fun A =>
        Bounds.total (Bounds.settles A) (Estimate.news baseline ds) := by
    rw [Estimate.contribution, List.map_map, List.map_map]
    exact List.map_congr_left fun c _ => congrArg Bounds.lower Bounds.count_eq
  rw [hlower]
  exact Bounds.sum_settles_le (Estimate.news_nonneg baseline ds) (List.pairwise_map.mpr h)

/-- However often new diagnostics occur, and whichever fixes resolve them: both bounds grow with the
fixes that they are for. For sets that have no fix in common the lower bounds add up, to no more than
the diagnostics with a single fix, and the upper bound of a union is between those of its parts and
their sum. The candidates of a batch are such sets wherever each place impacts its own region, so
that no diagnostic counts for the lower bounds of two of them. -/
theorem bounds_attributed {news : List (Diagnostic × Int)} (hnews : ∀ e ∈ news, 0 ≤ e.2) :
    (∀ A B : List Fix, Fix.keys A ⊆ Fix.keys B →
      (Bounds.count news A).lower ≤ (Bounds.count news B).lower ∧
      (Bounds.count news A).upper ≤ (Bounds.count news B).upper) ∧
    (∀ A B : List Fix, Disjoint (Fix.keys A) (Fix.keys B) →
      (Bounds.count news (Keyed.union Fix.key A B)).lower =
        (Bounds.count news A).lower + (Bounds.count news B).lower ∧
      max (Bounds.count news A).upper (Bounds.count news B).upper ≤
        (Bounds.count news (Keyed.union Fix.key A B)).upper ∧
      (Bounds.count news (Keyed.union Fix.key A B)).upper ≤
        (Bounds.count news A).upper + (Bounds.count news B).upper) ∧
    (∀ families : List (List Fix),
      families.Pairwise (fun A B => Disjoint (Fix.keys A) (Fix.keys B)) →
      (families.map fun A => (Bounds.count news A).lower).sum ≤
        Bounds.total Diagnostic.hasSingleFix news) ∧
    ∀ (ω : Type) (ctx : Context ω) (g h : Graph) (depth : Nat) (t t' : Trial ω),
      (∀ l : Location, l.region ∈ (ctx.regions l).getD []) → g.Built →
      pass ctx g depth t = .ok h t' → ∀ cands ∈ candidates h,
        (cands.Pairwise fun c c' => ∀ d n, (Bounds.ofDiagnostic c.linked d n).lower = 0 ∨
          (Bounds.ofDiagnostic c'.linked d n).lower = 0) ∧
        ∀ baseline ds, ((Estimate.contribution baseline cands ds).map (·.2.lower)).sum ≤
          Bounds.total Diagnostic.hasSingleFix (Estimate.news baseline ds) := by
  simp only [Bounds.count_eq]
  refine ⟨fun A B hsub => ⟨?_, ?_⟩, fun A B hdisjoint => ⟨?_, ?_⟩, fun families hfamilies => ?_,
    fun ω ctx g h depth t t' hown hg hp cands hc => ?_⟩
  · exact Bounds.total_mono hnews fun _ => Bounds.settles_mono hsub
  · exact Bounds.total_mono hnews fun _ => Bounds.touches_mono hsub
  · exact Bounds.total_settles_union Fix.keys_union hdisjoint
  · exact Bounds.total_touches_union hnews Fix.keys_union
  · exact Bounds.sum_settles_le hnews hfamilies
  · have hb : h.bare = (prepared ctx.regions g).bare :=
      (told_of_alike ((twins_quiet t).pass (arena_of_built hg) allows_all depth) hp).1
    have hdisjoint := disjoint_linked_of_candidates (arena_of_built hg) hown hb hc
    refine ⟨hdisjoint.imp fun {c c'} hapart d n => ?_, fun _ _ => sum_contribution_le hdisjoint⟩
    rw [Bounds.ofDiagnostic_eq, Bounds.ofDiagnostic_eq]
    rcases Bool.and_eq_false_iff.mp (Bounds.not_settles_both (d := d) hapart) with hnot | hnot
    · exact .inl (by simp [hnot])
    · exact .inr (by simp [hnot])

/-- A diagnostic of one fix, one of that fix or another, and one of a third fix, several times. -/
def attributions : List (Diagnostic × Int) :=
  [(⟨"null", "p", .ofType "A", [.ofField "A" "x"]⟩, 2),
    (⟨"null", "q", .ofType "A", [.ofField "A" "x", .ofField "A" "y"]⟩, 1),
    (⟨"null", "r", .ofType "B", [.ofField "B" "z"]⟩, 3)]

/-- The diagnostic of two fixes is below neither of them, and above both. -/
theorem bounds_attributed_shared :
    [[.ofField "A" "x"], [.ofField "A" "y", .ofField "B" "z"],
        [.ofField "A" "x", .ofField "A" "y", .ofField "B" "z"]].map (Bounds.count attributions) =
      [⟨2, 3⟩, ⟨3, 4⟩, ⟨5, 6⟩] ∧
    (Bounds.count attributions [.ofField "A" "x"]).lower +
        (Bounds.count attributions [.ofField "A" "y", .ofField "B" "z"]).lower ≤
      Bounds.total Diagnostic.hasSingleFix attributions ∧
    (Bounds.count attributions [.ofField "A" "x"]).upper ≤
      (Bounds.count attributions [.ofField "A" "y", .ofField "A" "x"]).upper ∧
    (Bounds.count attributions (Keyed.union Fix.key [.ofField "A" "x"]
        [.ofField "A" "y", .ofField "B" "z"])).lower = 5 ∧
    ∃ h t', pass relied threeFields 0 (Trial.start []) = .ok h t' ∧
      (candidates h).map (·.map (·.root.key)) =
        [[(Fix.ofField "A" "x").key, (Fix.ofField "B" "z").key], [(Fix.ofField "A" "y").key]] ∧
      ∀ cands ∈ candidates h, ∀ baseline ds,
        ((Estimate.contribution baseline cands ds).map (·.2.lower)).sum ≤
          Bounds.total Diagnostic.hasSingleFix (Estimate.news baseline ds) := by
  have hnews : ∀ e ∈ attributions, 0 ≤ e.2 := by decide
  obtain ⟨hmono, hunion, hfamilies, hbatch⟩ := bounds_attributed hnews
  refine ⟨by decide, ?_, (hmono _ _ (by decide)).2, ?_, ?_⟩
  · simpa using hfamilies [[.ofField "A" "x"], [.ofField "A" "y", .ofField "B" "z"]] (by decide)
  · rw [(hunion _ _ (by decide)).1]
    decide
  · have hroots : (match pass relied threeFields 0 (Trial.start []) with
        | .ok h _ => (candidates h).map (·.map (·.root.key))
        | .error _ _ => []) =
          [[(Fix.ofField "A" "x").key, (Fix.ofField "B" "z").key], [(Fix.ofField "A" "y").key]] := by
      decide +kernel
    cases hp : pass relied threeFields 0 (Trial.start []) with
    | error e t' => simp [hp] at hroots
    | ok h t' =>
      rw [hp] at hroots
      refine ⟨h, t', rfl, hroots, fun cands hc => ?_⟩
      exact (hbatch _ relied threeFields h 0 _ t' (fun l => List.mem_singleton_self l.region)
        built_threeFields hp cands hc).2

end Exploration
end FixTrial
