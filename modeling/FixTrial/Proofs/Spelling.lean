import FixTrial.Proofs.RegionLookup
import Mathlib.Data.List.TakeWhile

/-!
Members spelled with a signature or without. Both spellings are declared alike, and have the same
callers and the same override family. But the regions that the member and its family are in bear the
spelling: a lookup finds them under the spelling that it was asked for, and what is known of them
under the other one it does not find.
-/
namespace FixTrial

/-- Two places of one method, or of one parameter of it. Each may be spelled with a signature. -/
structure Place.SameMember (p q : Place) : Prop where
  callable : p.kind ≠ .field
  kind : p.kind = q.kind
  typeName : p.typeName = q.typeName
  name : p.callableName = q.callableName
  index : p.index = q.index

namespace Place
variable {p q : Place}

theorem SameMember.symm (h : p.SameMember q) : q.SameMember p :=
  ⟨h.kind ▸ h.callable, h.kind.symm, h.typeName.symm, h.name.symm, h.index.symm⟩

/-- The same member of another type. -/
theorem SameMember.inType (h : p.SameMember q) (t : String) :
    { p with typeName := t }.SameMember { q with typeName := t } :=
  ⟨h.callable, h.kind, rfl, h.name, h.index⟩

theorem SameMember.eq_of_member (h : p.SameMember q) (hm : p.member = q.member) : p = q := by
  obtain ⟨kind, typeName, member, index⟩ := p
  obtain ⟨kind', typeName', member', index'⟩ := q
  obtain ⟨-, rfl, rfl, -, rfl⟩ := h
  obtain rfl : member = member' := hm
  rfl

theorem region_of_callable (h : p.kind ≠ .field) : p.region = ⟨p.typeName, p.member⟩ := by
  unfold region
  split
  next hfield => exact absurd hfield h
  next => rfl

/-- The member is spelled with a signature. -/
def Signed (member : String) : Prop := '(' ∈ member.toList

instance (member : String) : Decidable (Signed member) :=
  inferInstanceAs (Decidable ('(' ∈ member.toList))

theorem callableName_of_not_signed (h : ¬ Signed p.member) : p.callableName = p.member := by
  have hall : p.member.toList.takeWhile (· != '(') = p.member.toList := by
    rw [List.takeWhile_eq_self_iff]
    intro c hc
    rw [bne_iff_ne]
    rintro rfl
    exact h hc
  rw [callableName, hall, String.ofList_toList]

/-- Of two spellings one has a signature. -/
theorem SameMember.signed (h : p.SameMember q) (hne : p.member ≠ q.member) :
    Signed p.member ∨ Signed q.member := by
  by_contra hplain
  rw [not_or] at hplain
  refine hne ?_
  rw [← callableName_of_not_signed hplain.1, h.name, callableName_of_not_signed hplain.2]

end Place

namespace ProgramIndex
variable {x : ProgramIndex} {l m : Location} {p q : Place} {t : String} {a b r : Region} {n : Nat}
  {rs : List Region}

theorem declares_congr (h : p.SameMember q) : x.declares p = x.declares q := by
  obtain ⟨kind, typeName, member, index⟩ := p
  obtain ⟨kind', typeName', member', index'⟩ := q
  obtain ⟨hcallable, rfl, rfl, hname, rfl⟩ := h
  cases kind with
  | field => exact absurd rfl hcallable
  | method => simp only [declares, hname]
  | parameter => simp only [declares, hname]

/-- A type in which a lookup of `l` is after the member: its own, or that of a member of its
family. -/
def Bears (x : ProgramIndex) (l : Location) (t : String) : Prop :=
  t = l.typeName ∨ x.declares l.toPlace = true ∧ ∃ m ∈ x.family l, m.typeName = t

theorem exists_mem_family : (∃ m ∈ x.family l, m.typeName = t) ↔
    l.kind ≠ .field ∧ (t ∈ x.subtypes l.typeName ∨ t ∈ x.supertypes l.typeName) ∧
      x.declares { l.toPlace with typeName := t } = true := by
  constructor
  · rintro ⟨m, hm, rfl⟩
    obtain ⟨hkind, ⟨t, ht, rfl⟩, hdeclared⟩ := mem_family.mp hm
    exact ⟨hkind, ht, hdeclared⟩
  · rintro ⟨hkind, ht, hdeclared⟩
    exact ⟨x.counterpart l t, mem_family.mpr ⟨hkind, ⟨t, ht, rfl⟩, hdeclared⟩, rfl⟩

theorem bears_congr (h : l.toPlace.SameMember m.toPlace) : x.Bears l t ↔ x.Bears m t := by
  unfold Bears
  rw [exists_mem_family, exists_mem_family, declares_congr h, declares_congr (h.inType t), h.kind,
    h.typeName]

theorem region_of_mem_family (h : m ∈ x.family l) : m.region = ⟨m.typeName, l.member⟩ := by
  obtain ⟨hkind, ⟨t, -, rfl⟩, -⟩ := mem_family.mp h
  exact Place.region_of_callable hkind

/-- The region of a member that generated code provides, and one that calls it. -/
def Serves (x : ProgramIndex) (a r : Region) : Prop :=
  (⟨a.typeName, a.member⟩, []) ∈ x.methods ∧ x.isType a.typeName = true ∧ a.member ≠ "" ∧
    r ∈ x.callers a.member

/-- From one region to another in at most so many steps, each to a caller of generated code. -/
inductive Leads (x : ProgramIndex) : Nat → Region → Region → Prop
  | refl (n : Nat) (r : Region) : Leads x n r r
  | step {n : Nat} {a b r : Region} (h : x.Serves a b) (hr : Leads x n b r) : Leads x (n + 1) a r

theorem Leads.succ (h : x.Leads n a r) : x.Leads (n + 1) a r := by
  induction h with
  | refl n r => exact .refl (n + 1) r
  | step h _ ih => exact .step h ih

theorem leads_zero : x.Leads 0 a r ↔ r = a := by
  constructor
  · rintro ⟨⟩
    rfl
  · rintro rfl
    exact .refl 0 r

theorem leads_succ : x.Leads (n + 1) a r ↔ x.Leads n a r ∨ ∃ b, x.Serves a b ∧ x.Leads n b r := by
  constructor
  · intro h
    cases h with
    | refl => exact .inl (.refl n _)
    | step h hr => exact .inr ⟨_, h, hr⟩
  · rintro (h | ⟨b, h, hr⟩)
    · exact h.succ
    · exact .step h hr

/-- Whatever is come to is called from there. -/
theorem Leads.eq_or_called (h : x.Leads n a r) : r = a ∨ ∃ name, r ∈ x.callers name := by
  induction h with
  | refl => exact .inl rfl
  | step h _ ih =>
    rcases ih with rfl | hcalled
    · exact .inr ⟨_, h.2.2.2⟩
    · exact .inr hcalled

/-- No call is recorded in a region with a signature. -/
def Plain (x : ProgramIndex) : Prop := ∀ name, ∀ r ∈ x.callers name, ¬ Place.Signed r.member

end ProgramIndex

open ProgramIndex

namespace Accessors
variable {x : ProgramIndex} {a r : Region} {name : String} {rs found : List Region}

theorem mem_ofIndex : (a, name) ∈ ofIndex x ↔
    name = a.member ∧ (⟨a.typeName, a.member⟩, []) ∈ x.methods ∧ x.isType a.typeName = true := by
  obtain ⟨typeName, member⟩ := a
  simp only [ofIndex, List.mem_map, List.mem_filter, Bool.and_eq_true, List.isEmpty_iff,
    Prod.mk.injEq, Region.mk.injEq]
  constructor
  · rintro ⟨⟨⟨t, n⟩, ps⟩, ⟨hmem, htype, rfl⟩, ⟨rfl, rfl⟩, rfl⟩
    exact ⟨rfl, hmem, htype⟩
  · rintro ⟨rfl, hmem, htype⟩
    exact ⟨_, ⟨hmem, htype, rfl⟩, ⟨rfl, rfl⟩, rfl⟩

theorem lookup_ofIndex : (ofIndex x).lookup a = some name ↔ (a, name) ∈ ofIndex x := by
  constructor
  · intro h
    obtain ⟨before, after, hlist, -⟩ := List.lookup_eq_some_iff.mp h
    rw [hlist]
    exact List.mem_append_right before List.mem_cons_self
  · intro h
    -- an accessor is called by the name of its region, so that its first entry says the same
    cases hl : (ofIndex x).lookup a with
    | none =>
      have hnone := List.lookup_eq_none_iff.mp hl (a, name) h
      simp at hnone
    | some other =>
      obtain ⟨before, after, hlist, -⟩ := List.lookup_eq_some_iff.mp hl
      have hother : (a, other) ∈ ofIndex x := by
        rw [hlist]
        exact List.mem_append_right before List.mem_cons_self
      rw [(mem_ofIndex.mp h).1, (mem_ofIndex.mp hother).1]

theorem mem_extend_one : r ∈ (match (ofIndex x).lookup a with
    | some name => if name.isEmpty then found else Keyed.union id found (x.callers name)
    | none => found) ↔ r ∈ found ∨ x.Serves a r := by
  have hserves : x.Serves a r ↔
      (ofIndex x).lookup a = some a.member ∧ a.member ≠ "" ∧ r ∈ x.callers a.member := by
    rw [lookup_ofIndex, mem_ofIndex, Serves]
    tauto
  rw [hserves]
  cases hl : (ofIndex x).lookup a with
  | none => simp
  | some name =>
    obtain ⟨rfl, -⟩ := mem_ofIndex.mp (lookup_ofIndex.mp hl)
    by_cases hempty : a.member = ""
    · simp [hempty]
    · simp [hempty, Keyed.mem_union]

theorem mem_extend_onto : r ∈ rs.foldl (fun found a =>
    match (ofIndex x).lookup a with
    | some name => if name.isEmpty then found else Keyed.union id found (x.callers name)
    | none => found) found ↔ r ∈ found ∨ ∃ a ∈ rs, x.Serves a r := by
  induction rs generalizing found with
  | nil => simp
  | cons a rest ih => rw [List.foldl_cons, ih, mem_extend_one, or_assoc, List.exists_mem_cons_iff]

/-- An extension adds what generated code serves. -/
theorem mem_extend : r ∈ (ofIndex x).extend x rs ↔ ∃ a ∈ rs, x.Serves a r :=
  mem_extend_onto.trans (or_iff_right List.not_mem_nil)

end Accessors

namespace RegionLookup
variable {x : ProgramIndex} {detectors : List String} {lookup : RegionLookup} {l m : Location}
  {a r : Region} {found : List Region} {n : Nat}

theorem extensions_of_mapM {extensions : List (List Region → List Region)}
    (h : detectors.mapM (detector x) = .ok extensions) :
    extensions = List.replicate detectors.length ((Accessors.ofIndex x).extend x) := by
  induction detectors generalizing extensions with
  | nil =>
    cases h
    rfl
  | cons name rest ih =>
    rw [List.mapM_cons] at h
    obtain ⟨extend, hname, h⟩ := bind_eq_ok_iff.mp h
    obtain ⟨others, hrest, h⟩ := bind_eq_ok_iff.mp h
    cases h
    have hextend : (Accessors.ofIndex x).extend x = extend := by
      unfold detector at hname
      split at hname
      next => exact Except.ok.inj hname
      next => cases hname
    rw [ih hrest, ← hextend]
    rfl

/-- Only the accessors can be detected. -/
theorem extensions_of_build {table : Option RegionTable}
    (hb : build x table detectors = .ok lookup) : lookup.extensions =
      List.replicate detectors.length ((Accessors.ofIndex x).extend x) := by
  unfold build at hb
  obtain ⟨extensions, hextensions, hb⟩ := bind_eq_ok_iff.mp hb
  cases hb
  exact extensions_of_mapM hextensions

/-- Each time that the accessors are taken into account leads one step on. -/
theorem mem_extended : r ∈ (List.replicate n ((Accessors.ofIndex x).extend x)).foldl
    (fun rs extend => Keyed.union id rs (extend rs)) found ↔ ∃ a ∈ found, x.Leads n a r := by
  induction n generalizing found with
  | zero => simp [leads_zero]
  | succ n ih =>
    rw [List.replicate_succ, List.foldl_cons, ih]
    simp only [Keyed.mem_union, Accessors.mem_extend, leads_succ]
    constructor
    · rintro ⟨b, hb | ⟨a, ha, hserves⟩, hleads⟩
      · exact ⟨b, hb, .inl hleads⟩
      · exact ⟨a, ha, .inr ⟨b, hserves, hleads⟩⟩
    · rintro ⟨a, ha, hleads | ⟨b, hserves, hleads⟩⟩
      · exact ⟨a, .inl ha, hleads⟩
      · exact ⟨b, .inr ⟨a, ha, hserves⟩, hleads⟩

theorem mem_ofIndex (hkind : l.kind ≠ .field) : r ∈ (RegionSource.ofIndex x l).getD [] ↔
    x.declares l.toPlace = true ∧ (r ∈ x.callers l.callableName ∨ ∃ m ∈ x.family l, m.region = r) := by
  unfold RegionSource.ofIndex
  cases hdeclared : x.declares l.toPlace with
  | false => simp
  | true => simp [hkind, Keyed.mem_union]

variable (hb : build x none detectors = .ok lookup)
include hb

theorem mem_regions : r ∈ lookup.regions l ↔
    ∃ a, (a = l.region ∨ a ∈ (RegionSource.ofIndex x l).getD []) ∧
      x.Leads detectors.length a r := by
  unfold regions
  rw [extensions_of_build hb, mem_extended, sources_of_build hb]
  simp [RegionSource.own, Keyed.mem_union]

/-- The regions that a member impacts: its callers, the namesakes of the member in its own type and
in those of its family, and what generated code leads to from there. -/
theorem mem_regions_of_callable (hkind : l.kind ≠ .field) : r ∈ lookup.regions l ↔
    (x.declares l.toPlace = true ∧
      ∃ a ∈ x.callers l.callableName, x.Leads detectors.length a r) ∨
    ∃ t, x.Bears l t ∧ x.Leads detectors.length ⟨t, l.member⟩ r := by
  rw [mem_regions hb]
  simp only [mem_ofIndex hkind, Bears]
  constructor
  · rintro ⟨a, rfl | ⟨hdeclared, hcalls | ⟨m, hm, rfl⟩⟩, hleads⟩
    · rw [Place.region_of_callable hkind] at hleads
      exact .inr ⟨_, .inl rfl, hleads⟩
    · exact .inl ⟨hdeclared, a, hcalls, hleads⟩
    · rw [region_of_mem_family hm] at hleads
      exact .inr ⟨_, .inr ⟨hdeclared, m, hm, rfl⟩, hleads⟩
  · rintro (⟨hdeclared, a, hcalls, hleads⟩ | ⟨t, rfl | ⟨hdeclared, m, hm, rfl⟩, hleads⟩)
    · exact ⟨a, .inr ⟨hdeclared, .inl hcalls⟩, hleads⟩
    · exact ⟨_, .inl rfl, by rwa [Place.region_of_callable hkind]⟩
    · exact ⟨_, .inr ⟨hdeclared, .inr ⟨m, hm, rfl⟩⟩, by rwa [region_of_mem_family hm]⟩

/-- A region with a signature is found only under the spelling that it bears. -/
theorem member_of_signed (hx : x.Plain) (hkind : l.kind ≠ .field) (hr : r ∈ lookup.regions l)
    (hsigned : Place.Signed r.member) : r.member = l.member := by
  have hcalled : ¬ ∃ name, r ∈ x.callers name := fun ⟨name, h⟩ => hx name r h hsigned
  rcases (mem_regions_of_callable hb hkind).mp hr with ⟨-, a, ha, hleads⟩ | ⟨t, -, hleads⟩
  · rcases hleads.eq_or_called with rfl | h
    · exact absurd ⟨_, ha⟩ hcalled
    · exact absurd h hcalled
  · rcases hleads.eq_or_called with rfl | h
    · rfl
    · exact absurd h hcalled

/-- Two spellings of a member are declared alike, have the same callers, and bear on the same types.
A lookup finds the callers for both, but the member itself and its family only as they are spelled.
So where calls are recorded without signatures, as they are in source, two spellings impact the same
regions exactly if they are one. -/
theorem regions_of_spellings (h : l.toPlace.SameMember m.toPlace) :
    x.declares l.toPlace = x.declares m.toPlace ∧ (∀ t, x.Bears l t ↔ x.Bears m t) ∧
    (∀ spelled : Location, spelled = l ∨ spelled = m → ∀ r, r ∈ lookup.regions spelled ↔
      (x.declares l.toPlace = true ∧
        ∃ a ∈ x.callers l.callableName, x.Leads detectors.length a r) ∨
      ∃ t, x.Bears l t ∧ x.Leads detectors.length ⟨t, spelled.member⟩ r) ∧
    (x.Plain →
      ((∀ r, r ∈ lookup.regions l ↔ r ∈ lookup.regions m) ↔ l.member = m.member)) := by
  refine ⟨declares_congr h, fun t => bears_congr h, ?_, fun hx => ⟨fun hsame => ?_, fun hm r => ?_⟩⟩
  · rintro spelled (rfl | rfl) r
    · exact mem_regions_of_callable hb h.callable
    · rw [mem_regions_of_callable hb h.symm.callable, declares_congr h, h.name]
      simp only [bears_congr h]
  · by_contra hne
    rcases h.signed hne with hl | hm
    · have hown : l.region ∈ lookup.regions m := (hsame _).mp (own_mem_regions hb l)
      rw [Place.region_of_callable h.callable] at hown
      exact hne (member_of_signed hb hx h.symm.callable hown hl)
    · have hown : m.region ∈ lookup.regions l := (hsame _).mpr (own_mem_regions hb m)
      rw [Place.region_of_callable h.symm.callable] at hown
      exact hne (member_of_signed hb hx h.callable hown hm).symm
  · rw [regions_congr hb (h.eq_of_member hm)]

omit hb

/-- A class of two methods, one of which calls the other. -/
def scaled : ProgramIndex :=
  { ProgramIndex.empty with
    methods := [(⟨"m.T", "area"⟩, ["scale"]), (⟨"m.T", "side"⟩, [])]
    bases := [("m.T", [])]
    calls := [("side", [⟨"m.T", "area"⟩])] }

def scaledLookup : RegionLookup :=
  ⟨[.own, .ofIndex scaled], [(Accessors.ofIndex scaled).extend scaled]⟩

/-- The annotation of a method of the class. -/
def scaledMethod (member : String) : Fix :=
  { location := ⟨⟨.method, "m.T", member, -1⟩, "m.py"⟩, mark := "Nullable", reasons := []
    origin := .target, patch := none }

theorem sameMember_scaled : (scaledMethod "area").location.toPlace.SameMember
    (scaledMethod "area(scale)").location.toPlace :=
  ⟨by decide, rfl, rfl, by decide +kernel, rfl⟩

theorem plain_scaled : scaled.Plain := by
  intro name r hr
  have hcaller : r = ⟨"m.T", "area"⟩ := by
    change r ∈ (List.lookup name [("side", [(⟨"m.T", "area"⟩ : Region)])]).getD [] at hr
    rw [List.lookup_cons] at hr
    split at hr
    next => exact List.mem_singleton.mp hr
    next => cases hr
  rw [hcaller]
  decide +kernel

/-- The method that calls the other one impacts different regions once it is spelled out, although
it is declared all the same. -/
theorem regions_of_spellings_scaled :
    build scaled none ["accessors"] = .ok scaledLookup ∧
    scaled.declares (scaledMethod "area").location.toPlace = true ∧
    scaled.declares (scaledMethod "area(scale)").location.toPlace = true ∧
    ¬ ∀ r, r ∈ scaledLookup.regions (scaledMethod "area").location ↔
      r ∈ scaledLookup.regions (scaledMethod "area(scale)").location := by
  have hbuild : build scaled none ["accessors"] = .ok scaledLookup := rfl
  obtain ⟨hdeclared, -, -, hspelled⟩ := regions_of_spellings hbuild sameMember_scaled
  have hplain : scaled.declares (scaledMethod "area").location.toPlace = true := by decide +kernel
  exact ⟨hbuild, hplain, hdeclared ▸ hplain, (hspelled plain_scaled).not.mpr (by decide)⟩

/-- The two methods as candidates, the first of them as it is spelled. -/
def scaledGraph (member : String) : Graph :=
  ((Graph.empty.insert (scaledMethod member) []).1.insert (scaledMethod "side") []).1.updateRegions
    scaledLookup.source

/-- A method whose result another one uses conflicts with that, but not if that is spelled out. -/
theorem signature_hides_conflict :
    build scaled none ["accessors"] = .ok scaledLookup ∧
    (scaledMethod "area").location.toPlace.SameMember
      (scaledMethod "area(scale)").location.toPlace ∧
    ⟨"m.T", "area"⟩ ∈ scaledLookup.regions (scaledMethod "area").location ∧
    ⟨"m.T", "area"⟩ ∉ scaledLookup.regions (scaledMethod "area(scale)").location ∧
    (scaledGraph "area").nodes.map (·.conflicts) = [[1], [0]] ∧
    (scaledGraph "area(scale)").nodes.map (·.conflicts) = [[], []] :=
  ⟨rfl, sameMember_scaled, by decide +kernel, by decide +kernel, by decide +kernel,
    by decide +kernel⟩

end RegionLookup
end FixTrial
