import FixTrial.Encoding.Decode
import FixTrial.Encoding.Encode
import FixTrial.Proofs.Except
import FixTrial.Proofs.Snapshot

/-!
Diagnostics written as JSON and read back. Only a parameter's position is written, and a diagnostic
comes back as it was exactly if nothing else in it has one.
-/
namespace FixTrial
open Std

theorem ElementKind.name_inj {a b : ElementKind} (h : a.name = b.name) : a = b := by
  cases a <;> cases b <;> first | rfl | simp [name] at h

theorem ElementKind.ofJson_name (k : ElementKind) : ElementKind.ofJson (.text k.name) = .ok k := by
  cases k <;> rfl

theorem Origin.ofJson_name (o : Origin) : Origin.ofJson (.text o.name) = .ok o := by
  cases o <;> rfl

namespace Place
variable {p q : Place}

instance : TransCmp cmp := by
  unfold cmp
  infer_instance

theorem eq_of_cmp (h : cmp p q = .eq) : p = q := by
  obtain ⟨hkind, hrest⟩ := compareLex_eq_eq.mp h
  obtain ⟨htype, hrest⟩ := compareLex_eq_eq.mp hrest
  obtain ⟨hmember, hindex⟩ := compareLex_eq_eq.mp hrest
  obtain ⟨kind, typeName, member, index⟩ := p
  obtain ⟨kind', typeName', member', index'⟩ := q
  obtain rfl : kind = kind' := ElementKind.name_inj (Std.compare_eq_iff_eq.mp hkind)
  obtain rfl : typeName = typeName' := Std.compare_eq_iff_eq.mp htype
  obtain rfl : member = member' := Std.compare_eq_iff_eq.mp hmember
  obtain rfl : index = index' := Std.compare_eq_iff_eq.mp hindex
  rfl

end Place

namespace FixKey
variable {a b c : FixKey} {ks ls : List FixKey}

instance : TransCmp cmp := by
  have : TransCmp fun a b : FixKey => Place.cmp a.place b.place :=
    { eq_swap := OrientedCmp.eq_swap
      isLE_trans := fun {a b c} (h : (Place.cmp a.place b.place).isLE) h' =>
        TransCmp.isLE_trans h h' }
  unfold cmp
  infer_instance

theorem le_antisymm (h : le a b = true) (h' : le b a = true) : a = b := by
  have heq : cmp a b = .eq := OrientedCmp.isLE_antisymm h h'
  obtain ⟨hplace, hmark⟩ := compareLex_eq_eq.mp heq
  obtain ⟨place, mark⟩ := a
  obtain ⟨place', mark'⟩ := b
  obtain rfl : place = place' := Place.eq_of_cmp hplace
  obtain rfl : mark = mark' := Std.compare_eq_iff_eq.mp hmark
  rfl

theorem le_trans (h : le a b = true) (h' : le b c = true) : le a c = true :=
  TransCmp.isLE_trans h h'

theorem le_total (a b : FixKey) : (le a b || le b a) = true := by
  have hswap : cmp b a = (cmp a b).swap := OrientedCmp.eq_swap
  rw [le, le, hswap]
  cases cmp a b <;> rfl

/-- The same keys in any order are sorted alike. -/
theorem sort_of_perm (h : ks.Perm ls) : ks.mergeSort le = ls.mergeSort le := by
  have hsorted : ∀ xs : List FixKey, (xs.mergeSort le).Pairwise fun a b => le a b = true :=
    List.pairwise_mergeSort (fun _ _ _ => le_trans) le_total
  refine List.Perm.eq_of_pairwise (fun a b _ _ => le_antisymm) (hsorted ks) (hsorted ls) ?_
  exact (List.mergeSort_perm ks le).trans (h.trans (List.mergeSort_perm ls le).symm)

end FixKey

theorem Region.ofJson_toJson (r : Region) : Region.ofJson r.toJson = .ok r := by
  obtain ⟨typeName, member⟩ := r
  by_cases hm : member = "" <;>
    simp [ofJson, toJson, Json.get?, Json.plain, Json.isTruthy, List.lookup_cons, hm]

/-- A place as it is written: without a position, unless it is a parameter's. -/
def Place.written (p : Place) : Place := if p.kind = .parameter then p else { p with index := -1 }

def FixKey.written (k : FixKey) : FixKey := { k with place := k.place.written }

def Location.written (l : Location) : Location := { l with toPlace := l.toPlace.written }

theorem Location.ofJson_toJson (l : Location) : Location.ofJson l.toJson = .ok l.written := by
  obtain ⟨⟨kind, typeName, member, index⟩, path⟩ := l
  have hkind : ElementKind.ofJson (.text kind.name) = .ok kind := ElementKind.ofJson_name kind
  cases kind <;>
    simp [ofJson, toJson, written, Place.written, Json.get?, Json.fields?, Json.required,
      Json.plainField, Json.plain, hkind, List.lookup_cons, pure, Except.pure, bind, Except.bind]

/-- A fix as it is read again: its reasons in order, and no patch. -/
def Fix.written (f : Fix) : Fix :=
  { f with location := f.location.written, patch := none
           reasons := Keyed.distinct id (f.reasons.mergeSort fun a b => decide (a ≤ b)) }

theorem Fix.ofJson_toJson (f : Fix) : Fix.ofJson f.toJson = .ok f.written := by
  have hlocation := Location.ofJson_toJson f.location
  have horigin := Origin.ofJson_name f.origin
  simp [ofJson, toJson, written, textsToJson, reasonsOf, Json.get?, Json.fields?, Json.required,
    Json.itemTexts, Json.plain, Function.comp_def, hlocation, horigin, List.lookup_cons, pure,
    Except.pure, bind, Except.bind]

theorem Fix.mapM_ofJson (fixes : List Fix) :
    (fixes.map toJson).mapM ofJson = .ok (fixes.map written) := by
  induction fixes with
  | nil => rfl
  | cons f rest ih =>
    rw [List.map_cons, List.mapM_cons, ofJson_toJson, ih]
    rfl

/-- A diagnostic as it is read again. -/
def Diagnostic.written (d : Diagnostic) : Diagnostic :=
  { d with fixes := Fix.dedupe ((Fix.sort d.fixes).map Fix.written) }

theorem Diagnostic.ofJson_toJson (d : Diagnostic) : ofJson d.toJson = .ok d.written := by
  have hregion := Region.ofJson_toJson d.region
  have hfixes := Fix.mapM_ofJson (Fix.sort d.fixes)
  simp [ofJson, toJson, written, Fix.listToJson, Json.get?, Json.fields?, Json.required,
    Json.plainField, Json.plain, hregion, hfixes, List.lookup_cons, pure, Except.pure, bind,
    Except.bind]

/-- A place with a position only if it is a parameter's. -/
def Place.Regular (p : Place) : Prop := p.kind ≠ .parameter → p.index = -1

theorem Place.regular_written (p : Place) : p.written.Regular := by
  unfold written
  split
  next h => exact fun hk => absurd h hk
  next => exact fun _ => rfl

theorem Place.written_of_regular {p : Place} (h : p.Regular) : p.written = p := by
  unfold written
  split
  next => rfl
  next hk =>
    obtain ⟨kind, typeName, member, index⟩ := p
    obtain rfl : index = -1 := h hk
    rfl

theorem Fix.key_written (f : Fix) : f.written.key = f.key.written := rfl

/-- Fixes that are told apart are told apart as they are written, if they are regular. -/
theorem Fix.key_eq_of_toJson {f g : Fix} (hf : f.key.place.Regular) (hg : g.key.place.Regular)
    (h : f.toJson = g.toJson) : f.key = g.key := by
  have hwritten : f.written = g.written := by
    have hread := Fix.ofJson_toJson f
    rw [h, Fix.ofJson_toJson g] at hread
    exact (Except.ok.inj hread).symm
  calc f.key = f.key.written := by rw [FixKey.written, Place.written_of_regular hf]
    _ = g.key.written := congrArg key hwritten
    _ = g.key := by rw [FixKey.written, Place.written_of_regular hg]

namespace Diagnostic
variable {d : Diagnostic} {ds : List Diagnostic} {k : FixKey}

/-- A diagnostic in whose fixes only parameters have a position. -/
def Regular (d : Diagnostic) : Prop := ∀ f ∈ d.fixes, f.key.place.Regular

theorem mem_keys_written :
    k ∈ d.written.fixes.map Fix.key ↔ ∃ f ∈ d.fixes, f.key.written = k := by
  rw [written, Fix.dedupe_same, List.map_map, List.mem_map]
  simp only [Fix.sort, List.mem_mergeSort, Function.comp_apply, Fix.key_written]

theorem key_written_of_regular (hn : (d.fixes.map Fix.key).Nodup) (h : d.Regular) :
    d.written.key = d.key := by
  have hkeys :
      ((Fix.sort d.fixes).map Fix.written).map Fix.key = (Fix.sort d.fixes).map Fix.key := by
    rw [List.map_map]
    refine List.map_congr_left fun f hf => ?_
    have hregular := h f (List.mem_mergeSort.mp hf)
    rw [Function.comp_apply, Fix.key_written, FixKey.written, Place.written_of_regular hregular]
  have hperm : ((Fix.sort d.fixes).map Fix.key).Perm (d.fixes.map Fix.key) :=
    (List.mergeSort_perm ..).map Fix.key
  have hfixes : d.written.fixes = (Fix.sort d.fixes).map Fix.written := by
    refine Fix.dedupe_of_nodup ?_
    rw [hkeys]
    exact hperm.nodup_iff.mpr hn
  -- the fixes come back in the order that they were written in, and the key forgets it
  rw [key, key, hfixes, hkeys, FixKey.sort_of_perm hperm]
  rfl

theorem regular_of_key_written (h : d.written.key = d.key) : d.Regular := by
  intro f hf
  have hk : f.key ∈ d.written.fixes.map Fix.key := by
    rw [mem_keys_fixes, h, ← mem_keys_fixes]
    exact List.mem_map_of_mem hf
  obtain ⟨g, -, hg⟩ := mem_keys_written.mp hk
  rw [← hg]
  exact Place.regular_written _

/-- A diagnostic that is read holds every fix once. -/
theorem fixes_of_ofJson {j : Json} (h : ofJson j = .ok d) :
    ∃ fixes, d.fixes = Fix.dedupe fixes := by
  unfold ofJson at h
  cases hshape : j.fields? with
  | none =>
    rw [hshape] at h
    cases h
  | some _ =>
    rw [hshape] at h
    split at h
    next items _ =>
      obtain ⟨region, -, h⟩ := bind_eq_ok_iff.mp h
      obtain ⟨r, -, h⟩ := bind_eq_ok_iff.mp h
      obtain ⟨fixes, -, h⟩ := bind_eq_ok_iff.mp h
      cases h
      exact ⟨fixes, rfl⟩
    next => cases h

theorem ofJson_of_mem {items : List Json} (h : items.mapM ofJson = .ok ds) (hd : d ∈ ds) :
    ∃ j, ofJson j = .ok d := by
  induction items generalizing ds with
  | nil =>
    cases h
    cases hd
  | cons j rest ih =>
    rw [List.mapM_cons] at h
    obtain ⟨first, hfirst, h⟩ := bind_eq_ok_iff.mp h
    obtain ⟨others, hothers, h⟩ := bind_eq_ok_iff.mp h
    cases h
    rcases List.mem_cons.mp hd with rfl | hd
    · exact ⟨j, hfirst⟩
    · exact ih hothers hd

theorem ofJson_of_parse {text : String} (h : parse text = .ok ds) (hd : d ∈ ds) :
    ∃ j, ofJson j = .ok d := by
  unfold parse at h
  split at h
  next =>
    cases h
    cases hd
  next =>
    split at h
    next j _ =>
      unfold listOfJson at h
      extract_lets listed at h
      clear_value listed
      split at h
      next items => exact ofJson_of_mem h hd
      next => cases h
    next => cases h

/-- A diagnostic that a checker wrote, written and read once more: it is of the same kind, message
and region, and its fixes are those that were written. It is the same diagnostic exactly if only
parameters have a position in it, and then no two of its fixes are written alike. -/
theorem round_trip {text : String} (h : parse text = .ok ds) :
    ∀ d ∈ ds, ∃ d', ofJson d.toJson = .ok d' ∧
      d'.kind = d.kind ∧ d'.message = d.message ∧ d'.region = d.region ∧
      (∀ k, k ∈ d'.fixes.map Fix.key ↔ ∃ f ∈ d.fixes, f.key.written = k) ∧
      (d'.key = d.key ↔ d.Regular) ∧
      (d.Regular → ∀ f ∈ d.fixes, ∀ g ∈ d.fixes, f.key ≠ g.key → f.toJson ≠ g.toJson) := by
  intro d hd
  obtain ⟨j, hj⟩ := ofJson_of_parse h hd
  obtain ⟨fixes, hfixes⟩ := fixes_of_ofJson hj
  have hn : (d.fixes.map Fix.key).Nodup := by
    rw [hfixes]
    exact Fix.nodup_keys_dedupe
  refine ⟨d.written, ofJson_toJson d, rfl, rfl, rfl, fun k => mem_keys_written, ?_, ?_⟩
  · exact ⟨regular_of_key_written, key_written_of_regular hn⟩
  · intro hregular f hf g hg hne heq
    exact hne (Fix.key_eq_of_toJson (hregular f hf) (hregular g hg) heq)

theorem parse_ofList {cs : List Char} (h : cs ≠ []) : parse (String.ofList cs) =
    match Json.readChars cs with
    | .ok j => listOfJson j
    | .error e => .error (.notJson (Json.locate cs e)) := by
  have hempty : (String.ofList cs).isEmpty = false := by simpa using h
  rw [parse, hempty, Json.read, String.toList_ofList]
  cases Json.readChars cs <;> rfl

theorem parse_of_keys {text : String} {ks : List FixKey} (h : (parse text).toOption.map
    (fun ds => ds.map fun d => d.fixes.map Fix.key) = some [ks]) :
    ∃ d, parse text = .ok [d] ∧ d.fixes.map Fix.key = ks := by
  cases hp : parse text with
  | error _ => simp [hp, Except.toOption] at h
  | ok ds =>
    rw [hp] at h
    obtain ⟨d, rfl, hd⟩ := List.map_eq_singleton_iff.mp (Option.some.inj h)
    exact ⟨d, rfl, hd⟩

/-- The output of a checker that suggests a fix of a parameter. -/
def parameterSuggested : String :=
  "[\x7b\"region\":\x7b\"type\":\"A\"\x7d,\"fixes\":[
  \x7b\"annotation\":\"N\",
   \"location\":\x7b\"kind\":\"parameter\",\"type\":\"A\",\"index\":1\x7d\x7d]\x7d]"

theorem parse_parameterSuggested : ∃ d, parse parameterSuggested = .ok [d] ∧
    d.fixes.map Fix.key = [⟨⟨.parameter, "A", "", 1⟩, "N"⟩] := by
  refine parse_of_keys ?_
  have htext : parameterSuggested = String.ofList _ := rfl
  rw [htext, parse_ofList (List.cons_ne_nil _ _)]
  decide +kernel

/-- A parameter's fix comes back as it was. -/
theorem round_trip_parameter : ∃ d, parse parameterSuggested = .ok [d] ∧
    d.fixes.map Fix.key = [⟨⟨.parameter, "A", "", 1⟩, "N"⟩] ∧
      ∃ d', ofJson d.toJson = .ok d' ∧ d'.key = d.key := by
  obtain ⟨d, hparse, hkeys⟩ := parse_parameterSuggested
  obtain ⟨d', hread, -, -, -, -, hkey, -⟩ := round_trip hparse d (List.mem_singleton_self d)
  have hregular : d.Regular := by
    intro f hf
    have hmem : f.key ∈ d.fixes.map Fix.key := List.mem_map_of_mem hf
    rw [hkeys, List.mem_singleton] at hmem
    rw [hmem]
    exact fun h => absurd rfl h
  exact ⟨d, hparse, hkeys, d', hread, hkey.mpr hregular⟩

/-- The output of a checker that tells two fixes of one method apart by a position. -/
def methodPositions : String :=
  "[\x7b\"region\":\x7b\"type\":\"A\"\x7d,\"fixes\":[
  \x7b\"annotation\":\"N\",
   \"location\":\x7b\"kind\":\"method\",\"type\":\"A\",\"index\":0\x7d\x7d,
  \x7b\"annotation\":\"N\",
   \"location\":\x7b\"kind\":\"method\",\"type\":\"A\",\"index\":1\x7d\x7d]\x7d]"

set_option maxRecDepth 2000 in
theorem parse_methodPositions : ∃ d, parse methodPositions = .ok [d] ∧
    d.fixes.map Fix.key = [0, 1].map fun i => ⟨⟨.method, "A", "", i⟩, "N"⟩ := by
  refine parse_of_keys ?_
  have htext : methodPositions = String.ofList _ := rfl
  rw [htext, parse_ofList (List.cons_ne_nil _ _)]
  decide +kernel

/-- A method's position is not written: two fixes that differ in nothing else become one. -/
theorem positions_lost : ∃ ds, parse methodPositions = .ok ds ∧ ∃ d ∈ ds, ∃ d',
    ofJson d.toJson = .ok d' ∧ d'.key ≠ d.key ∧ (∃ f ∈ d.fixes, ∃ g ∈ d.fixes, f.key ≠ g.key) ∧
      ∀ f ∈ d'.fixes, ∀ g ∈ d'.fixes, f.key = g.key := by
  obtain ⟨d, hparse, hkeys⟩ := parse_methodPositions
  have hat (i : Int) (hi : i ∈ [0, 1]) : ∃ f ∈ d.fixes, f.key = ⟨⟨.method, "A", "", i⟩, "N"⟩ := by
    rw [← List.mem_map, hkeys]
    exact List.mem_map_of_mem hi
  obtain ⟨f, hf, hfkey⟩ := hat 0 (by simp)
  obtain ⟨g, hg, hgkey⟩ := hat 1 (by simp)
  have hone : ∀ f' ∈ d.written.fixes, f'.key = ⟨⟨.method, "A", "", -1⟩, "N"⟩ := by
    intro f' hf'
    obtain ⟨f₀, hf₀, hwritten⟩ := mem_keys_written.mp (List.mem_map_of_mem hf')
    have hmem : f₀.key ∈ d.fixes.map Fix.key := List.mem_map_of_mem hf₀
    rw [hkeys] at hmem
    obtain ⟨i, -, hi⟩ := List.mem_map.mp hmem
    rw [← hwritten, ← hi]
    rfl
  refine ⟨[d], hparse, d, List.mem_singleton_self d, d.written, ofJson_toJson d, ?_, ?_, ?_⟩
  · intro hkey
    have hindex := regular_of_key_written hkey f hf
    rw [hfkey] at hindex
    exact absurd (hindex (by decide)) (by decide)
  · exact ⟨f, hf, g, hg, by rw [hfkey, hgkey]; decide⟩
  · intro f₁ hf₁ f₂ hf₂
    rw [hone f₁ hf₁, hone f₂ hf₂]

end Diagnostic
end FixTrial
