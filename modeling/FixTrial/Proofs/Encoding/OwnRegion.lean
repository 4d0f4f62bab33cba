import FixTrial.Proofs.Encoding

/-!
One object read as a region and as a location. Both name the same type, and the location is declared
in that region unless the object gives a member that a region takes for none and a location spells
out.
-/
namespace FixTrial

namespace Decimal
variable {l : Layout} {x : Float}

theorem positional_ne_empty (ds : List Nat) (point : Int) : positional ds point ≠ "" := by
  unfold positional
  split <;> simp

theorem exponential_ne_empty (exponentDigits : Nat) (ds : List Nat) (point : Int) :
    exponential exponentDigits ds point ≠ "" := by
  simp [exponential]

theorem Layout.text_ne_empty (hinf : l.infinity ≠ "") (hnan : l.notANumber ≠ "") :
    l.text x ≠ "" := by
  have hsigned : ∀ negative s, s ≠ "" → Layout.signed negative s ≠ "" := by
    intro negative s hs
    cases negative <;> simp [Layout.signed, hs]
  unfold Layout.text
  split
  next negative _ => exact hsigned negative _ (by decide)
  next negative size _ =>
    refine hsigned negative _ ?_
    unfold Layout.digits
    split
    · exact positional_ne_empty _ _
    · exact exponential_ne_empty _ _ _
  next negative _ => exact hsigned negative _ hinf
  next => exact hnan

end Decimal

namespace Json
variable {j : Json} {fields : List (String × Json)} {key k : String} {v : Json}

theorem shown_ne_empty (j : Json) : j.shown ≠ "" := by
  cases j with
  | null => simp [shown]
  | bool b => cases b <;> simp [shown, boolWord]
  | int n =>
    cases n with
    | ofNat n => simp [shown, Int.repr]
    | negSucc n => simp [shown, Int.repr]
  | float x => exact Decimal.Layout.text_ne_empty (by decide) (by decide)
  | text s => simp [shown, Text.quoted]
  | array items => simp [shown]
  | object fields => simp [shown]

/-- Only the empty text stands as no text at all. -/
theorem plain_eq_empty_iff : j.plain = "" ↔ j = .text "" := by
  cases j <;> simp [plain, shown_ne_empty]

theorem get?_setField : (object (setField fields key v)).get? k =
    if k = key then some v else (object fields).get? k := by
  change (setField fields key v).lookup k = if k = key then some v else fields.lookup k
  induction fields with
  | nil => grind [setField]
  | cons field rest ih =>
    obtain ⟨key', v'⟩ := field
    unfold setField
    split <;> grind

theorem required_eq_ok {v : Json} (h : j.required key = .ok v) : j.get? key = some v := by
  unfold required at h
  split at h
  next hget =>
    cases h
    exact hget
  next => cases h

end Json

/-- What a location that is read says of kind, type and member. -/
theorem Location.of_ofJson {j : Json} {l : Location} (h : ofJson j = .ok l) :
    ElementKind.ofJson ((j.get? "kind").getD .null) = .ok l.kind ∧
      (∃ type, j.get? "type" = some type ∧ l.typeName = type.plain) ∧
      l.member = j.plainField "member" "" := by
  unfold ofJson at h
  dsimp only at h
  split at h
  next => cases h
  obtain ⟨kind, hkind, h⟩ := bind_eq_ok_iff.mp h
  have hrest : ∃ index type, j.get? "type" = some type ∧
      l = { kind, typeName := type.plain, member := j.plainField "member" "", index
            path := j.plainField "path" "" } := by
    split at h
    all_goals
      obtain ⟨index, hindex, h⟩ := bind_eq_ok_iff.mp h
      obtain ⟨type, htype, h⟩ := bind_eq_ok_iff.mp h
      cases h
      exact ⟨index, type, Json.required_eq_ok htype, rfl⟩
  obtain ⟨index, type, htype, rfl⟩ := hrest
  exact ⟨hkind, ⟨type, htype, rfl⟩, rfl⟩

/-- The object with fields, read as the location of a method. -/
def Location.ofMethod (fields : List (String × Json)) : Decoded Location :=
  ofJson (.object (Json.setField fields "kind" (.text "method")))

variable {fields : List (String × Json)} {type : Json} {l : Location}

theorem Location.get?_method_kind :
    (Json.object (Json.setField fields "kind" (.text "method"))).get? "kind" =
      some (.text "method") := by
  rw [Json.get?_setField, if_pos rfl]

theorem Location.get?_method_of_ne (key : String) (h : key ≠ "kind") :
    (Json.object (Json.setField fields "kind" (.text "method"))).get? key =
      (Json.object fields).get? key := by
  rw [Json.get?_setField, if_neg h]

/-- Where there is a type, only a position that is no whole number keeps it from being read. -/
theorem Location.ofMethod_ok_iff (htype : (Json.object fields).get? "type" = some type) :
    (∃ l, ofMethod fields = .ok l) ↔
      ∀ i, (Json.object fields).get? "index" = some i → ∃ n, i = .int n := by
  have hmethod : ElementKind.ofJson (.text "method") = .ok .method := rfl
  unfold ofMethod ofJson
  simp only [Json.required, get?_method_kind, get?_method_of_ne "index" (by decide),
    get?_method_of_ne "type" (by decide), htype, Option.getD_some, hmethod]
  cases (Json.object fields).get? "index" with
  | none => simp [Json.fields?, bind, Except.bind, pure, Except.pure]
  | some i =>
    cases i <;> simp [Json.fields?, bind, Except.bind, pure, Except.pure, throw, throwThe,
      MonadExceptOf.throw]

theorem Location.region_of_ofMethod (h : ofMethod fields = .ok l)
    (htype : (Json.object fields).get? "type" = some type) :
    l.region = ⟨type.plain, (Json.object fields).plainField "member" ""⟩ := by
  obtain ⟨hkind, ⟨type', htype', hname⟩, hmember⟩ := of_ofJson h
  have hmethod : l.kind = .method := by
    rw [get?_method_kind] at hkind
    exact (Except.ok.inj hkind).symm
  obtain rfl : type' = type := by
    rw [get?_method_of_ne _ (by decide), htype] at htype'
    exact (Option.some.inj htype').symm
  have hplain : l.member = (Json.object fields).plainField "member" "" := by
    rw [hmember, Json.plainField, get?_method_of_ne _ (by decide)]
    rfl
  rw [Place.region, hmethod, ← hname, ← hplain]

/-- An object that names a type, read as a region and as the location of a method. A region it
always is, and a location unless its position is no whole number. Both are in the type it names. The
location is declared in that very region exactly if the object gives no member, or one that counts
as present, or the empty text; if not, the region is that of the type itself, and the location is
declared in a member. -/
theorem regions_agree_iff (htype : (Json.object fields).get? "type" = some type) :
    ∃ r, Region.ofJson (.object fields) = .ok r ∧ r.typeName = type.plain ∧
      ((∃ l, Location.ofMethod fields = .ok l) ↔
        ∀ i, (Json.object fields).get? "index" = some i → ∃ n, i = .int n) ∧
      ∀ l, Location.ofMethod fields = .ok l →
        l.region.typeName = r.typeName ∧
        (l.region = r ↔ ∀ m, (Json.object fields).get? "member" = some m →
          m.isTruthy = true ∨ m = .text "") ∧
        (l.region ≠ r → r.member = "" ∧ l.region.member ≠ "") := by
  unfold Region.ofJson
  rw [htype]
  refine ⟨_, rfl, rfl, Location.ofMethod_ok_iff htype, fun l hl => ?_⟩
  rw [Location.region_of_ofMethod hl htype, Json.plainField]
  cases hm : (Json.object fields).get? "member" with
  | none => simp
  | some m =>
    by_cases htruthy : m.isTruthy = true
    · simp [htruthy]
    · simp [htruthy, Json.plain_eq_empty_iff]

/-- A method with a name is declared in the region of its name. -/
theorem regions_agree_iff_named :
    ∃ r l, Region.ofJson (.object [("type", .text "pkg.Foo"), ("member", .text "get")]) = .ok r ∧
      Location.ofMethod [("type", .text "pkg.Foo"), ("member", .text "get")] = .ok l ∧
      l.region = r ∧ r.typeName = "pkg.Foo" := by
  obtain ⟨r, hr, hname, -, hagree⟩ :=
    @regions_agree_iff [("type", .text "pkg.Foo"), ("member", .text "get")] _ rfl
  refine ⟨r, _, hr, rfl, (hagree _ rfl).2.1.mpr fun m hm => ?_, hname⟩
  obtain rfl := Option.some.inj hm
  exact .inl (by decide)

/-- A null member is none to a region, but to a location it is one, named as messages show it. -/
theorem null_member_named :
    Region.ofJson (.object [("type", .text "pkg.Foo"), ("member", .null)]) =
      .ok ⟨"pkg.Foo", ""⟩ ∧
    ∃ l, Location.ofMethod [("type", .text "pkg.Foo"), ("member", .null)] = .ok l ∧
      l.region = ⟨"pkg.Foo", "None"⟩ ∧ l.region ≠ ⟨"pkg.Foo", ""⟩ :=
  ⟨rfl, _, rfl, rfl, by decide⟩

end FixTrial
