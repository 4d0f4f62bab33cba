import FixTrial.Proofs.Program.Linked
import FixTrial.Proofs.Program.Mentioned

/-!
Indices built from files are well formed. Whatever is mentioned is mentioned in a method of the
index, or in the body of an indexed type or of a module, and all that types and methods are owned by
has a file. So each member of an override family can be found.
-/
namespace FixTrial
open Source

/-- What an index may have an entry for. -/
inductive Item
  | method (m : Member)
  | type (name : String)
  | field (m : Member)
  | path (owner : String)

/-- The entries that a fact makes. -/
def Fact.items : Fact → List Item
  | .method m _ => [.method m, .path m.typeName]
  | .type t _ => [.type t, .path t]
  | .field m => [.field m]
  | _ => []

theorem Fact.path_of_type {fact : Fact} {t : String} (h : .type t ∈ fact.items) :
    .path t ∈ fact.items := by
  cases fact <;> simp_all [items]

theorem Fact.path_of_method {fact : Fact} {m : Member} (h : .method m ∈ fact.items) :
    .path m.typeName ∈ fact.items := by
  cases fact <;> simp_all [items]

/-- Some fact makes the entry. -/
def Item.MadeBy (i : Item) (facts : List Fact) : Prop := ∃ fact ∈ facts, i ∈ fact.items

/-! ### Facts of a module -/

/-- The region is in a method with an entry, or else in the body of a type with one or of the
module. -/
def Region.Supported (module : String) (facts : List Fact) (r : Region) : Prop :=
  (Item.method ⟨r.typeName, r.member⟩).MadeBy facts ∨
    r.member = "" ∧ (r.typeName = module ∨ (Item.type r.typeName).MadeBy facts)

/-- What a fact relies on has entries: the region of a mention, and the type of a field. -/
def Fact.Supported (module : String) (facts : List Fact) : Fact → Prop
  | .call _ r | .read _ r | .write _ r => r.Supported module facts
  | .field m => (Item.type m.typeName).MadeBy facts
  | _ => True

/-- What a scope is in has entries: its class, if it is in one, and the function around it. -/
structure Scope.Supported (facts : List Fact) (s : Scope) : Prop where
  type : s.classes ≠ [] → (Item.type s.typeName).MadeBy facts
  method : ∀ f, s.function = some f → (Item.method ⟨s.typeName, f⟩).MadeBy facts

namespace Scope
variable {s : Scope} {facts : List Fact} {fact : Fact} {e : Expression} {st : Statement}

theorem typeName_of_no_class (h : s.classes = []) : s.typeName = s.module := by
  rw [typeName, h, String.intercalate_singleton]

theorem supported_ofModule (module : String) : (ofModule module).Supported facts :=
  ⟨fun h => absurd rfl h, fun _ h => nomatch h⟩

theorem Supported.region (hs : s.Supported facts) : s.region.Supported s.module facts := by
  unfold Scope.region
  cases hf : s.function with
  | some f => exact .inl (hs.method f hf)
  | none =>
    refine .inr ⟨rfl, ?_⟩
    by_cases hc : s.classes = []
    · exact .inl (typeName_of_no_class hc)
    · exact .inr (hs.type hc)

theorem supported_of_mem_attributeFacts {value : Expression} {member : String} {use : Use}
    (hs : s.Supported facts) (h : fact ∈ s.attributeFacts value member use) :
    fact.Supported s.module facts := by
  cases use with
  | read =>
    obtain rfl := List.mem_singleton.mp h
    exact hs.region
  | write =>
    rcases List.mem_cons.mp h with rfl | hfield
    · exact hs.region
    split at hfield
    next =>
      split at hfield
      next => cases hfield
      next hclasses =>
        obtain rfl := List.mem_singleton.mp hfield
        exact hs.type fun hnone => hclasses (List.isEmpty_iff.mpr hnone)
    next => cases hfield

theorem supported_of_mem_ownFacts (hs : s.Supported facts) (h : fact ∈ s.ownFacts e) :
    fact.Supported s.module facts := by
  unfold ownFacts at h
  split at h
  next => exact supported_of_mem_attributeFacts hs h
  next =>
    simp only [callFacts, Option.mem_toList, Option.map_eq_some_iff] at h
    obtain ⟨name, -, rfl⟩ := h
    exact hs.region
  next => cases h

theorem supported_of_mem_expressionsFacts {es : List Expression} (hs : s.Supported facts)
    (h : fact ∈ s.expressionsFacts es) : fact.Supported s.module facts := by
  obtain ⟨whole, -, hwhole⟩ := mem_expressionsFacts.mp h
  obtain ⟨e, -, hown⟩ := within_of_mem_expressionFacts hwhole
  exact supported_of_mem_ownFacts hs hown

/-- What is inside a statement is in a method or type that the statement itself makes an entry. -/
theorem Supported.into_opens (hs : s.Supported facts) (hfollows : s.Follows st.opens)
    (hown : ∀ fact ∈ s.declaredFacts st, fact ∈ facts) :
    (s.into st.opens).Supported facts ∧ (s.into st.opens).module = s.module := by
  cases st with
  | function name parameters parts body =>
    refine ⟨⟨hs.type, fun f hf => ?_⟩, rfl⟩
    change (s.function <|> some name) = some f at hf
    cases hfun : s.function with
    | some outer =>
      rw [hfun] at hf
      exact hs.method f (hfun.trans hf)
    | none =>
      obtain rfl : name = f := by simpa [hfun] using hf
      refine ⟨.method ⟨s.typeName, name⟩ (s.parameters parameters), hown _ ?_, List.mem_cons_self⟩
      simp [declaredFacts, hfun]
  | classDef name bases parts body =>
    obtain ⟨hfun, -⟩ := hfollows
    refine ⟨⟨fun _ => ?_, fun f hf => ?_⟩, rfl⟩
    · refine ⟨.type (s.inClass name).typeName (bases.filterMap Expression.simpleName?), hown _ ?_,
        List.mem_cons_self⟩
      simp [declaredFacts, hfun]
    · rw [show s.function = some f from hf] at hfun
      cases hfun
  | _ => exact ⟨hs, rfl⟩

/-- A statement makes a field only of a type that it makes an entry. -/
theorem supported_of_mem_declaredFacts (hown : ∀ fact ∈ s.declaredFacts st, fact ∈ facts)
    (h : fact ∈ s.declaredFacts st) : fact.Supported s.module facts := by
  unfold declaredFacts at h hown
  split at h
  next =>
    split at h
    next =>
      obtain rfl := List.mem_singleton.mp h
      trivial
    next => cases h
  next =>
    split at h
    next => cases h
    next hfun =>
      dsimp only at hown
      rw [if_neg hfun] at hown
      rcases List.mem_cons.mp h with rfl | hfield
      · trivial
      · obtain ⟨n, -, rfl⟩ := List.mem_map.mp hfield
        exact ⟨_, hown _ List.mem_cons_self, List.mem_cons_self⟩
  next => cases h

/-- Statement by statement, from the outside in: what a statement opens has entries before anything
in it relies on them. -/
theorem supported_of_mem_statementFacts {s : Scope} {st : Statement} (hs : s.Supported facts)
    (hall : ∀ fact ∈ s.statementFacts st, fact ∈ facts) (h : fact ∈ s.statementFacts st) :
    fact.Supported s.module facts := by
  have hown : ∀ fact ∈ s.declaredFacts st, fact ∈ facts :=
    fun fact hfact => hall fact (mem_statementFacts_iff.mpr (.inl hfact))
  rcases mem_statementFacts_iff.mp h with hdeclared | ⟨hfollows, hinside⟩
  · exact supported_of_mem_declaredFacts hown hdeclared
  obtain ⟨hinto, hmodule⟩ := hs.into_opens hfollows hown
  rw [← hmodule]
  rcases hinside with hexpression | hbody
  · exact supported_of_mem_expressionsFacts hinto hexpression
  · obtain ⟨inner, hinner, hfact⟩ := mem_statementsFacts.mp hbody
    refine supported_of_mem_statementFacts hinto (fun fact hfact => hall fact ?_) hfact
    exact mem_statementFacts_iff.mpr
      (.inr ⟨hfollows, .inr (mem_statementsFacts.mpr ⟨inner, hinner, hfact⟩)⟩)
termination_by sizeOf st
decreasing_by exact sizeOf_lt_of_mem_body hinner

/-- In a module every fact is supported by the facts of the module. -/
theorem supported_of_module {module : String} {statements : List Statement}
    (h : fact ∈ (ofModule module).statementsFacts statements) :
    fact.Supported module ((ofModule module).statementsFacts statements) := by
  obtain ⟨st, hst, hfact⟩ := mem_statementsFacts.mp h
  exact supported_of_mem_statementFacts (supported_ofModule module)
    (fun fact hfact => mem_statementsFacts.mpr ⟨st, hst, hfact⟩) hfact

end Scope

/-! ### Entries of an index -/

section
variable {κ α : Type} [DecidableEq κ] {entries : List (κ × α)} {entry : κ × α} {key key' : κ}
  {value : α}

theorem mem_of_mem_setEntry (h : entry ∈ setEntry entries key value) :
    entry = (key, value) ∨ entry ∈ entries := by
  induction entries with
  | nil => exact .inl (List.mem_singleton.mp h)
  | cons e rest ih =>
    obtain ⟨k, v⟩ := e
    unfold setEntry at h
    split at h
    next hkey =>
      subst hkey
      exact (List.mem_cons.mp h).imp_right (List.mem_cons_of_mem _)
    next =>
      rcases List.mem_cons.mp h with rfl | hrest
      · exact .inr List.mem_cons_self
      · exact (ih hrest).imp_right (List.mem_cons_of_mem _)

theorem mem_keys_setEntry : key' ∈ (setEntry entries key value).map Prod.fst ↔
    key' ∈ entries.map Prod.fst ∨ key' = key := by
  induction entries with
  | nil => simp [setEntry]
  | cons e rest ih =>
    obtain ⟨k, v⟩ := e
    unfold setEntry
    split
    next hkey =>
      subst hkey
      simp [or_comm]
    next => simp only [List.map_cons, List.mem_cons, ih, or_assoc]

theorem isSome_lookup : (entries.lookup key).isSome = true ↔ key ∈ entries.map Prod.fst := by
  simp

end

namespace ProgramIndex
variable {x x' : ProgramIndex} {i : Item} {fact : Fact} {path t : String} {fs : Files}
  {folder : Path} {file : SourceFile} {files : List SourceFile}

/-- The index has the entry. -/
def Has (x : ProgramIndex) : Item → Prop
  | .method m => m ∈ x.methods.map Prod.fst
  | .type t => t ∈ x.types
  | .field m => m ∈ x.fields
  | .path t => t ∈ x.paths.map Prod.fst

theorem has_record {path : String} :
    (x.record path fact).Has i ↔ x.Has i ∨ i ∈ fact.items := by
  cases fact with
  | method m ps =>
    cases i with
    | method m' => simpa [Has, record, Fact.items] using mem_keys_setEntry
    | path t =>
      simp only [Has, record, Fact.items]
      split
      next hin =>
        have hold : m.typeName ∈ x.paths.map Prod.fst := isSome_lookup.mp hin
        have hnothing : t = m.typeName → t ∈ x.paths.map Prod.fst := fun ht => ht ▸ hold
        simpa using hnothing
      next => simpa using mem_keys_setEntry
    | _ => simp [Has, record, types, Fact.items]
  | type t bs =>
    cases i with
    | type t' => simpa [Has, record, types, Fact.items] using mem_keys_setEntry
    | path t' => simpa [Has, record, Fact.items] using mem_keys_setEntry
    | _ => simp [Has, record, Fact.items]
  | field m =>
    cases i with
    | field m' =>
      have hinsert : m' ∈ (Keyed.insert id x.fields m).map id ↔ m' ∈ x.fields.map id ∨ m' = m :=
        Keyed.mem_keys_insert
      simpa [Has, record, Fact.items] using hinsert
    | _ => simp [Has, record, types, Fact.items]
  | _ => cases i <;> simp [Has, record, types, Fact.items]

/-- An index has exactly the entries that facts of its files make. -/
theorem has_iff (h : ofFolder fs folder = .ok x) : x.Has i ↔
    ∃ file ∈ SourceFile.below fs folder, ∃ statements, file.Parses statements ∧
      i.MadeBy ((Scope.ofModule file.moduleName).statementsFacts statements) := by
  have hempty : ¬ empty.Has i := by cases i <;> exact List.not_mem_nil
  have hiff := foldlM_addFile_iff (P := fun x => x.Has i) (Q := fun fact => i ∈ fact.items)
    (fun _ _ _ => has_record) h
  rwa [or_iff_right hempty] at hiff

/-- The owners on record are in files. -/
def Located (x : ProgramIndex) (files : List SourceFile) : Prop :=
  ∀ entry ∈ x.paths, ∃ file ∈ files, entry.2 = file.path

theorem Located.record (hfile : file ∈ files) (hx : x.Located files) :
    (x.record file.path fact).Located files := by
  have hset : ∀ owner, ∀ entry ∈ setEntry x.paths owner file.path,
      ∃ file ∈ files, entry.2 = file.path := by
    intro owner entry hentry
    rcases mem_of_mem_setEntry hentry with rfl | hold
    · exact ⟨file, hfile, rfl⟩
    · exact hx entry hold
  cases fact with
  | method m ps =>
    unfold Located ProgramIndex.record
    dsimp only
    split
    · exact hx
    · exact hset _
  | type t bs => exact hset _
  | _ => exact hx

theorem located_ofFolder (h : ofFolder fs folder = .ok x) :
    x.Located (SourceFile.below fs folder) :=
  foldlM_addFile_invariant (I := fun x => x.Located (SourceFile.below fs folder))
    (fun _ hfile _ _ => Located.record hfile) (fun _ hentry => absurd hentry List.not_mem_nil) h

theorem Located.lookup (hx : x.Located files) (h : x.Has (.path t)) :
    ∃ file ∈ files, x.paths.lookup t = some file.path := by
  obtain ⟨path, hpath⟩ := Option.isSome_iff_exists.mp (isSome_lookup.mpr h)
  obtain ⟨before, after, hpaths, -⟩ := List.lookup_eq_some_iff.mp hpath
  obtain ⟨file, hfile, hsame⟩ := hx (t, path) (by simp [hpaths])
  exact ⟨file, hfile, hpath.trans (congrArg some hsame)⟩

end ProgramIndex

namespace SourceFile
variable {fs : Files} {folder : Path} {file : SourceFile}

theorem isSource_of_mem_below (h : file ∈ below fs folder) : isSource file.parts = true := by
  unfold below at h
  obtain ⟨found, hfound, rfl⟩ := List.mem_map.mp (List.mem_mergeSort.mp h)
  exact (List.mem_filter.mp hfound).2

/-- A source file has a path, as its name ends in something. -/
theorem path_ne_empty (h : file ∈ below fs folder) : file.path ≠ "" := by
  have hsource := isSource_of_mem_below h
  unfold path
  cases hparts : file.parts with
  | nil =>
    rw [hparts] at hsource
    cases hsource
  | cons first rest =>
    cases rest with
    | nil =>
      rw [hparts] at hsource
      rw [String.intercalate_singleton]
      rintro rfl
      exact absurd hsource (by decide +kernel)
    | cons second rest => simp [String.intercalate_cons_cons]

end SourceFile

/-! ### Well-formed indices -/

namespace ProgramIndex
variable {x : ProgramIndex} {r : Region} {i : Item} {fact : Fact} {t : String} {l m : Location} {f g : Fix}
  {fs : Files} {folder : Path} {files : List SourceFile}

/-- A region is in a method that is indexed, or in the body of an indexed type or of a module. -/
def Places (x : ProgramIndex) (files : List SourceFile) (r : Region) : Prop :=
  r.member = "" ∧ (r.typeName ∈ x.types ∨ ∃ file ∈ files, r.typeName = file.moduleName) ∨
    (x.parameters? ⟨r.typeName, r.member⟩).isSome = true

/-- All that an index tells of is in it: the regions on record, the types of the fields, and the
files of the types and of the methods. -/
structure WellFormed (x : ProgramIndex) (files : List SourceFile) : Prop where
  mentions : ∀ name r, r ∈ x.callers name ∨ r ∈ x.reads.of name ∨ r ∈ x.writes.of name →
    x.Places files r
  fields : ∀ m ∈ x.fields, m.typeName ∈ x.types
  types : ∀ t ∈ x.types, ∃ file ∈ files, x.paths.lookup t = some file.path
  methods : ∀ m, (x.parameters? m).isSome = true →
    ∃ file ∈ files, x.paths.lookup m.typeName = some file.path

theorem places_of_knows (fact : Fact) (h : ofFolder fs folder = .ok x) (hm : fact.IsMention)
    (hregion : ∀ module facts, fact.Supported module facts → r.Supported module facts)
    (hknown : x.Knows fact) : x.Places (SourceFile.below fs folder) r := by
  obtain ⟨file, hfile, statements, hparses, hfact⟩ := (knows_ofFolder hm h).mp hknown
  have hhas : ∀ i : Item,
      i.MadeBy ((Scope.ofModule file.moduleName).statementsFacts statements) → x.Has i :=
    fun i hi => (has_iff h).mpr ⟨file, hfile, statements, hparses, hi⟩
  rcases hregion _ _ (Scope.supported_of_module hfact) with hmethod | ⟨hbody, hhere | htype⟩
  · exact .inr (isSome_lookup.mpr (hhas _ hmethod))
  · exact .inl ⟨hbody, .inr ⟨file, hfile, hhere⟩⟩
  · exact .inl ⟨hbody, .inl (hhas _ htype)⟩

theorem has_type_of_has_field (h : ofFolder fs folder = .ok x) {m : Member} (hm : x.Has (.field m)) :
    x.Has (.type m.typeName) := by
  obtain ⟨file, hfile, statements, hparses, fact, hfact, hmade⟩ := (has_iff h).mp hm
  obtain rfl : fact = .field m := by
    cases fact <;> simp_all [Fact.items]
  exact (has_iff h).mpr ⟨file, hfile, statements, hparses, Scope.supported_of_module hfact⟩

theorem has_path (h : ofFolder fs folder = .ok x) (hi : x.Has i)
    (howner : ∀ fact : Fact, i ∈ fact.items → .path t ∈ fact.items) : x.Has (.path t) := by
  obtain ⟨file, hfile, statements, hparses, fact, hfact, hmade⟩ := (has_iff h).mp hi
  exact (has_iff h).mpr ⟨file, hfile, statements, hparses, fact, hfact, howner fact hmade⟩

theorem wellFormed_ofFolder (h : ofFolder fs folder = .ok x) :
    x.WellFormed (SourceFile.below fs folder) where
  mentions name r hr := by
    rcases hr with hcall | hread | hwrite
    · exact places_of_knows (.call name r) h trivial (fun _ _ => id) hcall
    · exact places_of_knows (.read name r) h trivial (fun _ _ => id) hread
    · exact places_of_knows (.write name r) h trivial (fun _ _ => id) hwrite
  fields m hm := has_type_of_has_field h hm
  types t ht := by
    have htype : x.Has (.type t) := ht
    exact (located_ofFolder h).lookup (has_path h htype fun _ => Fact.path_of_type)
  methods m hm := by
    have hmethod : x.Has (.method m) := isSome_lookup.mp hm
    exact (located_ofFolder h).lookup (has_path h hmethod fun _ => Fact.path_of_method)

/-- In a well-formed index every type has a path that is not empty. -/
theorem WellFormed.pathOf_ne_empty (hx : x.WellFormed (SourceFile.below fs folder))
    (ht : t ∈ x.types) : x.pathOf t ≠ "" := by
  obtain ⟨file, hfile, hpath⟩ := hx.types t ht
  rw [pathOf, hpath]
  exact SourceFile.path_ne_empty hfile

/-- A place is one that can be looked at: it is declared, and in a file. -/
def Finds (x : ProgramIndex) (l : Location) : Prop := x.declares l.toPlace = true ∧ l.path ≠ ""

theorem WellFormed.finds_counterpart (hx : x.WellFormed (SourceFile.below fs folder))
    {types : List String} (htypes : types ⊆ x.types) (hm : m ∈ x.counterparts l types) :
    x.Finds m := by
  obtain ⟨-, ⟨t, ht, rfl⟩, hdeclared⟩ := mem_counterparts.mp hm
  exact ⟨hdeclared, hx.pathOf_ne_empty (htypes ht)⟩

theorem subtypes_subset : x.subtypes t ⊆ x.types := fun _ hs => (List.mem_filter.mp hs).1

/-- All that is linked with a fix is found where it is, but for the fix itself. -/
theorem eq_or_mem_overriding (hg : g ∈ x.linked none f) :
    g = f ∨ g.location ∈ x.overriding f.location := by
  unfold linked at hg
  split at hg
  next => exact .inl (List.mem_singleton.mp hg)
  next =>
    rcases Keyed.mem_of_mem_union hg with hself | hmember
    · exact .inl (List.mem_singleton.mp hself)
    · obtain ⟨m, hm, rfl⟩ := List.mem_map.mp hmember
      exact .inr hm

/-- The index of the files in a folder is well formed, and so whatever overrides a place, belongs to
its family, or is linked with a fix, the fix itself aside, is declared and in a file. -/
theorem index_wellFormed (h : ofFolder fs folder = .ok x) :
    x.WellFormed (SourceFile.below fs folder) ∧
    (∀ l m, m ∈ x.overriding l ∨ m ∈ x.family l → x.Finds m) ∧
    ∀ f, ∀ g ∈ x.linked none f, g = f ∨ x.Finds g.location := by
  have hx := wellFormed_ofFolder h
  have hoverriding : ∀ l, ∀ m ∈ x.overriding l, x.Finds m :=
    fun l m => hx.finds_counterpart subtypes_subset
  refine ⟨hx, fun l m hm => ?_, fun f g hg => ?_⟩
  · rcases hm with hoverrides | hfamily
    · exact hoverriding l m hoverrides
    · refine hx.finds_counterpart (fun t ht => ?_) hfamily
      rcases Keyed.mem_of_mem_union ht with hbelow | habove
      · exact subtypes_subset hbelow
      · exact supertypes_subset habove
  · exact (eq_or_mem_overriding hg).imp_right (hoverriding _ _)

/-- A class, and one that extends it and overrides its method. -/
def familySource : String :=
  "class Base:\n    def put(self, value):\n        self.stored = value\n\n" ++
  "class Leaf(Base):\n    def put(self, value):\n        pass\n"

/-- The method `put` of a class of the module. -/
def putMethod (typeName : String) : Location := ⟨⟨.method, typeName, "put", -1⟩, "m.py"⟩

/-- The method of the one class overrides that of the other. -/
def overridesPut : Except Text.Utf8Error ProgramIndex → Bool
  | .ok x => (x.overriding (putMethod "m.Base")).contains (putMethod "m.Leaf")
  | .error _ => false

theorem index_wellFormed_family :
    ∃ x, ofFolder (moduleOf familySource) ⟨false, []⟩ = .ok x ∧
      putMethod "m.Leaf" ∈ x.overriding (putMethod "m.Base") ∧ x.Finds (putMethod "m.Leaf") := by
  have hindex : overridesPut (ofFolder (moduleOf familySource) ⟨false, []⟩) = true := by
    decide +kernel
  unfold overridesPut at hindex
  split at hindex
  next x hx =>
    have hover : putMethod "m.Leaf" ∈ x.overriding (putMethod "m.Base") :=
      List.contains_iff_mem.mp hindex
    obtain ⟨-, hfound, -⟩ := index_wellFormed hx
    exact ⟨x, hx, hover, hfound _ _ (.inl hover)⟩
  next => cases hindex

end ProgramIndex
end FixTrial
