import FixTrial.Program.Survey
import Mathlib.Data.List.Basic

/-!
Where expressions occur in statements, and which of them a survey comes to. It follows every path but
those that lead into a class which is declared in a function.
-/
namespace FixTrial
namespace Source

/-- The expressions right below an expression. -/
def Expression.parts : Expression → List Expression
  | .name _ => []
  | .attribute value _ _ => [value]
  | .subscript value parts => value :: parts
  | .call function arguments => function :: arguments
  | .starred value => [value]
  | .tuple items => items
  | .list items => items
  | .compound parts => parts

/-- `e` is an expression, or stands somewhere below it. -/
inductive Expression.Within (e : Expression) : Expression → Prop
  | self : Within e e
  | deeper {part whole : Expression} (hpart : part ∈ whole.parts) (h : Within e part) :
      Within e whole

/-- What a place is in, by its name. -/
inductive Holder
  | type (name : String)
  | function (name : String)

namespace Statement

/-- What a statement opens around all that is in it. -/
def opens : Statement → List Holder
  | .function name _ _ _ => [.function name]
  | .classDef name _ _ _ => [.type name]
  | _ => []

/-- The expressions right below a statement. -/
def expressions : Statement → List Expression
  | .function _ _ parts _ => parts
  | .classDef _ bases parts _ => bases ++ parts
  | .assign targets value => targets ++ [value]
  | .annotated target parts => target :: parts
  | .compound parts _ => parts

/-- The statements right below a statement. -/
def body : Statement → List Statement
  | .function _ _ _ body => body
  | .classDef _ _ _ body => body
  | .compound _ body => body
  | _ => []

end Statement

/-- An expression occurs in statements, at the end of a path from the outside in. -/
inductive Occurs (e : Expression) : List Holder → List Statement → Prop
  | own {statements : List Statement} {st : Statement} {whole : Expression} (hst : st ∈ statements)
      (hwhole : whole ∈ st.expressions) (he : e.Within whole) : Occurs e st.opens statements
  | inner {statements : List Statement} {st : Statement} {path : List Holder}
      (hst : st ∈ statements) (h : Occurs e path st.body) :
      Occurs e (st.opens ++ path) statements

namespace Holder

/-- The classes that a path leads through before it comes to a function. -/
def classes : List Holder → List String
  | .type name :: rest => name :: classes rest
  | _ => []

/-- The outermost function on a path. -/
def outermost? : List Holder → Option String
  | [] => none
  | .type _ :: rest => outermost? rest
  | .function name :: _ => some name

/-- The region of a place: its class, and the outermost function around it. -/
def region (module : String) (path : List Holder) : Region :=
  ⟨".".intercalate (module :: classes path), (outermost? path).getD ""⟩

/-- On the path is a class that is declared in a function. -/
def HasLocalClass (path : List Holder) : Prop :=
  ∃ function type, List.Sublist [.function function, .type type] path

end Holder
end Source

open Source

/-! ### Facts of expressions -/

/-- The fact is a call, or a use of an attribute. -/
def Fact.IsMention : Fact → Prop
  | .call _ _ | .read _ _ | .write _ _ => True
  | _ => False

namespace Scope
variable {s : Scope} {fact : Fact} {e : Expression} {es : List Expression}

/-- What an expression tells by itself. -/
def ownFacts (s : Scope) : Expression → List Fact
  | .attribute value member use => s.attributeFacts value member use
  | .call function _ => s.callFacts function
  | _ => []

theorem mem_attributeFacts (fact : Fact) (hm : fact.IsMention) {value : Expression}
    {member : String} {use : Use} : fact ∈ s.attributeFacts value member use ↔
      (use = .read ∧ fact = .read member s.region) ∨
        use = .write ∧ fact = .write member s.region := by
  cases use with
  | read => simp [attributeFacts]
  | write =>
    have hdeclared : ∀ m, fact ≠ .field m := by
      rintro m rfl
      exact hm
    simp only [attributeFacts, List.mem_cons]
    split
    · split <;> simp [hdeclared]
    · simp

theorem call_mem_ownFacts {n : String} {r : Region} : .call n r ∈ s.ownFacts e ↔
    ∃ function arguments, e = .call function arguments ∧ function.simpleName? = some n ∧
      r = s.region := by
  constructor
  · intro h
    unfold ownFacts at h
    split at h
    next => simp [mem_attributeFacts (.call n r) trivial] at h
    next function arguments =>
      obtain ⟨name, hname, heq⟩ : ∃ name, function.simpleName? = some name ∧
          .call name s.region = Fact.call n r := by
        simpa [callFacts] using h
      cases heq
      exact ⟨function, arguments, rfl, hname, rfl⟩
    next => cases h
  · rintro ⟨function, arguments, rfl, hname, rfl⟩
    simp [ownFacts, callFacts, hname]

theorem use_mem_ownFacts {a : String} {r : Region} :
    (.read a r ∈ s.ownFacts e ∨ .write a r ∈ s.ownFacts e) ↔
      ∃ value use, e = .attribute value a use ∧ r = s.region := by
  constructor
  · intro h
    unfold ownFacts at h
    split at h
    next value member use =>
      rw [mem_attributeFacts (.read a r) trivial, mem_attributeFacts (.write a r) trivial] at h
      obtain (⟨-, heq⟩ | ⟨-, ⟨⟩⟩) | ⟨-, ⟨⟩⟩ | ⟨-, heq⟩ := h
      all_goals
        cases heq
        exact ⟨value, use, rfl, rfl⟩
    next => simp [callFacts] at h
    next => simp at h
  · rintro ⟨value, use, rfl, rfl⟩
    simp only [ownFacts, mem_attributeFacts (.read a s.region) trivial,
      mem_attributeFacts (.write a s.region) trivial]
    cases use <;> simp

theorem mem_expressionsFacts :
    fact ∈ s.expressionsFacts es ↔ ∃ e ∈ es, fact ∈ s.expressionFacts e := by
  induction es with
  | nil => simp [expressionsFacts]
  | cons e rest ih => rw [expressionsFacts, List.mem_append, ih, List.exists_mem_cons_iff]

theorem expressionsFacts_append (es es' : List Expression) :
    s.expressionsFacts (es ++ es') = s.expressionsFacts es ++ s.expressionsFacts es' := by
  induction es with
  | nil => rfl
  | cons e rest ih => simp [expressionsFacts, ih]

/-- An expression tells what it tells by itself, and what its parts tell. -/
theorem mem_expressionFacts : fact ∈ s.expressionFacts e ↔
    fact ∈ s.ownFacts e ∨ ∃ part ∈ e.parts, fact ∈ s.expressionFacts part := by
  cases e <;> simp [expressionFacts, ownFacts, Expression.parts, mem_expressionsFacts]

theorem mem_expressionFacts_of_within {whole : Expression} (h : e.Within whole)
    (hfact : fact ∈ s.ownFacts e) : fact ∈ s.expressionFacts whole := by
  induction h with
  | self => exact mem_expressionFacts.mpr (.inl hfact)
  | deeper hpart _ ih => exact mem_expressionFacts.mpr (.inr ⟨_, hpart, ih⟩)

theorem sizeOf_lt_of_mem_parts {part : Expression} (h : part ∈ e.parts) :
    sizeOf part < sizeOf e := by
  have hlist {es : List Expression} (h : part ∈ es) : sizeOf part < sizeOf es :=
    List.sizeOf_lt_of_mem h
  cases e <;> simp only [Expression.parts, List.mem_cons, List.not_mem_nil, or_false] at h <;> grind

theorem within_of_mem_expressionFacts {whole : Expression} (h : fact ∈ s.expressionFacts whole) :
    ∃ e : Expression, e.Within whole ∧ fact ∈ s.ownFacts e := by
  -- the parts are in lists, so that the recursion is on the size
  rcases mem_expressionFacts.mp h with hown | ⟨part, hpart, hfact⟩
  · exact ⟨whole, .self, hown⟩
  · obtain ⟨e, he, hown⟩ := within_of_mem_expressionFacts hfact
    exact ⟨e, .deeper hpart he, hown⟩
termination_by sizeOf whole
decreasing_by exact sizeOf_lt_of_mem_parts hpart

end Scope

/-! ### Facts of statements -/

namespace Scope
variable {s : Scope} {fact : Fact} {e : Expression} {st : Statement} {statements : List Statement}
  {path path' : List Holder}

def enter (s : Scope) : Holder → Scope
  | .type name => s.inClass name
  | .function name => s.inFunction name

/-- The scope at the end of a path. -/
def into (s : Scope) (path : List Holder) : Scope := path.foldl enter s

/-- A survey follows a path, unless it leads to a class in a function. -/
def Follows (s : Scope) : List Holder → Prop
  | [] => True
  | .type name :: rest => s.function = none ∧ (s.inClass name).Follows rest
  | .function name :: rest => (s.inFunction name).Follows rest

theorem into_append : s.into (path ++ path') = (s.into path).into path' := List.foldl_append ..

theorem follows_append :
    s.Follows (path ++ path') ↔ s.Follows path ∧ (s.into path).Follows path' := by
  induction path generalizing s with
  | nil => simp [Follows, into]
  | cons h rest ih =>
    cases h with
    | type name => exact (and_congr_right fun _ => ih).trans and_assoc.symm
    | function name => exact ih

theorem mem_statementsFacts :
    fact ∈ s.statementsFacts statements ↔ ∃ st ∈ statements, fact ∈ s.statementFacts st := by
  induction statements with
  | nil => simp [statementsFacts]
  | cons st rest ih => rw [statementsFacts, List.mem_append, ih, List.exists_mem_cons_iff]

/-- What a statement tells by itself. -/
def declaredFacts (s : Scope) : Statement → List Fact
  | .function name parameters _ _ =>
    if s.function.isNone then [.method ⟨s.typeName, name⟩ (s.parameters parameters)] else []
  | .classDef name bases _ body =>
    if s.function.isSome then []
    else .type (s.inClass name).typeName (bases.filterMap Expression.simpleName?) ::
      (body.flatMap Statement.fieldNames).map fun n => .field ⟨(s.inClass name).typeName, n⟩
  | _ => []

/-- A statement tells what it tells by itself, and what is told right below it, unless it is a class
in a function. -/
theorem mem_statementFacts_iff : fact ∈ s.statementFacts st ↔ fact ∈ s.declaredFacts st ∨
    s.Follows st.opens ∧ (fact ∈ (s.into st.opens).expressionsFacts st.expressions ∨
      fact ∈ (s.into st.opens).statementsFacts st.body) := by
  cases st with
  | function name parameters parts body =>
    have hfollows : s.Follows (Statement.function name parameters parts body).opens := trivial
    simp only [statementFacts, declaredFacts, List.mem_append, or_assoc, hfollows, true_and]
    rfl
  | classDef name bases parts body =>
    cases hf : s.function with
    | some function => simp [statementFacts, declaredFacts, Statement.opens, Follows, hf]
    | none =>
      have hfollows : s.Follows (Statement.classDef name bases parts body).opens := ⟨hf, trivial⟩
      simp only [statementFacts, declaredFacts, hf, Option.isSome_none, Bool.false_eq_true, if_false,
        List.cons_append, List.mem_cons, List.mem_append, hfollows, true_and,
        Statement.expressions, expressionsFacts_append, or_assoc]
      rfl
  | assign targets value =>
    simp [statementFacts, declaredFacts, Statement.opens, Statement.expressions, Statement.body,
      Follows, into, expressionsFacts_append, expressionsFacts, statementsFacts]
  | annotated target parts =>
    simp [statementFacts, declaredFacts, Statement.opens, Statement.expressions, Statement.body,
      Follows, into, expressionsFacts, statementsFacts]
  | compound parts body =>
    simp only [statementFacts, declaredFacts, List.not_mem_nil, false_or, List.mem_append]
    exact (iff_of_eq (true_and _)).symm

/-- By itself a statement mentions nothing. -/
theorem not_mem_declaredFacts (hm : fact.IsMention) : fact ∉ s.declaredFacts st := by
  intro h
  unfold declaredFacts at h
  split at h
  next =>
    split at h
    next =>
      obtain rfl := List.mem_singleton.mp h
      exact hm
    next => cases h
  next =>
    split at h
    next => cases h
    next =>
      rcases List.mem_cons.mp h with rfl | hfield
      · exact hm
      · obtain ⟨n, -, rfl⟩ := List.mem_map.mp hfield
        exact hm
  next => cases h

theorem mem_statementFacts (hm : fact.IsMention) : fact ∈ s.statementFacts st ↔
    s.Follows st.opens ∧ (fact ∈ (s.into st.opens).expressionsFacts st.expressions ∨
      fact ∈ (s.into st.opens).statementsFacts st.body) := by
  rw [mem_statementFacts_iff, or_iff_right (not_mem_declaredFacts hm)]

theorem sizeOf_lt_of_mem_body {inner : Statement} (h : inner ∈ st.body) :
    sizeOf inner < sizeOf st := by
  have hlist : sizeOf inner < sizeOf st.body := List.sizeOf_lt_of_mem h
  cases st <;> simp only [Statement.body, List.not_mem_nil] at h hlist <;> grind

theorem mem_statementFacts_of_occurs (hm : fact.IsMention) (h : Occurs e path statements)
    (hfollows : s.Follows path) (hfact : fact ∈ (s.into path).ownFacts e) :
    fact ∈ s.statementsFacts statements := by
  induction h generalizing s with
  | own hst hwhole he =>
    refine mem_statementsFacts.mpr ⟨_, hst, (mem_statementFacts hm).mpr ⟨hfollows, .inl ?_⟩⟩
    exact mem_expressionsFacts.mpr ⟨_, hwhole, mem_expressionFacts_of_within he hfact⟩
  | inner hst _ ih =>
    rw [follows_append] at hfollows
    rw [into_append] at hfact
    refine mem_statementsFacts.mpr ⟨_, hst, (mem_statementFacts hm).mpr ⟨hfollows.1, .inr ?_⟩⟩
    exact ih hfollows.2 hfact

theorem occurs_of_mem_statementFacts {s : Scope} {st : Statement} {statements : List Statement}
    (hm : fact.IsMention) (hst : st ∈ statements) (hfact : fact ∈ s.statementFacts st) :
    ∃ path e, Occurs e path statements ∧ s.Follows path ∧ fact ∈ (s.into path).ownFacts e := by
  obtain ⟨hfollows, hexpression | hbody⟩ := (mem_statementFacts hm).mp hfact
  · obtain ⟨whole, hwhole, hfact⟩ := mem_expressionsFacts.mp hexpression
    obtain ⟨e, he, hown⟩ := within_of_mem_expressionFacts hfact
    exact ⟨_, e, .own hst hwhole he, hfollows, hown⟩
  · obtain ⟨inner, hinner, hfact⟩ := mem_statementsFacts.mp hbody
    obtain ⟨path, e, hoccurs, hrest, hown⟩ := occurs_of_mem_statementFacts hm hinner hfact
    refine ⟨_, e, .inner hst hoccurs, follows_append.mpr ⟨hfollows, hrest⟩, ?_⟩
    rwa [into_append]
termination_by sizeOf st
decreasing_by exact sizeOf_lt_of_mem_body hinner

/-- Statements mention exactly what is mentioned at the end of a path that a survey follows. -/
theorem mem_statementsFacts_iff_occurs (hm : fact.IsMention) : fact ∈ s.statementsFacts statements ↔
    ∃ path e, Occurs e path statements ∧ s.Follows path ∧ fact ∈ (s.into path).ownFacts e := by
  constructor
  · intro h
    obtain ⟨st, hst, hfact⟩ := mem_statementsFacts.mp h
    exact occurs_of_mem_statementFacts hm hst hfact
  · rintro ⟨path, e, hoccurs, hfollows, hfact⟩
    exact mem_statementFacts_of_occurs hm hoccurs hfollows hfact

end Scope

/-! ### Paths -/

namespace Source.Holder
variable {rest : List Holder}

theorem hasLocalClass_type {name : String} :
    HasLocalClass (.type name :: rest) ↔ HasLocalClass rest := by
  refine exists_congr fun function => exists_congr fun type => ⟨fun h => ?_, fun h => h.cons _⟩
  cases h with
  | cons _ h => exact h

theorem hasLocalClass_function {name : String} :
    HasLocalClass (.function name :: rest) ↔ ∃ type, .type type ∈ rest := by
  constructor
  · rintro ⟨function, type, h⟩
    refine ⟨type, ?_⟩
    cases h with
    | cons _ h => exact h.subset (by simp)
    | cons_cons _ h => exact List.singleton_sublist.mp h
  · rintro ⟨type, h⟩
    exact ⟨name, type, (List.singleton_sublist.mpr h).cons_cons _⟩

end Source.Holder

namespace Scope
variable {s : Scope} {path : List Holder} {function : String}

theorem function_inFunction (h : s.function = none) (name : String) :
    (s.inFunction name).function = some name := by
  rw [inFunction, h]
  rfl

theorem into_of_function (h : s.function = some function) (htypes : ¬ ∃ type, .type type ∈ path) :
    s.into path = s := by
  induction path with
  | nil => rfl
  | cons holder rest ih =>
    have hrest : ¬ ∃ type, .type type ∈ rest := fun ⟨type, hmem⟩ => htypes ⟨type, .tail _ hmem⟩
    cases holder with
    | type name => exact absurd ⟨name, List.mem_cons_self⟩ htypes
    | function name =>
      have hsame : s.inFunction name = s := by
        cases s
        cases h
        rfl
      change (s.inFunction name).into rest = s
      rw [hsame, ih hrest]

theorem follows_of_function (h : s.function = some function) :
    s.Follows path ↔ ¬ ∃ type, .type type ∈ path := by
  induction path generalizing s with
  | nil => simp [Follows]
  | cons holder rest ih =>
    cases holder with
    | type name => simp [Follows, h]
    | function name =>
      rw [Follows, ih (by simp [inFunction, h])]
      simp

/-- Outside of a function, a survey follows the paths without a local class. -/
theorem follows_iff (h : s.function = none) : s.Follows path ↔ ¬ Holder.HasLocalClass path := by
  induction path generalizing s with
  | nil => simp [Follows, Holder.HasLocalClass]
  | cons holder rest ih =>
    cases holder with
    | type name =>
      rw [Follows, ih (s := s.inClass name) h, Holder.hasLocalClass_type, and_iff_right h]
    | function name =>
      rw [Follows, Holder.hasLocalClass_function]
      exact follows_of_function (function_inFunction h name)

theorem region_into (h : s.function = none) (hlocal : ¬ Holder.HasLocalClass path) :
    (s.into path).region = ⟨".".intercalate (s.module :: (s.classes ++ Holder.classes path)),
      (Holder.outermost? path).getD ""⟩ := by
  induction path generalizing s with
  | nil => simp [into, region, typeName, h, Holder.classes, Holder.outermost?]
  | cons holder rest ih =>
    cases holder with
    | type name =>
      have hrest := ih (s := s.inClass name) h (Holder.hasLocalClass_type.not.mp hlocal)
      rw [inClass, List.append_assoc] at hrest
      exact hrest
    | function name =>
      have hstays : s.into (.function name :: rest) = s.inFunction name :=
        into_of_function (function_inFunction h name) (Holder.hasLocalClass_function.not.mp hlocal)
      simp [hstays, region, typeName, inFunction, h, Holder.classes, Holder.outermost?]

end Scope
end FixTrial
