import FixTrial.Config.Reader
import FixTrial.Proofs.Except

/-!
What can be wrong with a configuration. The faults of a mapping are listed in the order in which
they are met, and reading ends with the first of them. A section that is none and a negative depth
are refused for their values; most settings of a wrong type are not refused but break off the
reading.
-/
namespace FixTrial

/-- A whole number that is not negative. A truth value counts as one or zero. -/
def Depth.IsCount : Depth → Prop
  | .whole n => 0 ≤ n
  | .flag _ => True
  | .fraction _ => False

namespace Config
variable {data es : Entries} {c : Config} {x : ExplorationSettings} {name : String}

/-- The faults of a section: `within` lists those of its entries. One that is absent or empty has no
entries. -/
def sectionFaults (data : Entries) (name : String) (within : Entries → List ConfigError) :
    List ConfigError :=
  match (Yaml.find? name data).getD .null with
  | .map es => within es
  | v => if v.isTruthy then [.sectionNotMapping name] else within []

def depthFault? : Yaml → Option ConfigError
  | .bool _ => none
  | .int n => if n < 0 then some .negativeDepth else none
  | .float x => if x < 0.0 then some .negativeDepth else none
  | _ => some .depthNotNumber

def codeFault? : Yaml → Option ConfigError
  | .bool _ | .int _ => none
  | .float x =>
    if (Decimal.truncated? x).isSome then none
    else some (if x.isNaN then .codeNotANumber else .codeInfinite)
  | .text s => (error? (Yaml.decimal s.toList)).map .codeMalformed
  | .bytes bs => (error? (Yaml.decimalOfBytes bs)).map .codeMalformed
  | _ => some .codeNotNumber

def moduleFault? : Yaml → Option ConfigError
  | .map es =>
    if ["name", "workspace", "build_cmd"].all fun name => (Yaml.find? name es).isSome then none
    else some .moduleIncomplete
  | _ => some .moduleNotMapping

/-- The faults of a list of settings: those of its parts in turn, if it has parts. -/
def listFaults (v : Yaml) (notListed : ConfigError) (partFault? : Yaml → Option ConfigError) :
    List ConfigError :=
  match v.parts? with
  | some parts => parts.filterMap partFault?
  | none => [notListed]

/-- The faults of a list of settings that may be left out, or given as a value that counts for
nothing. -/
def optionalFaults (v : Yaml) (notListed : ConfigError) (partFault? : Yaml → Option ConfigError) :
    List ConfigError :=
  if v.isTruthy then listFaults v notListed partFault? else []

def explorationFaults (es : Entries) : List ConfigError :=
  ((Yaml.find? "depth" es).bind depthFault?).toList

def buildFaults (es : Entries) : List ConfigError :=
  match Yaml.find? "ok_returncodes" es with
  | none => []
  | some v => listFaults v .codesNotListed codeFault?

def downstreamFaults (es : Entries) : List ConfigError :=
  optionalFaults (setting es "modules" .null) .modulesNotListed moduleFault?

def regionFaults (es : Entries) : List ConfigError :=
  optionalFaults (setting es "generated_code" .null) .detectorsNotListed fun _ => none

/-- All that is wrong with a mapping, in the order in which it is read. -/
def faults (data : Entries) : List ConfigError :=
  sectionFaults data "explorer" explorationFaults ++
    (sectionFaults data "verifier" buildFaults ++
      (sectionFaults data "downstream" downstreamFaults ++
        (sectionFaults data "regions" regionFaults ++
          sectionFaults data "logging" fun _ => [])))

theorem error?_explorationOf : error? (explorationOf es) = (explorationFaults es).head? := by
  unfold explorationOf explorationFaults
  cases Yaml.find? "depth" es with
  | none => rfl
  | some v =>
    cases v with
    | int n =>
      by_cases hn : n < 0 <;> simp [Depth.ofYaml?, Depth.isNegative, depthFault?, hn] <;> rfl
    | float x =>
      by_cases hx : x < 0.0 <;> simp [Depth.ofYaml?, Depth.isNegative, depthFault?, hx] <;> rfl
    | _ => rfl

theorem error?_codeOf (v : Yaml) : error? (codeOf v) = codeFault? v := by
  cases v with
  | float x => cases h : Decimal.truncated? x <;> simp [codeOf, codeFault?, error?, h]
  | text s => exact error?_mapError
  | bytes bs => exact error?_mapError
  | _ => rfl

theorem error?_moduleOf (v : Yaml) : error? (moduleOf v) = moduleFault? v := by
  cases v with
  | map es =>
    cases hname : Yaml.find? "name" es <;> cases hworkspace : Yaml.find? "workspace" es <;>
      cases hcommand : Yaml.find? "build_cmd" es <;>
      simp [moduleOf, moduleFault?, error?, hname, hworkspace, hcommand]
  | _ => rfl

theorem error?_codesOf (v : Yaml) :
    error? (codesOf v) = (listFaults v .codesNotListed codeFault?).head? := by
  unfold codesOf listFaults
  cases v.parts? with
  | none => rfl
  | some parts => exact error?_mapM error?_codeOf parts

theorem error?_buildOf : error? (buildOf es) = (buildFaults es).head? := by
  unfold buildOf buildFaults
  cases Yaml.find? "ok_returncodes" es with
  | none => rfl
  | some v => exact error?_bind_pure.trans (error?_codesOf v)

/-- Parts that are read one by one, where nothing need be said. -/
theorem error?_partsOf {β : Type} {read : Yaml → Except ConfigError β}
    {partFault? : Yaml → Option ConfigError} (hread : ∀ v, error? (read v) = partFault? v)
    (v : Yaml) (notListed : ConfigError) :
    error? (partsOf v notListed >>= fun parts => parts.mapM read) =
      (optionalFaults v notListed partFault?).head? := by
  unfold partsOf optionalFaults listFaults
  cases v.isTruthy with
  | false => rfl
  | true =>
    cases v.parts? with
    | none => rfl
    | some parts => exact error?_mapM hread parts

theorem error?_downstreamOf : error? (downstreamOf es) = (downstreamFaults es).head? := by
  have hparts := error?_partsOf error?_moduleOf (setting es "modules" .null) .modulesNotListed
  unfold downstreamOf
  rw [← bind_assoc]
  exact error?_bind_pure.trans hparts

theorem error?_regionsOf : error? (regionsOf es) = (regionFaults es).head? := by
  unfold regionsOf regionFaults optionalFaults listFaults partsOf
  cases (setting es "generated_code" .null).isTruthy with
  | false => rfl
  | true =>
    cases (setting es "generated_code" .null).parts? with
    | none => rfl
    | some parts =>
      have hnone : parts.filterMap (fun _ => (none : Option ConfigError)) = [] := by simp
      exact (congrArg List.head? hnone).symm

/-- A section is read or refused as a whole, and its faults are those of what is read. -/
theorem section?_cases (data : Entries) (name : String) :
    (∃ es, section? data name = .ok es ∧ ∀ within, sectionFaults data name within = within es) ∨
      (section? data name = .error (.sectionNotMapping name) ∧
        ∀ within, sectionFaults data name within = [.sectionNotMapping name]) := by
  unfold section? sectionFaults
  generalize (Yaml.find? name data).getD .null = v
  cases v with
  | map es => exact .inl ⟨es, rfl, fun _ => rfl⟩
  | _ =>
    dsimp only
    split
    · exact .inr ⟨rfl, fun _ => rfl⟩
    · exact .inl ⟨[], rfl, fun _ => rfl⟩

/-- A section that is read, and what is read after it. -/
theorem error?_section {α β : Type} {read : Entries → Except ConfigError α}
    {within : Entries → List ConfigError} {next : α → Except ConfigError β}
    {rest : List ConfigError} (hread : ∀ es, error? (read es) = (within es).head?)
    (hnext : ∀ a, error? (next a) = rest.head?) :
    error? (section? data name >>= fun es => read es >>= next) =
      (sectionFaults data name within ++ rest).head? := by
  rcases section?_cases data name with ⟨es, hes, hfaults⟩ | ⟨hes, hfaults⟩
  · rw [hes, hfaults]
    change error? (read es >>= next) = _
    exact error?_bind (hread es) hnext
  · rw [hes, hfaults]
    rfl

/-- Reading ends with the first fault. -/
theorem error?_ofEntries (data : Entries) : error? (ofEntries data) = (faults data).head? := by
  unfold ofEntries faults
  refine error?_section (fun _ => error?_explorationOf) fun exploration => ?_
  refine error?_section (fun _ => error?_buildOf) fun build => ?_
  refine error?_section (fun _ => error?_downstreamOf) fun downstream => ?_
  refine error?_section (fun _ => error?_regionsOf) fun regions => ?_
  rcases section?_cases data "logging" with ⟨es, hes, hfaults⟩ | ⟨hes, hfaults⟩ <;>
    rw [hes, hfaults] <;> rfl

/-- The depth that a mapping gives, if it gives one. -/
def givenDepth (data : Entries) : Option Yaml :=
  match (Yaml.find? "explorer" data).getD .null with
  | .map es => Yaml.find? "depth" es
  | _ => none

/-- What a mapping is read to: a configuration with a depth that counts levels, or an error about a
value. -/
def Promised (data : Entries) : Prop :=
  (∃ c, ofEntries data = .ok c ∧ c.exploration.depth.IsCount) ∨
    ∃ e, ofEntries data = .error e ∧ e.kind = .value

theorem givenDepth_of_section (h : section? data "explorer" = .ok es) :
    givenDepth data = Yaml.find? "depth" es := by
  unfold section? at h
  unfold givenDepth
  generalize (Yaml.find? "explorer" data).getD .null = v at h ⊢
  cases v with
  | map entries =>
    cases h
    rfl
  | _ =>
    dsimp only at h ⊢
    split at h
    · cases h
    · cases h
      rfl

/-- The depth of an exploration is the one that is given, if one is, and not negative. -/
theorem depth_of_explorationOf (h : explorationOf es = .ok x) :
    x.depth.isNegative = false ∧
      ((Yaml.find? "depth" es = none ∧ x.depth = defaultDepth) ∨
        ∃ v, Yaml.find? "depth" es = some v ∧ Depth.ofYaml? v = some x.depth) := by
  unfold explorationOf at h
  cases hgiven : Yaml.find? "depth" es with
  | none =>
    rw [hgiven] at h
    cases h
    exact ⟨rfl, .inl ⟨rfl, rfl⟩⟩
  | some v =>
    rw [hgiven] at h
    dsimp only at h
    split at h
    next d hd =>
      change (if d.isNegative then _ else _) = _ at h
      split at h
      · cases h
      next hneg =>
        cases h
        exact ⟨Bool.eq_false_iff.mpr hneg, .inr ⟨v, rfl, hd⟩⟩
    next => cases h

theorem isCount_iff_of_ofYaml? {v : Yaml} {d : Depth} (hd : Depth.ofYaml? v = some d)
    (hneg : d.isNegative = false) : d.IsCount ↔ ∀ y, v ≠ .float y := by
  cases v with
  | int n =>
    obtain rfl : Depth.whole n = d := Option.some.inj hd
    have hn : 0 ≤ n := by simpa [Depth.isNegative] using hneg
    exact iff_of_true hn nofun
  | bool b =>
    obtain rfl : Depth.flag b = d := Option.some.inj hd
    exact iff_of_true trivial nofun
  | float y =>
    obtain rfl : Depth.fraction y = d := Option.some.inj hd
    exact iff_of_false not_false fun h => h y rfl
  | _ => cases hd

/-- A depth that is accepted counts levels unless a fraction is given. -/
theorem isCount_iff_of_ofEntries (h : ofEntries data = .ok c) :
    c.exploration.depth.IsCount ↔ ∀ y, givenDepth data ≠ some (.float y) := by
  unfold ofEntries at h
  obtain ⟨es, hes, h⟩ := bind_eq_ok_iff.mp h
  obtain ⟨x, hx, h⟩ := bind_eq_ok_iff.mp h
  have hc : c.exploration = x := by
    -- what the other sections are read to is set beside the exploration
    iterate 7 obtain ⟨_, -, h⟩ := bind_eq_ok_iff.mp h
    cases h
    rfl
  rw [hc, givenDepth_of_section hes]
  obtain ⟨hneg, ⟨hgiven, hdepth⟩ | ⟨v, hgiven, hdepth⟩⟩ := depth_of_explorationOf hx
  · rw [hgiven, hdepth]
    exact iff_of_true (by decide : (0 : Int) ≤ 5) nofun
  · rw [hgiven, isCount_iff_of_ofYaml? hdepth hneg]
    simp

/-- Whatever values a mapping holds, reading it ends with the first of its faults, and with a
configuration exactly if it has none. So it keeps the promise exactly if its first fault is about a
value, or if it has no fault and its depth is no fraction. -/
theorem first_fault_decides (data : Entries) :
    (∀ e, ofEntries data = .error e ↔ (faults data).head? = some e) ∧
    ((∃ c, ofEntries data = .ok c) ↔ faults data = []) ∧
    (Promised data ↔ (∃ e, (faults data).head? = some e ∧ e.kind = .value) ∨
      faults data = [] ∧ ∀ y, givenDepth data ≠ some (.float y)) := by
  have herror : ∀ e, ofEntries data = .error e ↔ (faults data).head? = some e := by
    intro e
    rw [← error?_ofEntries, error?_eq_some_iff]
  have hok : (∃ c, ofEntries data = .ok c) ↔ faults data = [] := by
    rw [← error?_eq_none_iff, error?_ofEntries, List.head?_eq_none_iff]
  refine ⟨herror, hok, ?_⟩
  unfold Promised
  rw [or_comm]
  refine or_congr (exists_congr fun e => and_congr_left fun _ => herror e) ?_
  rw [← hok, ← exists_and_right]
  exact exists_congr fun c => and_congr_right isCount_iff_of_ofEntries

/-- A depth below zero beside a module that is no mapping. The depth is read first, so the mapping
is refused for it. -/
theorem first_fault_decides_twofold :
    (faults [(.text "downstream", .map [(.text "modules", .list [.int 1])]),
      (.text "explorer", .map [(.text "depth", .int (-1))])]).map ConfigError.kind =
        [.value, .attribute] ∧
    Promised [(.text "downstream", .map [(.text "modules", .list [.int 1])]),
      (.text "explorer", .map [(.text "depth", .int (-1))])] :=
  ⟨rfl, (first_fault_decides _).2.2.mpr (.inl ⟨.negativeDepth, rfl, rfl⟩)⟩

/-- A depth in words is not refused: it breaks off the reading with an error about its type. -/
theorem depth_in_words_not_refused :
    ofEntries [(.text "explorer", .map [(.text "depth", .text "two")])] = .error .depthNotNumber ∧
    ConfigError.kind .depthNotNumber = .type ∧
    ¬ Promised [(.text "explorer", .map [(.text "depth", .text "two")])] := by
  have hread : ofEntries [(.text "explorer", .map [(.text "depth", .text "two")])] =
      .error .depthNotNumber := rfl
  refine ⟨hread, rfl, ?_⟩
  rintro (⟨c, hc, -⟩ | ⟨e, he, hkind⟩)
  · rw [hread] at hc
    cases hc
  · rw [hread] at he
    cases he
    cases hkind

end Config
end FixTrial
