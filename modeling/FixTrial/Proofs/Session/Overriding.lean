import FixTrial.Proofs.Exploration.Twins
import FixTrial.Proofs.Session.Options
import FixTrial.Scripted.PatchTree
import FixTrial.Session.Basic

/-!
A depth and a mode on the command line, and the same in the file of the configuration. A session of
the one is the session of the other, but that only the file is checked for a negative depth.
-/
namespace FixTrial

namespace Config
variable {fs : Files} {path : Option String} {data data' es es' : Entries} {name m : String} {n : Int}
  {c : Config} {x : ExplorationSettings}

/-- The file at a path, or where one is looked for without a path, holds a mapping. -/
def Holds (fs : Files) (path : Option String) (data : Entries) : Prop :=
  ∃ content text, fs.get? (Path.ofString (path.getD defaultPath)) = some content ∧
    content.read = .ok text ∧ Yaml.read text = .ok (.map data)

theorem load_of_holds (h : Holds fs path data) :
    load fs path = (ofEntries data).mapError .config := by
  obtain ⟨content, text, hcontent, htext, hdata⟩ := h
  unfold load
  simp only [hcontent, htext]
  change ofText text = _
  unfold ofText
  rw [hdata]
  rfl

/-- The section of the exploration asks for a depth and a mode, and for nothing else than another one
does. -/
structure Redirects (es es' : Entries) (n : Int) (m : String) : Prop where
  depth : Yaml.find? "depth" es' = some (.int n)
  mode : Yaml.find? "mode" es' = some (.text m)
  rest : ∀ name, name ≠ "depth" → name ≠ "mode" → Yaml.find? name es' = Yaml.find? name es

/-- A mapping asks for a depth and a mode, and for nothing else than another one does. -/
structure Asks (data data' : Entries) (n : Int) (m : String) : Prop where
  explorer : ∃ es es', section? data "explorer" = .ok es ∧ section? data' "explorer" = .ok es' ∧
    Redirects es es' n m
  rest : ∀ name, name ≠ "explorer" → Yaml.find? name data' = Yaml.find? name data

theorem setting_congr {missing : Yaml} (h : Yaml.find? name es' = Yaml.find? name es) :
    setting es' name missing = setting es name missing := by
  rw [setting, h, setting]

theorem section?_congr (h : Yaml.find? name data' = Yaml.find? name data) :
    (section? data' name) = section? data name := by
  rw [section?, h, section?]

/-- Nothing but the depth of an exploration may be refused. -/
theorem eq_of_explorationOf (h : explorationOf es = .ok x) :
    x = ⟨x.depth, setting es "mode" default.exploration.mode,
      setting es "retry_failed_as_singletons" default.exploration.retry,
      setting es "link_overrides" default.exploration.linking⟩ := by
  unfold explorationOf at h
  dsimp only at h
  split at h
  on_goal 2 => split at h
  all_goals
    obtain ⟨depth, -, h⟩ := bind_eq_ok_iff.mp h
    split at h
    · cases h
    · cases h
      rfl

theorem explorationOf_of_redirects (h : Redirects es es' n m) (hx : explorationOf es = .ok x) :
    explorationOf es' = if n < 0 then .error .negativeDepth
      else .ok { x with depth := .whole n, mode := .text m } := by
  have hmode : setting es' "mode" default.exploration.mode = .text m := by
    rw [setting, h.mode, Option.getD_some]
  rw [eq_of_explorationOf hx,
    ← setting_congr (h.rest "retry_failed_as_singletons" (by decide) (by decide)),
    ← setting_congr (h.rest "link_overrides" (by decide) (by decide))]
  unfold explorationOf
  simp only [h.depth, Depth.ofYaml?, hmode]
  change (if decide (n < 0) = true then _ else _) = _
  simp only [decide_eq_true_eq]
  rfl

/-- What is asked for is what overrides the configuration, if the depth is not negative. -/
theorem ofEntries_of_asks (h : Asks data data' n m) (hc : ofEntries data = .ok c) :
    ofEntries data' = if n < 0 then .error .negativeDepth
      else .ok (c.override (some n) (some m)) := by
  obtain ⟨es, es', hes, hes', hredirects⟩ := h.explorer
  have hrest : ∀ name, name ≠ "explorer" → section? data' name = section? data name :=
    fun name hname => section?_congr (h.rest name hname)
  unfold ofEntries at hc ⊢
  rw [hrest "verifier" (by decide), hrest "downstream" (by decide), hrest "regions" (by decide),
    hrest "logging" (by decide), hes']
  obtain ⟨es₁, hes₁, hc⟩ := bind_eq_ok_iff.mp hc
  obtain rfl : es = es₁ := Except.ok.inj (hes.symm.trans hes₁)
  obtain ⟨x, hx, hc⟩ := bind_eq_ok_iff.mp hc
  change (explorationOf es' >>= _) = _
  rw [explorationOf_of_redirects hredirects hx]
  split_ifs
  · rfl
  · -- the sections of the build, of the modules, of the regions and of the runs
    change (section? data "verifier" >>= _) = _
    iterate 7 refine bind_eq_ok_of hc fun _ hc => ?_
    cases hc
    rfl

/-- A mapping that says nothing but how deep to explore, and in which mode. -/
def saying (n : Int) (m : String) : Entries :=
  [(.text "explorer", .map [(.text "depth", .int n), (.text "mode", .text m)])]

theorem asks_saying {k : Int} {l : String} (rest : Entries) :
    Asks (saying k l ++ rest) (saying n m ++ rest) n m where
  explorer := ⟨_, _, rfl, rfl, rfl, rfl, fun name hdepth hmode => by
    simp [Yaml.find?, hdepth.symm, hmode.symm]⟩
  rest name hname := by simp [saying, Yaml.find?, hname.symm]

/-- How to build, where dependent modules count and there are none. -/
def building : Entries :=
  [(.text "verifier", .map [(.text "build_cmd", .text "make")]),
    (.text "downstream", .map [(.text "enabled", .bool true)])]

def isBuilding : Entries → Bool
  | [(.text "verifier", .map [(.text "build_cmd", .text "make")]),
      (.text "downstream", .map [(.text "enabled", .bool true)])] => true
  | _ => false

theorem eq_building (h : isBuilding es = true) : es = building := by
  unfold isBuilding at h
  split at h
  · rfl
  · cases h

/-- A file holds a mapping where it says so much and no more. -/
theorem holds_saying {text : String} {rest : Entries} {isRest : Entries → Bool}
    (hrest : ∀ es, isRest es = true → es = rest) (n : Int) (m : String)
    (hfile : fs.get? (Path.ofString (path.getD defaultPath)) = some (.text text))
    (htext : (Content.text text).read = .ok text)
    (hread : (match Yaml.read text with
      | .ok (.map ((.text "explorer", .map [(.text "depth", .int k), (.text "mode", .text l)]) ::
          es)) => k == n && l == m && isRest es
      | _ => false) = true) :
    Holds fs path (saying n m ++ rest) := by
  refine ⟨.text text, text, hfile, htext, ?_⟩
  split at hread
  next h =>
    obtain ⟨hsaid, hmore⟩ := Bool.and_eq_true_iff.mp hread
    obtain ⟨hn, hm⟩ := Bool.and_eq_true_iff.mp hsaid
    rw [h, eq_of_beq hn, eq_of_beq hm, hrest _ hmore]
    rfl
  next => cases hread

end Config

/-- The error is one that can only come up after the configuration has been loaded. -/
def SessionError.IsLate : SessionError → Prop
  | .usage _ | .config _ => False
  | _ => True

namespace Session
variable {σ α β ε : Type} {runner : Runner σ} {args args' : List String} {runName : String}
  {s s' : Session σ} {c : Config} {r : Request} {e : SessionError}

/-- A result whose error, if it is one, is late. -/
def LateEnd (x : Except SessionError α) : Prop := ∀ e, x = .error e → e.IsLate

namespace LateEnd
variable {x : Except SessionError α} {f : α → Except SessionError β} {y : Except ε α}
  {error : ε → SessionError}

theorem of_ok {a : α} : LateEnd (.ok a) := fun _ h => nomatch h

theorem of_error (he : e.IsLate) : LateEnd (.error e : Except SessionError α) := by
  intro e' h
  cases h
  exact he

theorem bind (hx : LateEnd x) (hf : ∀ a, LateEnd (f a)) : LateEnd (x >>= f) := by
  cases x with
  | error e => exact of_error (hx e rfl)
  | ok a => exact hf a

theorem mapError (he : ∀ e, (error e).IsLate) : LateEnd (y.mapError error) := by
  cases y with
  | error e => exact of_error (he e)
  | ok a => exact of_ok

end LateEnd

/-- A step that ends in late errors only. -/
def Late (x : Step σ α) : Prop := ∀ s e s', x s = .error e s' → e.IsLate

namespace Late
variable {x : Step σ α} {f : α → Step σ β}

theorem of_pure {a : α} : Late (pure a : Step σ α) := fun _ _ _ h => nomatch h

theorem of_throw (he : e.IsLate) : Late (throw e : Step σ α) := by
  intro s e' s' h
  cases h
  exact he

theorem bind (hx : Late x) (hf : ∀ a, Late (f a)) : Late (x >>= f) := by
  intro s e s' h
  change EStateM.bind x f s = _ at h
  unfold EStateM.bind at h
  split at h
  next a s₁ _ => exact hf a s₁ e s' h
  next hr =>
    cases h
    exact hx s _ _ hr

theorem of_get {f : Session σ → Step σ β} (hf : ∀ s, Late (f s)) : Late (get >>= f) :=
  bind (fun _ _ _ h => nomatch h) hf

theorem of_set {s : Session σ} : Late (set s : Step σ Unit) := fun _ _ _ h => nomatch h

theorem ofExcept {y : Except SessionError α} (hy : LateEnd y) :
    Late (ofExcept id y : Step σ α) := by
  cases y with
  | ok a => exact of_pure
  | error e => exact of_throw (hy e rfl)

theorem trial (act : Act (Trial (Tracked (Host σ))) α) : Late (trial act) := by
  intro s e s' h
  unfold Session.trial at h
  split at h
  · cases h
  · cases h
    trivial

end Late

theorem late_openRun (log : LogSettings) (name : String) : Late (openRun log name : Step σ Unit) := by
  unfold openRun
  split
  all_goals
    refine .bind ?_ fun folder => .of_get fun s => ?_
    rotate_left
    · split
      · exact .of_throw trivial
      · exact .of_set
  · exact .of_pure
  · exact .of_throw trivial

theorem late_writeReports (out : String) (reports : List Report) :
    Late (writeReports out reports : Step σ Unit) := by
  refine .of_get fun s => ?_
  split
  · exact .of_throw trivial
  · exact .of_set

theorem lateEnd_loadTable (fs : Files) (path : Yaml) : LateEnd (loadTable fs path) := by
  unfold loadTable
  split
  · split
    · exact .of_ok
    · split
      · exact .of_error trivial
      · exact .bind (.mapError fun _ => trivial) fun _ =>
          .bind (.mapError fun _ => trivial) fun _ => .of_ok
  · split
    · exact .of_error trivial
    · exact .of_ok

theorem lateEnd_contextOf (workspace : String) (fs : Files) :
    LateEnd (contextOf runner c workspace fs) :=
  .bind (.mapError fun _ => trivial) fun _ => .bind (lateEnd_loadTable fs _) fun _ =>
    .bind (.mapError fun _ => trivial) fun _ => .bind (.mapError fun _ => trivial) fun _ => .of_ok

theorem late_runWith : Late (runWith runner c r runName) := by
  refine .bind (late_openRun _ _) fun _ => ?_
  split
  · exact .of_get fun s => .bind (.ofExcept (lateEnd_contextOf _ _)) fun ctx =>
      .bind (.trial _) fun reports => late_writeReports _ _
  · exact .of_throw trivial

/-- What the command line asks for overrides the configuration once that has been loaded. -/
theorem run_of_config (hargs : Request.ofArguments args = .ok r)
    (hload : Config.load s.host.files r.config = .ok c) :
    run runner args runName s = runWith runner (c.override r.depth r.mode) r runName s := by
  unfold run
  rw [hargs]
  change EStateM.bind (ofExcept .config (Config.load s.host.files r.config)) _ s = _
  rw [hload]
  rfl

theorem run_of_load_error {e : Config.LoadError} (hargs : Request.ofArguments args = .ok r)
    (hload : Config.load s.host.files r.config = .error e) :
    run runner args runName s = .error (.config e) s := by
  unfold run
  rw [hargs]
  change EStateM.bind (ofExcept .config (Config.load s.host.files r.config)) _ s = _
  rw [hload]
  rfl

/-- A depth and a mode on the command line are worth what the file of the configuration says, for all
depths that are not negative. A negative one is refused in the file alone. -/
theorem options_as_file {path' : Option String} {data data' : Config.Entries} {n : Int} {m : String}
    (hargs : Request.ofArguments args = .ok r) (hdepth : r.depth = none) (hmode : r.mode = none)
    (hargs' : Request.ofArguments args' = .ok { r with config := path' })
    (hdata : Config.Holds s.host.files r.config data) (hc : Config.ofEntries data = .ok c)
    (hdata' : Config.Holds s.host.files path' data') (hasks : Config.Asks data data' n m) :
    Request.ofArguments (args ++ ["--depth=" ++ toString n, "--mode=" ++ m]) =
      (if Text.digitLimit < Text.digitCount (toString n).toList then .error .malformed
        else .ok { r with depth := some n, mode := some m }) ∧
    (∀ line, Request.ofArguments line = .ok { r with depth := some n, mode := some m } →
      run runner line runName s = runWith runner (c.override (some n) (some m)) r runName s ∧
      (run runner line runName s = run runner args' runName s ↔ 0 ≤ n)) ∧
    (n < 0 → run runner args' runName s = .error (.config (.config .negativeDepth)) s) := by
  have hload : Config.load s.host.files r.config = .ok c := by
    rw [Config.load_of_holds hdata, hc]
    rfl
  have hload' : Config.load s.host.files path' =
      if n < 0 then .error (.config .negativeDepth) else .ok (c.override (some n) (some m)) := by
    rw [Config.load_of_holds hdata', Config.ofEntries_of_asks hasks hc]
    split_ifs
    all_goals rfl
  have hrefused (hn : n < 0) :
      run runner args' runName s = .error (.config (.config .negativeDepth)) s :=
    run_of_load_error hargs' (hload'.trans (if_pos hn))
  refine ⟨Request.ofArguments_options hargs n m, fun line hline => ?_, hrefused⟩
  have hrun : run runner line runName s =
      runWith runner (c.override (some n) (some m)) r runName s := run_of_config hline hload
  refine ⟨hrun, fun h => ?_, fun hn => ?_⟩
  · -- a session under a configuration never ends as one whose configuration is refused
    by_contra hn
    rw [hrun, hrefused (Int.not_le.mp hn)] at h
    exact late_runWith s _ s h
  · rw [hrun, run_of_config hargs' (hload'.trans (if_neg (Int.not_lt.mpr hn))), hdepth, hmode]
    rfl

/-- A file that says `Config.saying` and `Config.building`. -/
def settings (depth mode : String) : Content :=
  .text ("explorer:\n  depth: " ++ depth ++ "\n  mode: " ++ mode ++
    "\nverifier:\n  build_cmd: make\ndownstream:\n  enabled: true\n")

/-- A program with one class, in a tree without any edits, under a configuration or another one. -/
def oneClass : Session PatchTree :=
  .start ⟨⟨[(["explorer.yaml"], settings "5" "strict"), (["other.yaml"], settings "1" "local"),
    (["m.py"], .text "class A:\n  a = b = c = 1\n")], []⟩, ⟨some "c0", [], [], [], []⟩⟩

def braced (fields : String) : String := "\x7b" ++ fields ++ "\x7d"

/-- A diagnostic of the class, where one of its fields is to be fixed by the patch of that name. -/
def asking (member : String) : String :=
  let place := braced ("\"kind\":\"field\",\"type\":\"m.A\",\"member\":\"" ++ member ++ "\"")
  let fix := braced ("\"location\":" ++ place ++
    ",\"annotation\":\"N\",\"origin\":\"downstream\",\"patch\":\"" ++ member ++ "\"")
  braced ("\"region\":" ++ braced "\"type\":\"m.A\"" ++ ",\"fixes\":[" ++ fix ++ "]")

/-- A build tells of one diagnostic, and of one more once that is fixed. Every fix brings up the
next one. -/
def answering : Runner PatchTree := fun command host =>
  if command.words.head? = some "git" then PatchTree.runner command host
  else
    let bare := braced ("\"region\":" ++ braced "\"type\":\"m.A\"")
    let found := match host.rest.applied with
      | [] => asking "a"
      | ["a\n"] => bare ++ "," ++ asking "b"
      | _ => bare ++ "," ++ asking "c"
    let files := host.files.write (.ofString "diagnostics.json") (.text ("[" ++ found ++ "]"))
    (.finished 0 "" "", { host with files })

/-- How deep a session went and what it decided, if it ended well. -/
def story (r : EStateM.Result SessionError (Session σ) Unit) : Option (List Nat × List Status) :=
  match r with
  | .ok _ s =>
    some (s.journal.filterMap Event.level?, s.journal.filterMap fun
      | .tagged _ _ tag => some tag
      | _ => none)
  | .error _ _ => none

/-- The configuration says depth five, and a mode that would have the fix at once. What is asked for
goes one level down, where more comes up, and is then rid of it. -/
theorem options_as_file_followed :
    let s := oneClass
    Config.Holds s.host.files none (Config.saying 5 "strict" ++ Config.building) ∧
      Config.Holds s.host.files (some "other.yaml") (Config.saying 1 "local" ++ Config.building) ∧
      run answering ["--out", "out.json", "--depth", "1", "--mode", "local"] "r" s =
        run answering ["--out", "out.json", "--config", "other.yaml"] "r" s ∧
      story (run answering ["--out", "out.json", "--depth", "1", "--mode", "local"] "r" s) =
        some ([0, 1], [.discard]) := by
  intro s
  have hbase : Config.Holds s.host.files none (Config.saying 5 "strict" ++ Config.building) :=
    Config.holds_saying (fun _ => Config.eq_building) 5 "strict" rfl rfl (by decide +kernel)
  have hother : Config.Holds s.host.files (some "other.yaml")
      (Config.saying 1 "local" ++ Config.building) :=
    Config.holds_saying (fun _ => Config.eq_building) 1 "local" rfl rfl (by decide +kernel)
  have hargs : Request.ofArguments ["--out", "out.json"] =
      .ok ⟨"out.json", none, none, none, none⟩ := rfl
  have hargs' : Request.ofArguments ["--out", "out.json", "--config", "other.yaml"] =
      .ok ⟨"out.json", some "other.yaml", none, none, none⟩ := rfl
  have hline : Request.ofArguments ["--out", "out.json", "--depth", "1", "--mode", "local"] =
      .ok ⟨"out.json", none, some 1, some "local", none⟩ := rfl
  obtain ⟨hrun, hsame⟩ := (options_as_file hargs rfl rfl hargs' hbase rfl hother
    (Config.asks_saying Config.building)).2.1 _ hline
  refine ⟨hbase, hother, hsame.mpr (by decide), ?_⟩
  rw [hrun]
  decide +kernel

/-- A folder with the file that is looked for without a path, and another one. -/
def twoFiles (text other : String) : Session Unit :=
  .start ⟨⟨[(["explorer.yaml"], .text text), (["other.yaml"], .text other)], []⟩, ()⟩

theorem depth_checked_in_file_only :
    let s := twoFiles "explorer:\n  depth: 5\n  mode: local\n"
      "explorer:\n  depth: -1\n  mode: strict\n"
    Config.Holds s.host.files none (Config.saying 5 "local") ∧
      (∃ c, Config.ofEntries (Config.saying 5 "local") = .ok c) ∧
      Config.Holds s.host.files (some "other.yaml") (Config.saying (-1) "strict") ∧
      run (fun _ host => (.timedOut, host))
          ["--out", "out.json", "--depth", "-1", "--mode", "strict"] "r" s ≠
        run (fun _ host => (.timedOut, host)) ["--out", "out.json", "--config", "other.yaml"] "r" s := by
  intro s
  have hbase : Config.Holds s.host.files none (Config.saying 5 "local") :=
    Config.holds_saying (fun _ => List.isEmpty_iff.mp) 5 "local" rfl rfl (by decide +kernel)
  have hother : Config.Holds s.host.files (some "other.yaml") (Config.saying (-1) "strict") :=
    Config.holds_saying (fun _ => List.isEmpty_iff.mp) (-1) "strict" rfl rfl (by decide +kernel)
  have hload : Config.load s.host.files (some "other.yaml") = .error (.config .negativeDepth) := by
    rw [Config.load_of_holds hother]
    rfl
  refine ⟨hbase, ⟨_, rfl⟩, hother, ?_⟩
  rw [run_of_config (r := ⟨"out.json", none, some (-1), some "strict", none⟩) rfl
      (Config.load_of_holds hbase),
    run_of_load_error (r := ⟨"out.json", some "other.yaml", none, none, none⟩) rfl hload]
  intro h
  exact late_runWith _ _ _ h

end Session
end FixTrial
