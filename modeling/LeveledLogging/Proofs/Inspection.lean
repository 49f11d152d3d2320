import LeveledLogging.Proofs.Listing
import LeveledLogging.Proofs.Loaded
import LeveledLogging.Proofs.Overrides
/-! The commands that show the configuration. All of them show something as soon as it can be loaded.
The level of the root is an override of its own if there is one; the check shows that of the verbosity
all the same, so that it may differ from what the others show (`rootShown`). None of them changes a
file, and the log file might as well be one that cannot be opened (`inspectionLeavesFiles`). -/
namespace LeveledLogging

theorem Level.titleInjective {a b : Level} : a.title = b.title ↔ a = b := by
  cases a <;> cases b <;> decide

namespace Settings

def ownRoot (settings : Settings) : Level := (settings.levels.find? "").getD settings.rootLevel

theorem historyNamed {settings : Settings} (overrides : List (LoggerName × Level)) :
    ∀ pair ∈ settings.history overrides, ∀ segment ∈ pair.1, IsSegment segment := by
  intro pair inside
  rcases List.mem_cons.mp inside with rfl | inside
  · simp
  · obtain ⟨setting, _, rfl⟩ := List.mem_map.mp inside
    exact setting.1.valid

theorem rootOfHistory {settings : Settings} {overrides : List (LoggerName × Level)}
    (valid : settings.overrides = .ok overrides) :
    (Hierarchy.setAll .empty (settings.history overrides)).configuredAt [] = some settings.ownRoot := by
  have whole : ∀ segment ∈ ([] : List String), IsSegment segment := by simp
  rw [configuredLaidOver valid, laidOver, own, if_pos whole, if_pos rfl, ownRoot]
  change (settings.levels.find? "").or (some settings.rootLevel) = _
  cases settings.levels.find? "" <;> rfl

theorem historyListed {settings : Settings} {overrides : List (LoggerName × Level)}
    (valid : settings.overrides = .ok overrides) :
    ∃ rest, (Hierarchy.setAll .empty (settings.history overrides)).configured =
      ("", settings.ownRoot) :: rest := by
  have ordered := Hierarchy.setAllOrdered Hierarchy.emptyOrdered (settings.history overrides)
  refine Hierarchy.rootListedFirst ordered ?_ (rootOfHistory valid)
  intro name level found
  have table := congrFun (Hierarchy.configuredAtHistory (settings.history overrides)) name
  exact historyNamed overrides _ (lastOfMember (table.symm.trans found))

end Settings

namespace Command

theorem inspectFailed {s : Surroundings} {options : Options} {failure : Failure}
    (failed : loadSettings s options = .error failure)
    (look : Settings → Except Failure Unit × List String) :
    inspect s options look = finish s (.error failure) [] "" s.files := by
  unfold inspect
  rw [failed]

section
variable {s : Surroundings} {options : Options} {settings : Settings}
variable (loaded : loadSettings s options = .ok settings)

include loaded

theorem levelsPrints :
    ∃ more, run s ⟨.levels, options⟩ =
      ⟨0, unlines ((Style.cyan.apply s.coloured "<root>" ++ " = " ++ settings.ownRoot.title) :: more),
        "", s.files⟩ := by
  obtain ⟨overrides, valid⟩ := Settings.overridesOk (loadedNamed loaded)
  obtain ⟨rest, listed⟩ := Settings.historyListed valid
  unfold run
  dsimp only
  rw [inspectLoaded loaded, levelsOfHistory valid]
  simp only [plainly, levelLines, listed]
  exact ⟨_, rfl⟩

theorem checkPrints :
    ∃ first more, run s ⟨.check, options⟩ =
      ⟨0, unlines (first :: ("  Root level: " ++ settings.rootLevel.title) :: more), "", s.files⟩ := by
  obtain ⟨overrides, valid⟩ := Settings.overridesOk (loadedNamed loaded)
  unfold run
  dsimp only
  rw [inspectLoaded loaded, valid]
  exact ⟨_, _, rfl⟩

end

theorem rootShown (s : Surroundings) (options : Options) :
    (∃ failure, ∀ command ∈ [Command.resolve [""], .levels, .check],
      run s ⟨command, options⟩ = finish s (.error failure) [] "" s.files) ∨
    ∃ settings root, loadSettings s options = .ok settings ∧
      root = (settings.levels.find? "").getD settings.rootLevel ∧
      run s ⟨.resolve [""], options⟩ = ⟨0, unlines ["<root> = " ++ root.title], "", s.files⟩ ∧
      (∃ more, run s ⟨.levels, options⟩ =
        ⟨0, unlines ((Style.cyan.apply s.coloured "<root>" ++ " = " ++ root.title) :: more), "",
          s.files⟩) ∧
      (∃ first more, run s ⟨.check, options⟩ =
        ⟨0, unlines (first :: ("  Root level: " ++ settings.rootLevel.title) :: more), "",
          s.files⟩) ∧
      (settings.rootLevel.title = root.title ↔
        ∀ own, settings.levels.find? "" = some own → own = settings.rootLevel) := by
  cases loaded : loadSettings s options with
  | error failure =>
    refine .inl ⟨failure, ?_⟩
    intro command inside
    simp only [List.mem_cons, List.not_mem_nil, or_false] at inside
    rcases inside with rfl | rfl | rfl <;> exact inspectFailed loaded _
  | ok settings =>
    have resolved := resolvePrints loaded (loadedNamed loaded) [.root]
    refine .inr ⟨settings, settings.ownRoot, rfl, rfl, resolved, levelsPrints loaded,
      checkPrints loaded, ?_⟩
    rw [Level.titleInjective, Settings.ownRoot]
    cases settings.levels.find? "" with
    | none => simp
    | some own => simp [eq_comm]

theorem rootShownTwoWays :
    let s : Surroundings :=
      ⟨[], none, ⟨[], []⟩, ⟨0, 0, 0⟩, ⟨"m", 1⟩, fun _ => "", SubjectFilter.read, "", ""⟩
    let options : Options := ⟨0, false, none, ["debug"]⟩
    run s ⟨.resolve [""], options⟩ = ⟨0, "<root> = Debug\n", "", s.files⟩ ∧
      run s ⟨.levels, options⟩ = ⟨0, "<root> = Debug\n", "", s.files⟩ ∧
      run s ⟨.check, options⟩ =
        ⟨0, "Configuration OK (no file)\n  Root level: Notice\n  Output: stderr\n" ++
          "  Trace: false\n  Overrides: 1\n", "", s.files⟩ := by
  decide +kernel

/-! ## Files -/

def inspects : Command → Bool
  | .resolve _ | .levels | .check => true
  | _ => false

theorem inspectFiles (s : Surroundings) (options : Options)
    (look : Settings → Except Failure Unit × List String) :
    (inspect s options look).files = s.files := by
  cases loaded : loadSettings s options with
  | error failure =>
    rw [inspectFailed loaded]
    rfl
  | ok settings =>
    rw [inspectLoaded loaded]
    cases (look settings).1 <;> rfl

theorem inspectionFiles (s : Surroundings) {invocation : Invocation}
    (inspecting : invocation.command.inspects = true) : (run s invocation).files = s.files := by
  obtain ⟨command, options⟩ := invocation
  cases command with
  | resolve names => exact inspectFiles s options _
  | levels => exact inspectFiles s options _
  | check => exact inspectFiles s options _
  | emit name level text fields kind => contradiction
  | version => contradiction

theorem inspectElsewhere {s : Surroundings} {files : FileSystem} {options : Options}
    (loads : loadSettings { s with files } options = loadSettings s options)
    {look lookThere : Settings → Except Failure Unit × List String}
    (sees : ∀ settings, loadSettings s options = .ok settings → lookThere settings = look settings) :
    inspect { s with files } options lookThere = { inspect s options look with files } := by
  cases loaded : loadSettings s options with
  | error failure =>
    rw [inspectFailed loaded, inspectFailed (loads.trans loaded)]
    rfl
  | ok settings =>
    rw [inspectLoaded loaded, inspectLoaded (loads.trans loaded), sees settings loaded]
    cases (look settings).1 <;> rfl

theorem checkLinesElsewhere {s : Surroundings} {files : FileSystem} {settings : Settings}
    (sees : ∀ path, settings.path = some path → hasDirectory files path = hasDirectory s.files path)
    (options : Options) (overrides : Nat) :
    checkLines { s with files } options settings overrides =
      checkLines s options settings overrides := by
  unfold checkLines
  cases place : settings.path with
  | none => rfl
  | some path =>
    dsimp only
    rw [sees path place]
    rfl

theorem inspectionElsewhere {s : Surroundings} {files : FileSystem} {invocation : Invocation}
    (inspecting : invocation.command.inspects = true)
    (loads : loadSettings { s with files } invocation.options = loadSettings s invocation.options)
    (sees : invocation.command = .check → ∀ settings path,
      loadSettings s invocation.options = .ok settings → settings.path = some path →
      hasDirectory files path = hasDirectory s.files path) :
    run { s with files } invocation = { run s invocation with files } := by
  obtain ⟨command, options⟩ := invocation
  cases command with
  | resolve names => exact inspectElsewhere loads fun _ _ => rfl
  | levels => exact inspectElsewhere loads fun _ _ => rfl
  | check =>
    refine inspectElsewhere loads ?_
    intro settings loaded
    have lines := checkLinesElsewhere fun path => sees rfl settings path loaded
    simp only [lines]
  | emit name level text fields kind => contradiction
  | version => contradiction

theorem runArgumentsRead {s : Surroundings} {args : List String} {invocation : Invocation}
    (given : Arguments.read (s.variableOf "COMMONLOG_CONFIG") args = .ok invocation) :
    runArguments s args = run s invocation := by
  unfold runArguments
  rw [given]

theorem inspectionLeavesFiles {s : Surroundings} {args : List String}
    (inspecting : ∀ invocation, Arguments.read (s.variableOf "COMMONLOG_CONFIG") args =
      .ok invocation → invocation.command.inspects = true) :
    (runArguments s args).files = s.files ∧
    ∀ invocation, Arguments.read (s.variableOf "COMMONLOG_CONFIG") args = .ok invocation →
      (∀ settings, ∃ subscriber, installSubscriber s invocation.options settings false =
        (.ok subscriber, s.files) ∧ subscriber.sink = .errorStream) ∧
      ∀ files,
        loadSettings { s with files } invocation.options = loadSettings s invocation.options →
        (invocation.command = .check → ∀ settings path,
          loadSettings s invocation.options = .ok settings → settings.path = some path →
          hasDirectory files path = hasDirectory s.files path) →
        runArguments { s with files } args = { runArguments s args with files } := by
  refine ⟨?_, ?_⟩
  · cases given : Arguments.read (s.variableOf "COMMONLOG_CONFIG") args with
    | error stop =>
      unfold runArguments
      rw [given]
      cases stop <;> rfl
    | ok invocation =>
      rw [runArgumentsRead given]
      exact inspectionFiles s (inspecting invocation given)
  · intro invocation given
    refine ⟨fun settings => ⟨_, installWithoutFile s invocation.options settings, rfl⟩, ?_⟩
    intro files loads sees
    have givenThere : Arguments.read
        (({ s with files } : Surroundings).variableOf "COMMONLOG_CONFIG") args = .ok invocation := given
    rw [runArgumentsRead given, runArgumentsRead givenThere]
    exact inspectionElsewhere (inspecting invocation given) loads sees

theorem inspectionsLeft :
    let s : Surroundings := ⟨[("COMMONLOG_PATH", "logs/app.log")], none, ⟨[], []⟩, ⟨0, 0, 0⟩,
      ⟨"m", 1⟩, fun _ => "", SubjectFilter.read, "", ""⟩
    let files : FileSystem := ⟨[(["logs"], .file .empty)], []⟩
    ((runArguments s ["resolve", "a", "a..b"]).status = 1 ∧
      (runArguments s ["resolve", "a", "a..b"]).files = s.files) ∧
    ((runArguments s ["check"]).status = 0 ∧ (runArguments s ["check"]).files = s.files) ∧
    runArguments { s with files } ["levels"] = { runArguments s ["levels"] with files } ∧
    (runArguments s ["emit", "a", "error", "hi", "-b", "tracing"]).files.contains "logs" = true ∧
    (runArguments { s with files } ["emit", "a", "error", "hi", "-b", "tracing"]).status = 1 := by
  intro s files
  have inspecting : ∀ args ∈ [["resolve", "a", "a..b"], ["check"], ["levels"]], ∀ invocation,
      Arguments.read (s.variableOf "COMMONLOG_CONFIG") args = .ok invocation →
        invocation.command.inspects = true := by
    have each : ∀ args ∈ [["resolve", "a", "a..b"], ["check"], ["levels"]],
        ((Arguments.read (s.variableOf "COMMONLOG_CONFIG") args).toOption.all
          fun invocation => invocation.command.inspects) = true := by decide +kernel
    intro args inside invocation given
    have here := each args inside
    rwa [given] at here
  have levels : Arguments.read (s.variableOf "COMMONLOG_CONFIG") ["levels"] =
      .ok ⟨.levels, ⟨0, false, none, []⟩⟩ := by decide +kernel
  refine ⟨⟨by decide +kernel, ?_⟩, ⟨by decide +kernel, ?_⟩, ?_, by decide +kernel, by decide +kernel⟩
  · exact (inspectionLeavesFiles (inspecting _ (by simp))).1
  · exact (inspectionLeavesFiles (inspecting _ (by simp))).1
  · have elsewhere := ((inspectionLeavesFiles (inspecting ["levels"] (by simp))).2 _ levels).2
    refine elsewhere files rfl ?_
    intro other
    contradiction

end Command

end LeveledLogging
