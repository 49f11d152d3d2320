import LeveledLogging.Proofs.Levels
/-! What the program shows for names. A directive of the options counts before one of the environment,
and that before the file; a name without a directive has the level of the nearest name above it that
has one. -/
namespace LeveledLogging.Command

def effectiveVerbosity (s : Surroundings) (options : Options) (file : Settings) : Int32 :=
  if options.verbosity = 0 then (Config.environmentVerbosity s.environment).getD file.verbosity
  else Int32.ofNat options.verbosity

def directive (s : Surroundings) (options : Options) (file : Settings) (name : String) :
    Option Level :=
  (lastOf (options.levels.flatMap Directives.listed) name).or
    ((lastOf (Config.environmentDirectives s.environment) name).or (file.levels.find? name))

theorem addDirectiveOk {text : String} {pairs : List (String × Level)}
    (read : Directives.readAll text = .ok pairs) (settings : Settings) :
    addDirective settings text =
      .ok { settings with table := settings.table.insertAll (Entries.ofList pairs) } := by
  have table : Directives.read text = .ok (.ofList pairs) := returnOk.mpr ⟨pairs, read, rfl⟩
  unfold addDirective
  rw [table]
  rfl

theorem addDirectivesOk {texts : List String} (settings : Settings)
    (given : ∀ text ∈ texts, ∃ pairs, Directives.readAll text = .ok pairs) :
    ∃ table, texts.foldlM addDirective settings = .ok { settings with table } ∧
      ∀ key, table.entries.find? key =
        (lastOf (texts.flatMap Directives.listed) key).or (settings.levels.find? key) := by
  induction texts generalizing settings with
  | nil => exact ⟨settings.table, rfl, fun _ => rfl⟩
  | cons text rest ih =>
    obtain ⟨pairs, read⟩ := given text List.mem_cons_self
    let next : Settings := { settings with table := settings.table.insertAll (Entries.ofList pairs) }
    have laid : ∀ key, next.levels.find? key = (lastOf pairs key).or (settings.levels.find? key) := by
      intro key
      rw [← Entries.findOfList pairs, ← Entries.lastOfDistinct (Entries.ascendingOfList pairs).nodup]
      exact Entries.findInsertAll settings.levels (Entries.ofList pairs) key
    obtain ⟨table, done, found⟩ :=
      ih next fun other inside => given other (List.mem_cons_of_mem _ inside)
    refine ⟨table, ?_, ?_⟩
    · rw [List.foldlM_cons, addDirectiveOk read]
      exact done
    · intro key
      rw [found, laid, List.flatMap_cons, lastOfAppend, Directives.listedOk read, Option.or_assoc]

theorem directivesNamed {texts : List String} :
    ∀ pair ∈ texts.flatMap Directives.listed, ∃ name, LoggerName.read pair.1 = .ok name := by
  intro pair inside
  obtain ⟨text, _, here⟩ := List.mem_flatMap.mp inside
  exact Directives.listedNamed pair here

theorem loadsDirectives {s : Surroundings} {options : Options} {file : Settings}
    (source : Config.FileSettings s.home s.files options.config file)
    (accepted : ∀ entry ∈ s.environment, Config.Accepted entry)
    (given : ∀ text ∈ options.levels, ∃ pairs, Directives.readAll text = .ok pairs) :
    ∃ settings, loadSettings s options = .ok settings ∧
      settings.verbosity = effectiveVerbosity s options file ∧
      settings.WellNamed ∧
      ∀ key, settings.levels.find? key = directive s options file key := by
  obtain ⟨loaded, done, verbosity, named, found⟩ :=
    Config.loadSettingsOver source accepted
  let counted : Settings := if options.verbosity = 0 then loaded
    else { loaded with verbosity := Int32.ofNat options.verbosity }
  have levels : counted.levels = loaded.levels := by
    simp only [counted]
    split <;> rfl
  obtain ⟨final, added, finalFound⟩ := addDirectivesOk counted given
  rw [levels] at finalFound
  refine ⟨{ counted with table := final }, ?_, ?_, ?_, ?_⟩
  · unfold loadSettings
    rw [done]
    exact added
  · simp only [counted, effectiveVerbosity]
    split
    · exact verbosity
    · rfl
  · exact Settings.namedOver finalFound directivesNamed named
  · intro key
    refine (finalFound key).trans ?_
    rw [found]
    rfl

theorem resolveLinesOk (levels : Hierarchy) (names : List LoggerName) :
    resolveLines levels (names.map LoggerName.dotted) =
      (.ok (), names.map fun name =>
        shownName name.dotted ++ " = " ++ (levels.get name.segments).title) := by
  induction names with
  | nil => rfl
  | cons name rest ih =>
    rw [List.map_cons, resolveLines, LoggerName.readDotted, ih]
    rfl

theorem subscriberPath (options : Options) (settings : Settings) (toFile : Bool) :
    (subscriberSettings options settings toFile).path = if toFile then settings.path else none := by
  unfold subscriberSettings
  generalize (if toFile = true then settings.path else none) = path
  dsimp only
  split <;> rfl

theorem subscriberTrace (options : Options) (settings : Settings) (toFile : Bool) :
    (subscriberSettings options settings toFile).trace = settings.trace := by
  unfold subscriberSettings
  generalize (if toFile = true then settings.path else none) = path
  dsimp only
  split <;> rfl

theorem installWithoutFile (s : Surroundings) (options : Options) (settings : Settings) :
    installSubscriber s options settings false =
      (.ok ⟨.choose s.askedFilter (subscriberSettings options settings false),
        .errorStream, (subscriberSettings options settings false).trace⟩, s.files) := by
  have path : (subscriberSettings options settings false).path = none :=
    subscriberPath options settings false
  unfold installSubscriber Subscriber.install
  rw [path]
  rfl

theorem inspectLoaded {s : Surroundings} {options : Options} {settings : Settings}
    (loaded : loadSettings s options = .ok settings)
    (look : Settings → Except Failure Unit × List String) :
    inspect s options look = finish s (look settings).1 (look settings).2 "" s.files := by
  unfold inspect
  rw [loaded]
  dsimp only
  rw [installWithoutFile]

theorem resolveRuns {s : Surroundings} {options : Options} {settings : Settings}
    (loaded : loadSettings s options = .ok settings) {overrides : List (LoggerName × Level)}
    (valid : settings.overrides = .ok overrides) (names : List LoggerName) :
    run s ⟨.resolve (names.map LoggerName.dotted), options⟩ =
      ⟨0, unlines (names.map fun name => shownName name.dotted ++ " = " ++
        ((Hierarchy.setAll .empty (settings.history overrides)).get name.segments).title),
        "", s.files⟩ := by
  unfold run
  dsimp only
  rw [inspectLoaded loaded, levelsOfHistory valid]
  simp only [plainly, resolveLinesOk]
  rfl

theorem resolvePrints {s : Surroundings} {options : Options} {settings : Settings}
    (loaded : loadSettings s options = .ok settings) (named : settings.WellNamed)
    (names : List LoggerName) :
    run s ⟨.resolve (names.map LoggerName.dotted), options⟩ =
      ⟨0, unlines (names.map fun name =>
        shownName name.dotted ++ " = " ++ (settings.levelOf name).title), "", s.files⟩ := by
  obtain ⟨overrides, valid⟩ := Settings.overridesOk named
  rw [resolveRuns loaded valid]
  simp only [Settings.getHistory valid]

theorem resolvesDirectives {s : Surroundings} {options : Options} {file : Settings}
    (source : Config.FileSettings s.home s.files options.config file)
    (accepted : ∀ entry ∈ s.environment, Config.Accepted entry)
    (given : ∀ text ∈ options.levels, ∃ pairs, Directives.readAll text = .ok pairs) :
    ∃ settings, loadSettings s options = .ok settings ∧ settings.WellNamed ∧
      ∃ levelOf : LoggerName → Level,
        (∀ name, Inherits (fun p => directive s options file (LoggerName.dots p))
          (.ofVerbosity (effectiveVerbosity s options file).toInt) name.segments (levelOf name)) ∧
        ∀ quiet (names : List LoggerName),
          run s ⟨.resolve (names.map LoggerName.dotted), { options with quiet }⟩ =
            ⟨0, unlines (names.map fun name =>
              shownName name.dotted ++ " = " ++ (levelOf name).title), "", s.files⟩ := by
  obtain ⟨settings, loaded, verbosity, named, found⟩ := loadsDirectives source accepted given
  refine ⟨settings, loaded, named, settings.levelOf, ?_, ?_⟩
  · intro name
    have inherits := settings.levelOfInherits name
    rw [Settings.rootLevel, verbosity] at inherits
    simpa only [found] using inherits
  · intro quiet names
    have quieter : loadSettings s { options with quiet } = .ok settings := loaded
    exact resolvePrints quieter named names

theorem resolvedOverFile :
    let s : Surroundings :=
      ⟨[("COMMONLOG_LEVELS", "a=debug, b=none"), ("COMMONLOG_VERBOSITY", " 1 ")], some "/home",
        ⟨[(["c"], .file "log: \x7blevels: \x7ba: info, d: error\x7d\x7d".toUTF8)], []⟩,
        ⟨0, 0, 0⟩, ⟨"m", 1⟩, fun _ => "", SubjectFilter.read, "", ""⟩
    let options : Options := ⟨0, true, some "/c", ["a.b=err"]⟩
    run s ⟨.resolve ["", "a", "a.b.c", "d.x"], options⟩ =
      ⟨0, "<root> = Info\na = Debug\na.b.c = Error\nd.x = Error\n", "", s.files⟩ := by
  intro s options
  let file : Settings := ⟨0, none, false, .full, ⟨[("a", .info), ("d", .error)], by decide⟩⟩
  have shape : ((Config.readDocument s.files "/c").toOption.bind (·.document.member? "log")).any
      (fun part => !part.members.isEmpty && (Settings.ofDocument part).toOption = some file) =
        true := by decide +kernel
  obtain ⟨part, found, holding⟩ := (Option.any_eq_true ..).mp shape
  obtain ⟨document, read, present⟩ := Option.bind_eq_some_iff.mp found
  obtain ⟨filled, decoded⟩ : part.members.isEmpty = false ∧ Settings.ofDocument part = .ok file := by
    simpa [toOptionSome] using holding
  have expanded : FilePath.expand s.home "/c" = "/c" := by decide +kernel
  have holds : Config.FileHolds s.home s.files "/c" document.document := by
    unfold Config.FileHolds
    rw [expanded, expanded]
    exact ⟨by decide +kernel, document, toOptionSome.mp read, rfl⟩
  have named : file.WellNamed := by
    intro key inside
    have plain : ∀ key ∈ file.levels.keys, IsSegment key := by decide
    exact ⟨⟨[key], by simpa using plain key inside⟩, LoggerName.readIff.mpr String.ofList_toList⟩
  have source : Config.FileSettings s.home s.files options.config file :=
    .filled holds present filled decoded named
  have accepted : ∀ entry ∈ s.environment, Config.Accepted entry := by
    have each : ∀ entry ∈ s.environment,
      (Config.readVariable entry.1 entry.2).toOption.isSome = true := by decide +kernel
    exact fun entry inside => succeeds.mp (each entry inside)
  have given : ∀ text ∈ options.levels, ∃ pairs, Directives.readAll text = .ok pairs := by
    have each : ∀ text ∈ options.levels, (Directives.readAll text).toOption.isSome = true := by
      decide +kernel
    exact fun text inside => succeeds.mp (each text inside)
  obtain ⟨settings, loaded, valid, levelOf, inherits, printed⟩ :=
    resolvesDirectives source accepted given
  have levels : levelOf .root = .info ∧ levelOf ⟨["a"], by decide⟩ = .debug ∧
      levelOf ⟨["a", "b", "c"], by decide⟩ = .error ∧ levelOf ⟨["d", "x"], by decide⟩ = .error := by
    simp only [← inheritsNearest.mp (inherits _)]
    decide +kernel
  have shown := printed true [.root, ⟨["a"], by decide⟩, ⟨["a", "b", "c"], by decide⟩,
    ⟨["d", "x"], by decide⟩]
  simp only [List.map_cons, List.map_nil, levels] at shown
  exact shown

end LeveledLogging.Command
