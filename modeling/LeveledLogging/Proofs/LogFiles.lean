import LeveledLogging.Proofs.Emission
/-! Messages of a program that has a log file. Both places that look at whether the program is quiet also
look for a log file, so that being quiet makes no difference where there is one: two runs over the same
files come to the same, but for the time in front of the lines (`quietHonoursLogFile`). Only diagnostics
that a backend of lines leaves on the error stream pass by a filter that quiet runs may not share. -/
namespace LeveledLogging

def BackendKind.stamp : BackendKind → Moment → String
  | .simple, now => now.localText
  | .tracing, now => now.universalText

def FileSystem.withLines (files : FileSystem) (place : Place) (lines : List String) : FileSystem :=
  lines.foldl (fun files line => files.append place line.toUTF8) files

theorem FileSystem.withLinesAppend (files : FileSystem) (place : Place) (lines more : List String) :
    files.withLines place (lines ++ more) = (files.withLines place lines).withLines place more :=
  List.foldl_append

namespace Outputs

theorem writeToFile (outputs : Outputs) (place : Place) {line : String} (visible : line ≠ "") :
    outputs.write (.file place) line =
      .ok { outputs with files := outputs.files.append place line.toUTF8 } := by
  have some : line.toUTF8.size ≠ 0 := by
    intro empty
    exact visible (String.utf8ByteSize_eq_zero_iff.mp empty)
  unfold write writeBytes
  rw [if_neg some]
  rfl

theorem writeLinesToFile (outputs : Outputs) (place : Place) {lines : List String}
    (visible : ∀ line ∈ lines, line ≠ "") :
    outputs.writeLines (.file place) lines =
      { outputs with files := outputs.files.withLines place lines } := by
  induction lines generalizing outputs with
  | nil => rfl
  | cons line rest ih =>
    obtain ⟨head, tail⟩ := List.forall_mem_cons.mp visible
    have written : outputs.writeLine (.file place) line =
        { outputs with files := outputs.files.append place line.toUTF8 } := by
      rw [writeLine, outputs.writeToFile place head]
    exact (congrArg (fun outputs => writeLines outputs _ rest) written).trans (ih _ tail)

end Outputs

theorem Record.logLineStamped (record : Record) (name : List String) (level : Level) (trace : Bool) :
    ∃ body, ∀ now : Moment, record.logLine now name level trace = now.localText ++ body := by
  refine ⟨?body, fun now => ?same⟩
  case same =>
    simp only [logLine, String.append_assoc]
    rfl

theorem Event.lineStamped (site : Option String) (severity : Severity) (logger : String)
    (record : Record) :
    ∃ body, ∀ now : Moment, line now site severity logger record = now.universalText ++ body := by
  refine ⟨?body, fun now => ?same⟩
  case same =>
    unfold line front
    dsimp only
    simp only [String.append_assoc]
    rfl

theorem Diagnostic.lineStamped (site : Option String) (diagnostic : Diagnostic) :
    ∃ body, ∀ now : Moment, diagnostic.line now site = now.universalText ++ body := by
  refine ⟨?body, fun now => ?same⟩
  case same =>
    unfold line Event.front
    dsimp only
    simp only [String.append_assoc]
    rfl

theorem Diagnostic.lineVisible (now : Moment) (site : Option String) (diagnostic : Diagnostic) :
    diagnostic.line now site ≠ "" := by
  intro empty
  have letters := congrArg String.toList empty
  simp [line] at letters

namespace Command

theorem renderingStamped (s : Surroundings) (settings : Settings) (kind : BackendKind)
    (name : LoggerName) (level : Level) (text : String) (pairs : List (String × Value)) :
    ∃ body, ∀ now, rendering { s with now } settings kind name level text pairs =
      kind.stamp now ++ body := by
  cases kind with
  | simple =>
    dsimp only [rendering, BackendKind.stamp]
    exact Record.logLineStamped _ _ _ _
  | tracing =>
    dsimp only [rendering, BackendKind.stamp]
    exact Event.lineStamped _ _ _ _

theorem toldLinesStamped (s : Surroundings) (filter : SubjectFilter) (trace : Bool)
    (told : List Diagnostic) :
    ∃ bodies : List String, ∀ now, toldLines { s with now } filter trace told =
      bodies.map (now.universalText ++ ·) := by
  unfold toldLines
  generalize told.filter (fun diagnostic =>
    filter.passes diagnostic.subject Diagnostic.severity) = passing
  induction passing with
  | nil => exact ⟨[], fun _ => rfl⟩
  | cons diagnostic rest ih =>
    obtain ⟨bodies, same⟩ := ih
    obtain ⟨body, stamped⟩ :=
      diagnostic.lineStamped (if trace then some (s.eventSite diagnostic.subject) else none)
    refine ⟨body :: bodies, fun now => ?_⟩
    rw [List.map_cons, List.map_cons, same, stamped]

theorem toldLinesVisible (s : Surroundings) (filter : SubjectFilter) (trace : Bool)
    (told : List Diagnostic) : ∀ line ∈ toldLines s filter trace told, line ≠ "" := by
  intro line inside
  obtain ⟨diagnostic, _, rfl⟩ := List.mem_map.mp inside
  exact diagnostic.lineVisible _ _

theorem tellFile {subscriber : Subscriber} {place : Place} (goes : subscriber.sink = .file place)
    (s : Surroundings) (outputs : Outputs) (told : List Diagnostic) :
    tell s subscriber outputs told = { outputs with
      files := outputs.files.withLines place
        (toldLines s subscriber.filter subscriber.trace told) } := by
  rw [tellLines, goes]
  exact outputs.writeLinesToFile place (toldLinesVisible s _ _ told)

/- What a kind of backend lets through to a log file, besides what the levels of names allow. -/
def Heard (s : Surroundings) (settings : Settings) (level : Level) : BackendKind → Prop
  | .simple => ¬ settings.verbosity.toInt < 0
  | .tracing => (SubjectFilter.choose s.askedFilter settings).passesLevel level = true

/- The diagnostics that come out on the error stream. -/
def aside (s : Surroundings) (options : Options) (settings : Settings) (told : List Diagnostic) :
    BackendKind → String
  | .simple =>
    let shown := subscriberSettings options settings false
    toldText s (.choose s.askedFilter shown) shown.trace told
  | .tracing => ""

def entered (s : Surroundings) (settings : Settings) (told : List Diagnostic) :
    BackendKind → List String
  | .simple => []
  | .tracing => toldLines s (.choose s.askedFilter settings) settings.trace told

/- What sending a message comes to under settings with a log file. -/
structure LogRun where
  status : Nat
  told : List Diagnostic
  -- what the error stream holds beside the diagnostics
  errors : String
  -- the files with the log open
  files : FileSystem
  place : Place
  bodies : List String
  entry : Option String

def LogRun.lines (run : LogRun) (stamp : String) : List String :=
  (run.bodies ++ run.entry.toList).map (stamp ++ ·)

/- Runs at every time, quiet or not, come to the same but for the stamps of the lines in the log, which
gains an entry if the message is wanted. -/
structure Logged (s : Surroundings) (options : Options) (settings : Settings) (path name : String)
    (level : Level) (text : String) (fields : List String) (kind : BackendKind)
    (outcome : Moment → Bool → Outcome) (run : LogRun) : Prop where
  alike : ∀ now quiet, outcome now quiet = ⟨run.status, "",
    aside { s with now } { options with quiet } settings run.told kind ++ run.errors,
    run.files.withLines run.place (run.lines (kind.stamp now))⟩
  stamped : ∀ now, run.bodies.map (kind.stamp now ++ ·) = entered { s with now } settings run.told kind
  located : run.bodies ++ run.entry.toList ≠ [] → run.files.locate (kind.logPath path) = .ok run.place
  failed : run.status ≠ 0 → run.entry = none
  sent : run.status = 0 → run.errors = "" ∧ ∃ parsed pairs, LoggerName.read name = .ok parsed ∧
    fields.mapM readField = .ok pairs ∧
    run.told = sentTold settings kind name level (settings.levelOf parsed) ∧
    (run.entry.isSome = true ↔ level ≤ settings.levelOf parsed ∧ Heard s settings level kind) ∧
    ∀ body, run.entry = some body → ∀ now,
      rendering { s with now } settings kind parsed level text pairs = kind.stamp now ++ body

theorem outputSettingsLogged {settings : Settings} {path : String}
    (given : settings.path = some path) (options : Options) :
    outputSettings options settings = settings := by
  unfold outputSettings Context.programVerbosity
  rw [if_neg (by simp [given])]

theorem sendLoud {settings : Settings} {path : String} (given : settings.path = some path)
    (s : Surroundings) (options : Options) (quiet : Bool) (subscriber : Subscriber)
    (files : FileSystem) (name : String) (level : Level) (text : String) (fields : List String)
    (kind : BackendKind) :
    send s { options with quiet } settings subscriber files name level text fields kind =
      send s { options with quiet := false } settings subscriber files name level text fields kind := by
  have same : outputContext s { options with quiet } settings subscriber kind files =
      outputContext s { options with quiet := false } settings subscriber kind files := by
    unfold outputContext Context.configureProgram
    simp only [outputSettingsLogged given, Context.programVerbosity, given, reduceCtorEq, and_false,
      if_false]
  unfold send
  rw [same]

theorem installAlike {s : Surroundings} {settings : Settings} {path : String}
    (given : settings.path = some path) (options : Options) (now : Moment) (quiet : Bool) :
    installSubscriber { s with now } { options with quiet } settings true =
      installSubscriber s { options with quiet := false } settings true := by
  unfold installSubscriber subscriberSettings
  simp only [given, if_true, reduceCtorEq, and_false, if_false]
  rfl

theorem sendAlike {settings : Settings} {path : String} (given : settings.path = some path)
    {overrides : List (LoggerName × Level)} (valid : settings.overrides = .ok overrides)
    (options : Options) (files : FileSystem) (name : String) (level : Level) (fields : List String)
    (kind : BackendKind) :
    (∃ failure after told, (kind = .tracing → after = files) ∧
      ∀ s quiet subscriber text,
        send s { options with quiet } settings subscriber files name level text fields kind =
          (.error failure, tell s subscriber (.start after) told)) ∨
    ∃ pairs context parsed, level ≠ .off ∧ fields.mapM readField = .ok pairs ∧
      OutputContext settings overrides files kind context ∧ LoggerName.read name = .ok parsed ∧
      ∀ s quiet subscriber text,
        send s { options with quiet } settings subscriber files name level text fields kind =
          let outputs := tell s subscriber context.outputs
            (sentTold settings kind name level (context.level parsed.segments))
          (.ok (), writeEvents s subscriber (Context.log { context with outputs } s.now s.site
            (.named parsed) level 0 text (Fields.ofPairs pairs)).outputs) := by
  have cases := sendCases { options with quiet := false } valid files name level fields kind
  rw [outputSettingsLogged given] at cases
  rcases cases with ⟨failure, outputs, told, origin, fails⟩ |
    ⟨pairs, context, parsed, loggable, read, output, named, sends⟩
  · obtain ⟨after, start, kept⟩ : ∃ after, outputs = .start after ∧ (kind = .tracing → after = files) := by
      rcases origin with ⟨start, _⟩ | ⟨context, output, rfl, _⟩
      · exact ⟨files, start, fun _ => rfl⟩
      · cases output with
        | simple opens => exact ⟨_, rfl, fun other => nomatch other⟩
        | tracing => exact ⟨_, rfl, fun _ => rfl⟩
    refine .inl ⟨failure, after, told, kept, fun s quiet subscriber text => ?_⟩
    rw [sendLoud given, fails, start]
  · refine .inr ⟨pairs, context, parsed, loggable, read, output, named, fun s quiet subscriber text => ?_⟩
    rw [sendLoud given, sends]

theorem finishFailed (s : Surroundings) (failure : Failure) (lines : List String) (errors : String)
    (files : FileSystem) :
    finish s (.error failure) lines errors files = ⟨1, unlines lines,
      errors ++ (finish s (.error failure) [] "" files).errorText, files⟩ := by
  simp [finish, String.append_assoc]

def Enters (kind : BackendKind) (sink : Sink) (place : Place) (entry : Option String)
    (sent : Moment → Outputs → Outputs) : Prop :=
  ∀ now before, before.events = [] → before.Open sink →
    (sent now before).errorText = before.errorText ∧
    (sent now before).files = before.files.withLines place (entry.toList.map (kind.stamp now ++ ·))

theorem entersNothing {kind : BackendKind} {sink : Sink} {sent : Moment → Outputs → Outputs}
    (same : ∀ now before, before.events = [] → before.Open sink →
      (sent now before).errorText = before.errorText ∧ (sent now before).files = before.files) :
    Enters kind sink [] none sent := same

structure EntryOf (s : Surroundings) (settings : Settings) (kind : BackendKind) (name : LoggerName)
    (level most : Level) (text : String) (pairs : List (String × Value)) (entry : Option String) :
    Prop where
  wanted : entry.isSome = true ↔ level ≤ most ∧ Heard s settings level kind
  rendered : ∀ body, entry = some body → ∀ now,
    rendering { s with now } settings kind name level text pairs = kind.stamp now ++ body

section
variable {s : Surroundings} {settings : Settings} {kind : BackendKind} {name : LoggerName}
variable {level most : Level} {text : String} {pairs : List (String × Value)}

theorem entryNone (unwanted : ¬ (level ≤ most ∧ Heard s settings level kind)) :
    EntryOf s settings kind name level most text pairs none where
  wanted := iff_of_false (by simp) unwanted
  rendered := nofun

theorem entrySome {body : String} (allowed : level ≤ most) (heard : Heard s settings level kind)
    (stamped : ∀ now,
      rendering { s with now } settings kind name level text pairs = kind.stamp now ++ body) :
    EntryOf s settings kind name level most text pairs (some body) where
  wanted := iff_of_true rfl ⟨allowed, heard⟩
  rendered := by
    intro other same
    cases same
    exact stamped

variable (levels : Hierarchy) (loggable : level ≠ .off)

include loggable

theorem simpleEnters {after : FileSystem} {sink : Sink} {path : String}
    (given : settings.path = some path)
    (opens : Context.openSink s.files settings.rootLevel settings.path = .ok (sink, after)) :
    ∃ place entry, EntryOf s settings .simple name level (levels.get name.segments) text pairs entry ∧
      (entry ≠ none → after.locate path = .ok place) ∧
      ∀ subscriber, Enters .simple sink place entry fun now before => writeEvents { s with now } subscriber
        (Context.log ⟨⟨levels, .lines sink settings.trace⟩, before⟩ now s.site (.named name) level 0
          text (Fields.ofPairs pairs)).outputs := by
  obtain ⟨opened, discards⟩ := Context.openSinkOpened opens
  have healthy := (opened.isOpen (rfl : (Outputs.start after).files = after)).2
  have sends := fun subscriber now {before : Outputs} (none : before.events = [])
      (isOpen : before.Open sink) =>
    simpleSends { s with now } settings levels name loggable subscriber text pairs none isOpen healthy
  dsimp only at sends ⊢
  by_cases allowed : level ≤ levels.get name.segments
  · rw [given] at opened
    cases opened with
    | nowhere _ =>
      have dropped := (rootOff settings).mp (discards.mp rfl)
      refine ⟨[], none, entryNone fun both => both.2 dropped, fun some => absurd rfl some,
        fun subscriber => entersNothing fun now before none isOpen => ?_⟩
      have sent := sends subscriber now none isOpen
      rw [if_pos allowed, Outputs.writeNowhere] at sent
      rw [← Except.ok.inj sent]
      exact ⟨rfl, rfl⟩
    | @file _ place found =>
      obtain ⟨body, stamped⟩ := renderingStamped s settings .simple name level text pairs
      have heard : Heard s settings level .simple := by
        intro dropped
        cases discards.mpr ((rootOff settings).mpr dropped)
      refine ⟨place, some body, entrySome allowed heard stamped, fun _ => found.located, ?_⟩
      intro subscriber now before none isOpen
      have sent := sends subscriber now none isOpen
      rw [if_pos allowed, Outputs.writeToFile _ _ (renderingVisible _ _ _ _ _ _ _), stamped] at sent
      dsimp only
      rw [← Except.ok.inj sent]
      exact ⟨rfl, rfl⟩
  · refine ⟨[], none, entryNone fun both => allowed both.1, fun some => absurd rfl some,
      fun subscriber => entersNothing fun now before none isOpen => ?_⟩
    have sent := sends subscriber now none isOpen
    rw [if_neg allowed] at sent
    rw [sent]
    exact ⟨rfl, rfl⟩

theorem tracingEnters {subscriber : Subscriber} {place : Place} (goes : subscriber.sink = .file place)
    (filter : subscriber.filter = .choose s.askedFilter settings)
    (trace : subscriber.trace = settings.trace) :
    ∃ entry, EntryOf s settings .tracing name level (levels.get name.segments) text pairs entry ∧
      Enters .tracing (.file place) place entry fun now before => writeEvents { s with now } subscriber
        (Context.log ⟨⟨levels, .events⟩, before⟩ now s.site (.named name) level 0 text
          (Fields.ofPairs pairs)).outputs := by
  have sends := fun now {before : Outputs} (none : before.events = []) =>
    tracingSends { s with now } settings levels name loggable subscriber text pairs none trace
  dsimp only at sends ⊢
  by_cases wanted : level ≤ levels.get name.segments ∧ Heard s settings level .tracing
  · obtain ⟨allowed, heard⟩ := wanted
    have passes : subscriber.filter.passesLevel level = true := by
      rw [filter]
      exact heard
    obtain ⟨body, stamped⟩ := renderingStamped s settings .tracing name level text pairs
    refine ⟨some body, entrySome allowed heard stamped, fun now before none _ => ?_⟩
    have sent := sends now none
    rw [if_pos allowed] at sent
    obtain ⟨event, written⟩ := sent
    dsimp only
    rw [written, if_pos passes, goes, Outputs.writeLine,
      Outputs.writeToFile _ _ (renderingVisible _ _ _ _ _ _ _), stamped]
    exact ⟨rfl, rfl⟩
  · refine ⟨none, entryNone wanted, fun now before none _ => ?_⟩
    have sent := sends now none
    by_cases allowed : level ≤ levels.get name.segments
    · have held : ¬ subscriber.filter.passesLevel level = true := by
        rw [filter]
        exact fun passes => wanted ⟨allowed, passes⟩
      rw [if_pos allowed] at sent
      obtain ⟨event, written⟩ := sent
      dsimp only
      rw [written, if_neg held]
      exact ⟨rfl, rfl⟩
    · rw [if_neg allowed] at sent
      dsimp only
      rw [sent]
      exact ⟨rfl, rfl⟩

end

section
variable {s : Surroundings} {options : Options} {settings : Settings} {path name : String}
variable {level : Level} {text : String} {fields : List String} {kind : BackendKind}
variable {outcome : Moment → Bool → Outcome} {told : List Diagnostic} (files : FileSystem)
variable (place : Place) {bodies : List String}
variable (stamped : ∀ now, bodies.map (kind.stamp now ++ ·) = entered { s with now } settings told kind)

include stamped

theorem loggedFailure (failure : Failure)
    (located : bodies ≠ [] → files.locate (kind.logPath path) = .ok place)
    (fails : ∀ now quiet, outcome now quiet = finish { s with now } (.error failure) []
      (aside { s with now } { options with quiet } settings told kind)
      (files.withLines place (bodies.map (kind.stamp now ++ ·)))) :
    ∃ run, Logged s options settings path name level text fields kind outcome run := by
  have line : ∀ files, (finish s (.error failure) [] "" files).errorText =
      (finish s (.error failure) [] "" s.files).errorText := fun _ => rfl
  refine ⟨⟨1, told, (finish s (.error failure) [] "" s.files).errorText, files, place, bodies, none⟩,
    ?_, stamped, ?_, fun _ => rfl, fun succeeded => nomatch succeeded⟩
  · intro now quiet
    rw [fails, finishFailed, LogRun.lines, Option.toList_none, List.append_nil]
    rfl
  · rw [Option.toList_none, List.append_nil]
    exact located

theorem loggedEntry {parsed : LoggerName} {pairs : List (String × Value)} {entry : Option String}
    (named : LoggerName.read name = .ok parsed) (read : fields.mapM readField = .ok pairs)
    (all : told = sentTold settings kind name level (settings.levelOf parsed))
    (of : EntryOf s settings kind parsed level (settings.levelOf parsed) text pairs entry)
    (located : bodies ++ entry.toList ≠ [] → files.locate (kind.logPath path) = .ok place)
    (succeeds : ∀ now quiet, outcome now quiet = ⟨0, "",
      aside { s with now } { options with quiet } settings told kind,
      files.withLines place ((bodies ++ entry.toList).map (kind.stamp now ++ ·))⟩) :
    ∃ run, Logged s options settings path name level text fields kind outcome run := by
  refine ⟨⟨0, told, "", files, place, bodies, entry⟩, ?_, stamped, located,
    fun failed => absurd rfl failed,
    fun _ => ⟨rfl, parsed, pairs, named, read, all, of.wanted, of.rendered⟩⟩
  intro now quiet
  rw [succeeds, String.append_empty]
  rfl

end

theorem simpleLogged {s : Surroundings} {options : Options} {settings : Settings}
    (loaded : loadSettings s options = .ok settings) {path : String}
    (given : settings.path = some path) (name : String) (level : Level) (text : String)
    (fields : List String) :
    ∃ logged, Logged s options settings path name level text fields .simple
      (fun now quiet =>
        run { s with now } ⟨.emit name level text fields .simple, { options with quiet }⟩) logged := by
  obtain ⟨overrides, valid⟩ := Settings.overridesOk (loadedNamed loaded)
  have loads : ∀ now quiet, loadSettings { s with now } { options with quiet } = .ok settings :=
    fun _ _ => loaded
  let shown (quiet : Bool) : Settings := subscriberSettings { options with quiet } settings false
  let subscriber (quiet : Bool) : Subscriber :=
    ⟨.choose s.askedFilter (shown quiet), .errorStream, (shown quiet).trace⟩
  have apart : ∀ quiet, (subscriber quiet).sink = .errorStream := fun _ => rfl
  have runs := fun now quiet => emitInstalled (loads now quiet) name level text fields .simple
    (installWithoutFile { s with now } { options with quiet } settings)
  have unstamped : ∀ told now, ([] : List String).map (BackendKind.simple.stamp now ++ ·) =
      entered { s with now } settings told .simple := fun _ _ => rfl
  rcases sendAlike given valid options s.files name level fields .simple with
    ⟨failure, after, told, _, fails⟩ | ⟨pairs, context, parsed, loggable, read, output, named, sends⟩
  · refine loggedFailure after [] (unstamped told) failure (fun some => absurd rfl some)
      fun now quiet => ?_
    obtain ⟨kept, _, said⟩ := toldErrors (apart quiet) { s with now } after told
    rw [runs, fails]
    change finish _ _ [] (tell _ (subscriber quiet) (.start after) told).errorText
      (tell _ (subscriber quiet) (.start after) told).files = _
    rw [said, kept, Transcript.textOfText]
    rfl
  · cases output with
    | @simple sink after opens =>
      let levels := Hierarchy.setAll .empty (settings.history overrides)
      obtain ⟨place, entry, of, located, enters⟩ := simpleEnters levels loggable given opens
      have most : levels.get parsed.segments = settings.levelOf parsed :=
        Settings.getHistory valid parsed
      have isOpen := ((Context.openSinkOpened opens).1.isOpen (rfl : (Outputs.start after).files = _)).1
      let told := sentTold settings .simple name level (levels.get parsed.segments)
      refine loggedEntry after place (unstamped told) named read
        (congrArg (sentTold settings .simple name level) most) (most ▸ of) ?_ fun now quiet => ?_
      · intro some
        exact located fun none => some (congrArg Option.toList none)
      · let before := tell { s with now } (subscriber quiet) (.start after) told
        let outputs := writeEvents { s with now } (subscriber quiet)
          (Context.log ⟨⟨levels, .lines sink settings.trace⟩, before⟩ now s.site (.named parsed) level 0
            text (Fields.ofPairs pairs)).outputs
        obtain ⟨kept, none, said⟩ := toldErrors (apart quiet) { s with now } after told
        obtain ⟨silent, gained⟩ : outputs.errorText = before.errorText ∧ outputs.files =
            before.files.withLines place (entry.toList.map (BackendKind.simple.stamp now ++ ·)) :=
          enters (subscriber quiet) now before none (tellOpen isOpen _ _ told)
        have ends : run { s with now } ⟨.emit name level text fields .simple, { options with quiet }⟩ =
            ⟨0, "", outputs.errorText, outputs.files⟩ := by
          rw [runs, sends]
          rfl
        rw [ends, silent, gained, said, kept, Transcript.textOfText]
        rfl

theorem tracingLogged {s : Surroundings} {options : Options} {settings : Settings}
    (loaded : loadSettings s options = .ok settings) {path : String}
    (given : settings.path = some path) (name : String) (level : Level) (text : String)
    (fields : List String) :
    ∃ logged, Logged s options settings path name level text fields .tracing
      (fun now quiet =>
        run { s with now } ⟨.emit name level text fields .tracing, { options with quiet }⟩) logged := by
  obtain ⟨overrides, valid⟩ := Settings.overridesOk (loadedNamed loaded)
  have loads : ∀ now quiet, loadSettings { s with now } { options with quiet } = .ok settings :=
    fun _ _ => loaded
  cases installed : installSubscriber s { options with quiet := false } settings true with
  | mk r files =>
  have same := fun now quiet => (installAlike given options now quiet).trans installed
  cases r with
  | error failure =>
    have nothing : ∀ now, ([] : List String).map (BackendKind.tracing.stamp now ++ ·) =
        entered { s with now } settings [] .tracing := fun _ => rfl
    exact loggedFailure files [] nothing failure (fun some => absurd rfl some) fun now quiet =>
      emitUninstalled (loads now quiet) name level text fields .tracing (same now quiet)
  | ok subscriber =>
    have runs := fun now quiet =>
      emitInstalled (loads now quiet) name level text fields .tracing (same now quiet)
    obtain ⟨opened, somewhere, filter, trace⟩ := installedWhole (fun _ => by simp [given]) installed
    obtain ⟨place, goes, located⟩ : ∃ place, subscriber.sink = .file place ∧
        files.locate (BackendKind.tracing.logPath path) = .ok place := by
      rw [given] at opened
      generalize subscriber.sink = sink at opened somewhere
      cases opened with
      | nowhere _ => contradiction
      | file opens => exact ⟨_, rfl, opens.located⟩
    have isOpen : (Outputs.start files).Open (.file place) := by
      rw [← goes]
      exact (opened.isOpen rfl).1
    have tells : ∀ told, ∃ bodies : List String, (∀ now, bodies.map (BackendKind.tracing.stamp now ++ ·) =
          entered { s with now } settings told .tracing) ∧
        ∀ now, tell { s with now } subscriber (.start files) told = .start
          (files.withLines place (bodies.map (BackendKind.tracing.stamp now ++ ·))) := by
      intro told
      obtain ⟨bodies, stamped⟩ :=
        toldLinesStamped s (.choose s.askedFilter settings) settings.trace told
      refine ⟨bodies, fun now => (stamped now).symm, fun now => ?_⟩
      rw [tellFile goes, filter, trace, stamped]
      rfl
    rcases sendAlike given valid options files name level fields .tracing with
      ⟨failure, after, told, kept, fails⟩ |
        ⟨pairs, context, parsed, loggable, read, output, named, sends⟩
    · cases kept rfl
      obtain ⟨bodies, stamped, told⟩ := tells told
      refine loggedFailure files place stamped failure (fun _ => located) fun now quiet => ?_
      rw [runs, fails]
      dsimp only
      rw [told]
      rfl
    · cases output with
      | tracing =>
        let levels := Hierarchy.setAll .empty (settings.history overrides)
        obtain ⟨entry, of, enters⟩ := tracingEnters levels loggable goes filter trace
        have most : levels.get parsed.segments = settings.levelOf parsed :=
          Settings.getHistory valid parsed
        obtain ⟨bodies, stamped, told⟩ :=
          tells (sentTold settings .tracing name level (levels.get parsed.segments))
        refine loggedEntry files place stamped named read
          (congrArg (sentTold settings .tracing name level) most) (most ▸ of) (fun _ => located)
          fun now quiet => ?_
        let before := tell { s with now } subscriber (.start files)
          (sentTold settings .tracing name level (levels.get parsed.segments))
        let outputs := writeEvents { s with now } subscriber
          (Context.log ⟨⟨levels, .events⟩, before⟩ now s.site (.named parsed) level 0 text
            (Fields.ofPairs pairs)).outputs
        have begun : before = .start _ := told now
        obtain ⟨silent, gained⟩ : outputs.errorText = before.errorText ∧ outputs.files =
            before.files.withLines place (entry.toList.map (BackendKind.tracing.stamp now ++ ·)) :=
          enters now before (congrArg Outputs.events begun) (tellOpen isOpen _ _ _)
        have ends : run { s with now } ⟨.emit name level text fields .tracing, { options with quiet }⟩ =
            ⟨0, "", outputs.errorText, outputs.files⟩ := by
          rw [runs, sends]
          rfl
        rw [ends, silent, gained, begun, List.map_append, FileSystem.withLinesAppend]
        rfl

theorem asideAlike {s : Surroundings} {kind : BackendKind}
    (shared : kind = .tracing ∨ s.askedFilter.isSome = true) (options : Options) (settings : Settings)
    (told : List Diagnostic) (quiet : Bool) :
    aside s { options with quiet } settings told kind =
      aside s { options with quiet := false } settings told kind := by
  rcases shared with rfl | asked
  · rfl
  · obtain ⟨filter, asked⟩ := Option.isSome_iff_exists.mp asked
    cases kind with
    | simple =>
      simp only [aside, subscriberTrace, asked, SubjectFilter.choose, Option.getD_some]
    | tracing => rfl

theorem logFileRuns {s : Surroundings} {options : Options} {settings : Settings}
    (loaded : loadSettings s options = .ok settings) {path : String}
    (given : settings.path = some path) (name : String) (level : Level) (text : String)
    (fields : List String) (kind : BackendKind) :
    ∃ logged, Logged s options settings path name level text fields kind
      (fun now quiet =>
        run { s with now } ⟨.emit name level text fields kind, { options with quiet }⟩) logged := by
  cases kind with
  | simple => exact simpleLogged loaded given name level text fields
  | tracing => exact tracingLogged loaded given name level text fields

theorem quietHonoursLogFile {s : Surroundings} {options : Options} {settings : Settings}
    (loaded : loadSettings s options = .ok settings) {path : String}
    (given : settings.path = some path) (name : String) (level : Level) (text : String)
    (fields : List String) (kind : BackendKind) :
    let outcome := fun now quiet =>
      run { s with now } ⟨.emit name level text fields kind, { options with quiet }⟩
    (∃ logged, Logged s options settings path name level text fields kind outcome logged) ∧
    (kind = .tracing ∨ s.askedFilter.isSome = true →
      ∀ now quiet, outcome now quiet = outcome now false) := by
  intro outcome
  obtain ⟨run, logged⟩ := logFileRuns loaded given name level text fields kind
  refine ⟨⟨run, logged⟩, ?_⟩
  intro shared now quiet
  have timeless : kind = .tracing ∨ ({ s with now } : Surroundings).askedFilter.isSome = true := shared
  have same := asideAlike timeless options settings run.told quiet
  refine (logged.alike now quiet).trans (Eq.trans ?_ (logged.alike now false).symm)
  rw [same]

/- At the second degree of verbosity the run that is not quiet tells of its log on the error stream. -/
theorem loggedThoughQuiet :
    let s : Surroundings :=
      ⟨[("COMMONLOG_PATH", "app.log")], none, ⟨[], []⟩, ⟨0, 0, 0⟩, ⟨"m", 1⟩, fun _ => "",
        SubjectFilter.read, "", ""⟩
    let options : Options := ⟨2, false, none, []⟩
    ∃ (told : Moment → String) (files : FileSystem) (place : Place) (body : String),
      files.locate "app.log" = .ok place ∧ told s.now ≠ "" ∧
      ∀ now,
        run { s with now } ⟨.emit "a" .error "hello" [] .simple, options⟩ =
          ⟨0, "", told now, files.withLines place [now.localText ++ body]⟩ ∧
        run { s with now } ⟨.emit "a" .error "hello" [] .simple, { options with quiet := true }⟩ =
          ⟨0, "", "", files.withLines place [now.localText ++ body]⟩ := by
  intro s options
  let settings : Settings := ⟨2, some "app.log", false, .full, .empty⟩
  have loaded : loadSettings s options = .ok settings := by decide +kernel
  obtain ⟨⟨logged, runs⟩, _⟩ :=
    quietHonoursLogFile loaded rfl "a" .error "hello" [] .simple
  have succeeded : logged.status = 0 := by
    have here : (run s ⟨.emit "a" .error "hello" [] .simple, options⟩).status = 0 := by
      decide +kernel
    exact (congrArg Outcome.status (runs.alike s.now false)).symm.trans here
  obtain ⟨silent, parsed, pairs, named, read, told, wanted, rendered⟩ := runs.sent succeeded
  have name : parsed = ⟨["a"], by decide⟩ := by
    have read : LoggerName.read "a" = .ok ⟨["a"], by decide⟩ := by decide
    exact Except.ok.inj (named.symm.trans read)
  subst name
  have heard : Heard s settings .error .simple := by
    unfold Heard
    decide
  obtain ⟨body, entered⟩ := Option.isSome_iff_exists.mp (wanted.mpr ⟨by decide, heard⟩)
  have bare : logged.bodies = [] := List.map_eq_nil_iff.mp (runs.stamped s.now)
  have lines : ∀ stamp, logged.lines stamp = [stamp ++ body] := by
    intro stamp
    rw [LogRun.lines, bare, entered]
    rfl
  have shown : aside s options settings logged.told .simple ≠ "" := by
    rw [told]
    decide +kernel
  have hidden : ∀ now, aside { s with now } { options with quiet := true } settings logged.told
      .simple = "" := fun now => toldNothing { s with now } _ logged.told
  refine ⟨fun now => aside { s with now } options settings logged.told .simple, logged.files,
    logged.place, body, runs.located (by simp [entered]), shown, fun now => ⟨?_, ?_⟩⟩
  · refine (runs.alike now false).trans ?_
    rw [succeeded, silent, lines, String.append_empty]
    rfl
  · refine (runs.alike now true).trans ?_
    rw [succeeded, silent, lines, hidden]
    rfl

end Command

end LeveledLogging
