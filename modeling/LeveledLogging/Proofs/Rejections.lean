import LeveledLogging.Proofs.Emission
import LeveledLogging.Proofs.Loaded
import LeveledLogging.Proofs.Reconfiguration
/-! Messages that are refused for their own arguments. The level and the fields are looked at before the
log is opened, the name of the logger only afterwards: a malformed name leaves an empty log file behind
where there was none, and nothing else that is refused leaves anything (`rejectedLeaves`). -/
namespace LeveledLogging

theorem FileSystem.putNew {files : FileSystem} {place : Place} (missing : files.node? place = none)
    (node : FileNode) : files.put place node ≠ files := by
  intro same
  have inside : place ≠ [] := by
    rintro rfl
    cases missing
  have there := files.nodePut place place node
  rw [same, missing, if_neg inside, if_pos rfl] at there
  cases there

namespace Context

theorem openSinkMakes {files after : FileSystem} {verbosity : Int32} {path : Option String}
    {sink : Sink} (opened : openSink files (.ofVerbosity verbosity.toInt) path = .ok (sink, after)) :
    after = files ∧ (path = none ∨ verbosity.toInt < 0) ∨
      ∃ p place, path = some p ∧ ¬ verbosity.toInt < 0 ∧ files.openFile p = .ok (place, after) := by
  unfold openSink at opened
  split at opened
  · rename_i silent
    cases opened
    exact .inl ⟨rfl, .inr (Level.ofVerbosityOff.mp silent)⟩
  · cases opened
    exact .inl ⟨rfl, .inl rfl⟩
  · rename_i p heard
    obtain ⟨⟨place, files⟩, found, made⟩ := bindOk.mp opened
    cases made
    exact .inr ⟨p, place, rfl, fun negative => heard (Level.ofVerbosityOff.mpr negative), found⟩

end Context

namespace Command

/- The arguments of a message that are refused, and what is reported: the level, the fields and the name
are looked at in this order. -/
inductive Rejected (name : String) (level : Level) (fields : List String) : Failure → Prop where
  | level (off : level = .off) :
    Rejected name level fields ⟨["Cannot emit a message at level '" ++ level.title ++ "'"]⟩
  | field {failure} (loggable : level ≠ .off) (broken : fields.mapM readField = .error failure) :
    Rejected name level fields failure
  | name {pairs e} (loggable : level ≠ .off) (read : fields.mapM readField = .ok pairs)
    (malformed : LoggerName.read name = .error e) :
    Rejected name level fields ((Failure.ofError e).under ("Invalid logger name '" ++ name ++ "'"))

inductive Prepares (settings : Settings) (files : FileSystem) :
    Except Failure Unit → FileSystem → Prop where
  | untouched (unneeded : settings.path = none ∨ settings.verbosity.toInt < 0) :
    Prepares settings files (.ok ()) files
  | opened {path place after} (given : settings.path = some path)
    (heard : ¬ settings.verbosity.toInt < 0) (opens : files.openFile path = .ok (place, after)) :
    Prepares settings files (.ok ()) after
  | refused {path fault} (given : settings.path = some path)
    (heard : ¬ settings.verbosity.toInt < 0) (fails : files.openFile path = .error fault) :
    Prepares settings files
      (.error ((Failure.ofError (.io fault)).under "Failed to configure log output")) files

theorem outputVerbosity (options : Options) {settings : Settings} {path : String}
    (given : settings.path = some path) :
    (outputSettings options settings).verbosity = settings.verbosity := by
  unfold outputSettings Context.programVerbosity
  dsimp only
  rw [given, if_neg (by simp)]

def preparedTold (settings : Settings) : Except Failure Unit → List Diagnostic
  | .ok _ => setupTold settings .simple
  | .error _ => []

theorem outputContextPrepares (options : Options) {settings : Settings}
    {overrides : List (LoggerName × Level)} (valid : settings.overrides = .ok overrides)
    (files : FileSystem) :
    ∃ r after, Prepares settings files r after ∧ ∀ s subscriber, ∃ context : Context,
      outputContext s options settings subscriber .simple files = (r, context) ∧
      context.outputs = tell s subscriber (.start after)
        (preparedTold (outputSettings options settings) r) := by
  rcases outputContextCases options valid .simple files with
    ⟨fault, context, _, failed, untouched, fails⟩ | ⟨context, output, made⟩
  · obtain ⟨path, wanted, fails'⟩ := Context.openSinkFails.mp failed
    split at wanted
    · contradiction
    · rename_i heard
      rw [outputVerbosity options wanted] at heard
      exact ⟨_, files, .refused wanted heard fails', fun s subscriber =>
        ⟨context, fails s subscriber, untouched⟩⟩
  · cases output with
    | @simple sink after opens =>
      refine ⟨.ok (), after, ?_, fun s subscriber => ⟨_, made s subscriber, rfl⟩⟩
      rcases Context.openSinkMakes opens with ⟨rfl, unneeded⟩ | ⟨path, place, given, heard, opened⟩
      · refine .untouched ?_
        cases given : settings.path with
        | none => exact .inl rfl
        | some path =>
          rw [outputVerbosity options given] at unneeded
          have somewhere : (outputSettings options settings).path ≠ none := by
            rw [show (outputSettings options settings).path = some path from given]
            simp
          exact .inr (unneeded.resolve_left somewhere)
      · rw [outputVerbosity options (show settings.path = some path from given)] at heard
        exact .opened given heard opened

structure Composed (level : Level) (fields : List String) : Prop where
  loggable : level ≠ .off
  read : ∃ pairs, fields.mapM readField = .ok pairs

structure NewLog (settings : Settings) (files : FileSystem) (place : Place) : Prop where
  heard : ¬ settings.verbosity.toInt < 0
  opens : ∃ path after, settings.path = some path ∧ files.openFile path = .ok (place, after)
  missing : files.node? place = none

theorem Prepares.newLog {settings : Settings} {files after : FileSystem} {r : Except Failure Unit}
    (prepares : Prepares settings files r after) :
    (∀ place, NewLog settings files place → after = files.put place (.file .empty)) ∧
      (after ≠ files ↔ ∃ place, NewLog settings files place) := by
  have unchanged : (∀ place, ¬ NewLog settings files place) → after = files →
      (∀ place, NewLog settings files place → after = files.put place (.file .empty)) ∧
        (after ≠ files ↔ ∃ place, NewLog settings files place) := by
    intro none same
    refine ⟨fun place new => absurd new (none place), fun changed => absurd same changed, ?_⟩
    rintro ⟨place, new⟩
    exact absurd new (none place)
  cases prepares with
  | untouched unneeded =>
    refine unchanged ?_ rfl
    rintro place ⟨heard, ⟨path, after, given, _⟩, _⟩
    rcases unneeded with nowhere | dropped
    · cases nowhere.symm.trans given
    · exact heard dropped
  | refused given heard fails =>
    refine unchanged ?_ rfl
    rintro place ⟨_, ⟨path, after, there, opens⟩, _⟩
    cases given.symm.trans there
    cases fails.symm.trans opens
  | @opened path place after given heard opens =>
    have alone : ∀ other, NewLog settings files other → other = place := by
      rintro other ⟨_, ⟨_, _, there, also⟩, _⟩
      cases given.symm.trans there
      cases opens.symm.trans also
      rfl
    obtain ⟨_, ⟨present, rfl⟩ | ⟨missing, rfl⟩⟩ := FileSystem.openedFile opens
    · refine unchanged ?_ rfl
      intro other new
      cases alone other new
      rw [FileSystem.content?, new.missing] at present
      cases present
    · refine ⟨?_, ?_⟩
      · intro other new
        rw [alone other new]
      · constructor
        · intro _
          exact ⟨place, heard, ⟨path, _, given, opens⟩, missing⟩
        · intro _
          exact FileSystem.putNew missing _

theorem Prepares.reports {settings : Settings} {files after : FileSystem} {r : Except Failure Unit}
    (prepares : Prepares settings files r after) (failure : Failure) :
    ∃ cause, (r >>= fun _ => (.error failure : Except Failure Unit)) = .error cause ∧
      (cause = failure ∧ r = .ok () ∨ ∃ path fault, settings.path = some path ∧
        files.openFile path = .error fault ∧ r = .error cause ∧
        cause = (Failure.ofError (.io fault)).under "Failed to configure log output") := by
  cases prepares with
  | untouched unneeded => exact ⟨failure, rfl, .inl ⟨rfl, rfl⟩⟩
  | opened given heard opens => exact ⟨failure, rfl, .inl ⟨rfl, rfl⟩⟩
  | refused given heard fails => exact ⟨_, rfl, .inr ⟨_, _, given, fails, rfl, rfl⟩⟩

theorem sendRejected {settings : Settings} {overrides : List (LoggerName × Level)}
    (valid : settings.overrides = .ok overrides) {name : String} {level : Level}
    {fields : List String} {failure : Failure} (rejected : Rejected name level fields failure)
    (s : Surroundings) (options : Options) (subscriber : Subscriber) (files : FileSystem)
    (text : String) :
    ¬ Composed level fields ∧
      send s options settings subscriber files name level text fields .simple =
        (.error failure, .start files) ∨
    Composed level fields ∧ ∃ r after, Prepares settings files r after ∧
      send s options settings subscriber files name level text fields .simple =
        (r >>= fun _ => .error failure, tell s subscriber (.start after)
          (preparedTold (outputSettings options settings) r)) := by
  cases rejected with
  | level off =>
    subst off
    exact .inl ⟨fun composed => composed.loggable rfl, rfl⟩
  | field loggable broken =>
    refine .inl ⟨?_, sendBroken s options settings subscriber files name text _ loggable broken⟩
    rintro ⟨_, pairs, read⟩
    cases broken.symm.trans read
  | name loggable read malformed =>
    refine .inr ⟨⟨loggable, _, read⟩, ?_⟩
    obtain ⟨r, after, prepares, made⟩ := outputContextPrepares options valid files
    obtain ⟨context, opens, told⟩ := made s subscriber
    refine ⟨r, after, prepares, ?_⟩
    rw [sendComposed s options settings subscriber files name text _ loggable read, malformed, opens,
      ← told]
    cases r <;> rfl

theorem rejectedLeaves {s : Surroundings} {options : Options} {settings : Settings}
    (loaded : loadSettings s options = .ok settings) {name : String} {level : Level}
    {fields : List String} {failure : Failure} (rejected : Rejected name level fields failure)
    (text : String) :
    let outcome := run s ⟨.emit name level text fields .simple, options⟩
    let shown := subscriberSettings options settings false
    (∃ cause errors, outcome = finish s (.error cause) [] errors outcome.files ∧
      (cause = failure ∧ ¬ Composed level fields ∧ errors = "" ∨
      cause = failure ∧ Composed level fields ∧
        errors = toldText s (.choose s.askedFilter shown) shown.trace
          (setupTold (outputSettings options settings) .simple) ∨
      Composed level fields ∧ errors = "" ∧ ∃ path fault, settings.path = some path ∧
        s.files.openFile path = .error fault ∧
        cause = (Failure.ofError (.io fault)).under "Failed to configure log output")) ∧
    (∀ place, Composed level fields → NewLog settings s.files place →
      outcome.files = s.files.put place (.file .empty)) ∧
    (outcome.files ≠ s.files ↔ Composed level fields ∧ ∃ place, NewLog settings s.files place) := by
  intro outcome shown
  obtain ⟨overrides, valid⟩ := Settings.overridesOk (loadedNamed loaded)
  let subscriber : Subscriber := ⟨.choose s.askedFilter shown, .errorStream, shown.trace⟩
  have runs : outcome = _ := emitInstalled loaded name level text fields .simple
    (installWithoutFile s options settings)
  dsimp only at runs
  rcases sendRejected valid rejected s options subscriber s.files text with
    ⟨broken, sent⟩ | ⟨composed, r, after, prepares, sent⟩
  · have ends : outcome = finish s (.error failure) [] "" s.files := by rw [runs, sent]; rfl
    rw [ends]
    refine ⟨⟨failure, "", rfl, .inl ⟨rfl, broken, rfl⟩⟩, fun _ composed => absurd composed broken, ?_⟩
    exact ⟨fun changed => absurd rfl changed, fun new => absurd new.1 broken⟩
  · obtain ⟨cause, reported, why⟩ := prepares.reports failure
    obtain ⟨made, changed⟩ := prepares.newLog
    obtain ⟨kept, _, said⟩ := toldErrors (rfl : subscriber.sink = .errorStream) s after
      (preparedTold (outputSettings options settings) r)
    have ends : outcome = finish s (.error cause) [] (toldText s subscriber.filter subscriber.trace
        (preparedTold (outputSettings options settings) r)) after := by
      rw [runs, sent]
      dsimp only
      rw [reported, said, kept, Transcript.textOfText]
    rw [ends]
    refine ⟨⟨cause, _, rfl, .inr ?_⟩, fun place _ new => made place new,
      changed.trans (and_iff_right composed).symm⟩
    rcases why with ⟨same, rfl⟩ | ⟨path, fault, given, fails, rfl, same⟩
    · exact .inl ⟨same, composed, rfl⟩
    · exact .inr ⟨composed, rfl, path, fault, given, fails, same⟩

theorem malformedNameMakesFile :
    let s : Surroundings :=
      ⟨[("COMMONLOG_PATH", "app.log")], none, ⟨[], []⟩, ⟨0, 0, 0⟩, ⟨"m", 1⟩, fun _ => "",
        SubjectFilter.read, "", ""⟩
    let options : Options := ⟨0, false, none, []⟩
    run s ⟨.emit "a..b" .error "hi" [] .simple, options⟩ =
      ⟨1, "", "Error: Invalid logger name 'a..b': Validation error: Invalid logger name: " ++
        "segments must not be empty\n", ⟨[(["app.log"], .file .empty)], []⟩⟩ := by
  decide +kernel

theorem malformedFieldMakesNone :
    let s : Surroundings :=
      ⟨[("COMMONLOG_PATH", "app.log")], none, ⟨[], []⟩, ⟨0, 0, 0⟩, ⟨"m", 1⟩, fun _ => "",
        SubjectFilter.read, "", ""⟩
    let options : Options := ⟨0, false, none, []⟩
    let failure : Failure := ⟨["Invalid field 'k': expected KEY=VALUE"]⟩
    Rejected "a..b" .error ["k"] failure ∧
      run s ⟨.emit "a..b" .error "hi" ["k"] .simple, options⟩ =
        finish s (.error failure) [] "" s.files := by
  intro s options failure
  have loaded : loadSettings s options = .ok ⟨0, some "app.log", false, .full, .empty⟩ := by
    decide +kernel
  have broken : ["k"].mapM readField = .error failure := by decide
  have rejected : Rejected "a..b" .error ["k"] failure := .field (by decide) broken
  have other : ¬ Composed .error ["k"] := by
    rintro ⟨_, pairs, read⟩
    cases broken.symm.trans read
  obtain ⟨⟨cause, errors, ends, reported⟩, _, changed⟩ := rejectedLeaves loaded rejected "hi"
  obtain ⟨same, silent⟩ : cause = failure ∧ errors = "" := by
    rcases reported with ⟨same, _, silent⟩ | ⟨_, composed, _⟩ | ⟨composed, _⟩
    · exact ⟨same, silent⟩
    · exact absurd composed other
    · exact absurd composed other
  have files : (run s ⟨.emit "a..b" .error "hi" ["k"] .simple, options⟩).files = s.files := by
    by_contra differ
    exact other (changed.mp differ).1
  rw [files, same, silent] at ends
  exact ⟨rejected, ends⟩

end Command

end LeveledLogging
