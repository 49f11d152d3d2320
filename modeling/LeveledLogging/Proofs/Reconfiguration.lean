import LeveledLogging.Proofs.Loading
import LeveledLogging.Proofs.Operations
/-! What becomes of a backend that writes lines when it is given another output or other levels. Every
name is read and the file is opened before anything changes: a reconfiguration that fails leaves
everything as it was, and goes unnoticed by whatever follows (`failedReconfigurationChangesNothing`). -/
namespace LeveledLogging

inductive Reconfiguration where
  | configure (verbosity : Int32) (path : Option String)
  | configureProgram (verbosity : Int32) (path : Option String) (quiet : Bool)
  | applySettings (settings : Settings)
  | applyLevels (settings : Settings)

namespace Reconfiguration

def attempt (context : Context) : Reconfiguration → Except LogError Unit × Context
  | configure verbosity path => context.configure verbosity path
  | configureProgram verbosity path quiet => context.configureProgram verbosity path quiet
  | applySettings settings => context.applySettings settings
  | applyLevels settings => context.applyLevels settings

def entries : Reconfiguration → Entries Level
  | configure .. | configureProgram .. => []
  | applySettings settings | applyLevels settings => settings.levels

def file : Reconfiguration → Option String
  | configure verbosity path | configureProgram verbosity path _ =>
    if verbosity.toInt < 0 then none else path
  | applySettings settings => if settings.verbosity.toInt < 0 then none else settings.path
  | applyLevels _ => none

inductive Fails (r : Reconfiguration) (files : FileSystem) : LogError → Prop where
  | name {e} (unread : FirstFails (fun entry => LoggerName.read entry.1) e r.entries) : Fails r files e
  | opening {path fault} (named : ∀ entry ∈ r.entries, ∃ name, LoggerName.read entry.1 = .ok name)
      (opens : r.file = some path) (closed : files.openFile path = .error fault) :
      Fails r files (.io fault)

end Reconfiguration

/- Nobody can tell two states of a backend apart: neither by looking at it nor by going on with it,
with messages and handles from before included. -/
structure Untouched (before after : Context) : Prop where
  levels : ∀ name, after.level name = before.level name
  configured : after.backend.levels.configured = before.backend.levels.configured
  nodes : after.backend.levels.size = before.backend.levels.size
  -- the sink of the lines, and whether places are shown
  output : after.backend.output = before.backend.output
  written : after.outputs = before.outputs
  later : ∀ operations, after.run operations = before.run operations

theorem untouchedSame (context : Context) : Untouched context context :=
  ⟨fun _ => rfl, rfl, rfl, rfl, rfl, fun _ => rfl⟩

theorem Settings.overridesError {settings : Settings} {e : LogError} :
    settings.overrides = .error e ↔
      FirstFails (fun entry => LoggerName.read entry.1) e settings.levels := by
  rw [Settings.overrides, mapMError]
  constructor
  · refine FirstFails.transfer ?_ ?_
    · rintro ⟨key, level⟩ failed
      cases read : LoggerName.read key with
      | error fault => simpa [read, bind, Except.bind] using failed
      | ok name => simp [read, bind, Except.bind, pure, Except.pure] at failed
    · rintro ⟨key, level⟩ _ done
      obtain ⟨name, read, _⟩ := returnOk.mp done
      exact ⟨name, read⟩
  · refine FirstFails.transfer ?_ ?_
    · rintro ⟨key, level⟩ failed
      simp only [failed]
      rfl
    · rintro ⟨key, level⟩ name read
      exact ⟨(name, level), returnOk.mpr ⟨name, read, rfl⟩⟩

namespace Context

theorem openSinkFails {files : FileSystem} {verbosity : Int32} {path : Option String}
    {fault : IoFault} :
    openSink files (.ofVerbosity verbosity.toInt) path = .error fault ↔
      ∃ p, (if verbosity.toInt < 0 then none else path) = some p ∧
        files.openFile p = .error fault := by
  unfold openSink
  split
  · rename_i silent
    simp [Level.ofVerbosityOff.mp silent]
  · simp
  · rename_i p loud
    have shown : ¬ verbosity.toInt < 0 := fun negative => loud (Level.ofVerbosityOff.mpr negative)
    rw [if_neg shown]
    constructor
    · intro failed
      cases opened : files.openFile p with
      | ok found => simp [opened, bind, Except.bind, pure, Except.pure] at failed
      | error other =>
        rw [opened] at failed
        cases failed
        exact ⟨p, rfl, opened⟩
    · rintro ⟨_, same, closed⟩
      cases same
      rw [closed]
      rfl

theorem configureFails {context : Context} {sink trace}
    (lines : context.backend.output = .lines sink trace) (verbosity : Int32)
    (path : Option String) :
    (∀ e, (context.configure verbosity path).1 = .error e ↔
      ∃ p fault, (if verbosity.toInt < 0 then none else path) = some p ∧
        context.outputs.files.openFile p = .error fault ∧ e = .io fault) ∧
    ∀ e, (context.configure verbosity path).1 = .error e →
      (context.configure verbosity path).2 = context := by
  rw [configureLines lines]
  cases opened : openSink context.outputs.files (.ofVerbosity verbosity.toInt) path with
  | error fault =>
    refine ⟨?_, fun _ _ => rfl⟩
    obtain ⟨p, opens, closed⟩ := openSinkFails.mp opened
    intro e
    constructor
    · intro failed
      cases failed
      exact ⟨p, fault, opens, closed, rfl⟩
    · rintro ⟨q, other, same, closedToo, rfl⟩
      cases opens.symm.trans same
      cases closed.symm.trans closedToo
      rfl
  | ok found =>
    refine ⟨?_, fun e failed => by cases failed⟩
    intro e
    constructor
    · intro failed
      cases failed
    · rintro ⟨p, fault, opens, closed, rfl⟩
      cases opened.symm.trans (openSinkFails.mpr ⟨p, opens, closed⟩)

end Context

namespace Reconfiguration

def FailsCleanly (r : Reconfiguration) (context : Context) : Prop :=
  (∀ e, (r.attempt context).1 = .error e ↔ r.Fails context.outputs.files e) ∧
    ∀ e, (r.attempt context).1 = .error e → (r.attempt context).2 = context

theorem failsNamed {r : Reconfiguration} {files : FileSystem} {e : LogError}
    (named : ∀ entry ∈ r.entries, ∃ name, LoggerName.read entry.1 = .ok name) :
    r.Fails files e ↔ ∃ p fault, r.file = some p ∧ files.openFile p = .error fault ∧ e = .io fault := by
  constructor
  · rintro (unread | ⟨_, opens, closed⟩)
    · exact absurd named unread.notAll
    · exact ⟨_, _, opens, closed, rfl⟩
  · rintro ⟨p, fault, opens, closed, rfl⟩
    exact .opening named opens closed

theorem failsUnnamed {r : Reconfiguration} {files : FileSystem} {e other : LogError}
    (unread : FirstFails (fun entry => LoggerName.read entry.1) e r.entries) :
    r.Fails files other ↔ other = e := by
  constructor
  · rintro (unreadToo | ⟨named, _, _⟩)
    · exact Except.error.inj ((mapMError.mpr unreadToo).symm.trans (mapMError.mpr unread))
    · exact absurd named unread.notAll
  · rintro rfl
    exact .name unread

theorem configureFailsCleanly {context : Context} {sink trace}
    (lines : context.backend.output = .lines sink trace) (verbosity : Int32)
    (path : Option String) : (configure verbosity path).FailsCleanly context := by
  obtain ⟨fails, unchanged⟩ := Context.configureFails lines verbosity path
  refine ⟨?_, unchanged⟩
  intro e
  rw [failsNamed (by simp [entries])]
  exact fails e

theorem configureProgramFailsCleanly {context : Context} {sink trace}
    (lines : context.backend.output = .lines sink trace) (verbosity : Int32)
    (path : Option String) (quiet : Bool) :
    (configureProgram verbosity path quiet).FailsCleanly context := by
  let chosen := if quiet ∧ path = none then Context.quietVerbosity else verbosity
  obtain ⟨fails, unchanged⟩ := Context.configureFails lines chosen path
  refine ⟨?_, unchanged⟩
  have sameFile : (if chosen.toInt < 0 then none else path) =
      (if verbosity.toInt < 0 then none else path) := by
    cases path with
    | none => simp
    | some p => simp [chosen]
  intro e
  rw [failsNamed (by simp [entries]), file, ← sameFile]
  exact fails e

theorem unreadFailsCleanly {r : Reconfiguration} {context : Context} {e : LogError}
    (unread : FirstFails (fun entry => LoggerName.read entry.1) e r.entries)
    (made : r.attempt context = (.error e, context)) : r.FailsCleanly context := by
  unfold FailsCleanly
  rw [made]
  refine ⟨?_, fun _ _ => rfl⟩
  intro other
  rw [failsUnnamed unread, Except.error.injEq, eq_comm]

theorem namedEntries {settings : Settings} {overrides : List (LoggerName × Level)}
    (valid : settings.overrides = .ok overrides) :
    ∀ entry ∈ settings.levels, ∃ name, LoggerName.read entry.1 = .ok name := by
  rw [Settings.overridesIff.mp valid]
  intro entry inside
  obtain ⟨setting, _, rfl⟩ := List.mem_map.mp inside
  exact ⟨setting.1, LoggerName.readDotted setting.1⟩

theorem applySettingsFailsCleanly {context : Context} {sink trace}
    (lines : context.backend.output = .lines sink trace) (settings : Settings) :
    (applySettings settings).FailsCleanly context := by
  cases valid : settings.overrides with
  | error e =>
    refine unreadFailsCleanly (Settings.overridesError.mp valid) ?_
    simp only [attempt, Context.applySettings, valid]
  | ok overrides =>
    have named : ∀ entry ∈ (applySettings settings).entries,
        ∃ name, LoggerName.read entry.1 = .ok name := namedEntries valid
    obtain ⟨fails, unchanged⟩ := Context.configureFails lines settings.verbosity settings.path
    unfold FailsCleanly
    simp only [attempt, Context.applySettings, valid]
    constructor
    · intro e
      rw [failsNamed named, file, ← fails]
      split
      · rename_i made
        simp [made]
      · rfl
    · intro e
      split
      · intro failed
        cases failed
      · exact unchanged e

theorem applyLevelsFailsCleanly {context : Context} (settings : Settings) :
    (applyLevels settings).FailsCleanly context := by
  cases valid : settings.overrides with
  | error e =>
    refine unreadFailsCleanly (Settings.overridesError.mp valid) ?_
    simp only [attempt, Context.applyLevels, valid]
  | ok overrides =>
    have named : ∀ entry ∈ (applyLevels settings).entries,
        ∃ name, LoggerName.read entry.1 = .ok name := namedEntries valid
    unfold FailsCleanly
    simp only [attempt, Context.applyLevels, valid]
    refine ⟨?_, fun e failed => by cases failed⟩
    intro e
    rw [failsNamed named]
    simp [file]

theorem failedReconfigurationChangesNothing {context : Context} {sink trace}
    (lines : context.backend.output = .lines sink trace) (r : Reconfiguration) :
    (∀ e, (r.attempt context).1 = .error e ↔ r.Fails context.outputs.files e) ∧
      ∀ e, (r.attempt context).1 = .error e → Untouched context (r.attempt context).2 := by
  have clean : r.FailsCleanly context := by
    cases r with
    | configure verbosity path => exact configureFailsCleanly lines verbosity path
    | configureProgram verbosity path quiet =>
      exact configureProgramFailsCleanly lines verbosity path quiet
    | applySettings settings => exact applySettingsFailsCleanly lines settings
    | applyLevels settings => exact applyLevelsFailsCleanly settings
  refine ⟨clean.1, ?_⟩
  intro e failed
  rw [clean.2 e failed]
  exact untouchedSame context

theorem unopenedFileChangesNothing :
    let start : Context := ⟨⟨.empty, .lines .supplied true⟩, .start ⟨[], []⟩⟩
    let context := start.run [.setLevel ["a"] .debug]
    let r := applySettings ⟨0, some "missing/app.log", false, .full, ⟨[("", .error), ("a", .info)], by decide⟩⟩
    context.backend.output = .lines .supplied true ∧
      r.Fails context.outputs.files (.io .notFound) ∧
      (r.attempt context).1 = .error (.io .notFound) ∧ Untouched context (r.attempt context).2 := by
  intro start context r
  have lines : context.backend.output = .lines .supplied true := rfl
  have failed : (r.attempt context).1 = .error (.io .notFound) := rfl
  obtain ⟨fails, unchanged⟩ := failedReconfigurationChangesNothing lines r
  exact ⟨lines, (fails _).mp failed, failed, unchanged _ failed⟩

end Reconfiguration

end LeveledLogging
