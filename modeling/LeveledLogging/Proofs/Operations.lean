import LeveledLogging.Logger
import LeveledLogging.Proofs.Opening
/-! Runs of a backend and what every run keeps. `Reachable` holds of the states of a bundled backend
after any operations in any order, failures included; in all of them the file that lines go to is
there. Messages may be sent at any time, also those that were made long before. -/
namespace LeveledLogging

inductive Operation where
  | configure (verbosity : Int32) (path : Option String)
  | configureProgram (verbosity : Int32) (path : Option String) (quiet : Bool)
  | applySettings (settings : Settings)
  | applyLevels (settings : Settings)
  | setLevel (name : List String) (level : Level)
  | setLevelOf (logger : Logger) (level : Level)
  | setTrace (trace : Bool)
  | send (now : Moment) (message : Message)
  | write (insistent : Bool) (bytes : ByteArray)
  | report (event : Event)

namespace Context

def perform (context : Context) : Operation → Context
  | .configure verbosity path => (context.configure verbosity path).2
  | .configureProgram verbosity path quiet => (context.configureProgram verbosity path quiet).2
  | .applySettings settings => (context.applySettings settings).2
  | .applyLevels settings => (context.applyLevels settings).2
  | .setLevel name level => context.setLevel name level
  | .setLevelOf logger level => context.setLevelOf logger level
  | .setTrace trace => (context.setTrace trace).getD context
  | .send now message => context.send now message
  | .write insistent bytes => ((context.writeBytes insistent bytes).map Prod.snd).getD context
  | .report event => context.emit event

def run (context : Context) (operations : List Operation) : Context :=
  operations.foldl perform context

/- A backend of a bundled kind whose lines, if it writes any, have somewhere to go. -/
def Sound (context : Context) : Prop :=
  match context.backend.output with
  | .lines sink _ => context.outputs.Open sink
  | .events => True
  | .calls _ => False

def Fresh (context : Context) : Prop := context.backend.levels = .empty ∧ context.Sound

def Reachable (context : Context) : Prop :=
  ∃ start operations, Fresh start ∧ context = start.run operations

theorem setLevelSound {context : Context} (sound : context.Sound) (name : List String)
    (level : Level) : context.setLevel name level = context.withLevel name level := by
  unfold Sound at sound
  unfold setLevel
  split
  · rename_i found
    rw [found] at sound
    contradiction
  · rfl

theorem setLevelsSound {context : Context} (sound : context.Sound)
    (settings : List (LoggerName × Level)) :
    context.setLevels settings = { context with
      backend.levels := context.backend.levels.setAll
        (settings.map fun setting => (setting.1.segments, setting.2)) } := by
  induction settings generalizing context with
  | nil => rfl
  | cons setting rest ih =>
    change (context.setLevel setting.1.segments setting.2).setLevels rest = _
    rw [setLevelSound sound]
    exact ih sound

theorem releaseOpen {outputs : Outputs} {sink : Sink} (isOpen : outputs.Open sink) (old : Sink) :
    (outputs.release old).Open sink := by
  unfold Outputs.release
  split
  · exact isOpen
  · cases sink <;> exact isOpen

theorem configureLines {context : Context} {sink trace}
    (lines : context.backend.output = .lines sink trace) (verbosity : Int32)
    (path : Option String) :
    context.configure verbosity path =
      match openSink context.outputs.files (.ofVerbosity verbosity.toInt) path with
      | .error fault => (.error (.io fault), context)
      | .ok (next, files) =>
        (.ok (), ⟨⟨context.backend.levels.set [] (.ofVerbosity verbosity.toInt), .lines next trace⟩,
          { context.outputs with files }.release sink⟩) := by
  obtain ⟨⟨levels, output⟩, outputs⟩ := context
  cases lines
  rfl

theorem configureEvents {context : Context} (events : context.backend.output = .events)
    (verbosity : Int32) (path : Option String) :
    context.configure verbosity path =
      (.ok (), context.withLevel [] (.ofVerbosity verbosity.toInt)) := by
  unfold configure
  rw [events]

theorem configureSound {context : Context} (sound : context.Sound) (verbosity : Int32)
    (path : Option String) : (context.configure verbosity path).2.Sound := by
  cases found : context.backend.output with
  | lines sink trace =>
    rw [configureLines found]
    split
    · exact sound
    · rename_i next files opened
      exact releaseOpen ((openSinkOpened opened).1.isOpen rfl).1 sink
  | events =>
    rw [configureEvents found]
    exact sound
  | calls refusing =>
    rw [Sound, found] at sound
    contradiction

theorem setLevelsKeepsSound {context : Context} (sound : context.Sound)
    (settings : List (LoggerName × Level)) : (context.setLevels settings).Sound := by
  rw [setLevelsSound sound]
  exact sound

theorem applySettingsSound {context : Context} (sound : context.Sound) (settings : Settings) :
    (context.applySettings settings).2.Sound := by
  unfold applySettings
  split
  · exact sound
  · rename_i overrides _
    have configured := configureSound sound settings.verbosity settings.path
    split
    · rename_i after same
      rw [same] at configured
      exact setLevelsKeepsSound configured overrides
    · exact configured

theorem applyLevelsSound {context : Context} (sound : context.Sound) (settings : Settings) :
    (context.applyLevels settings).2.Sound := by
  unfold applyLevels
  split
  · exact sound
  · rename_i overrides _
    have rooted : (context.setLevel [] settings.rootLevel).Sound := by
      rw [setLevelSound sound]
      exact sound
    exact setLevelsKeepsSound rooted overrides

theorem setLevelOfSound {context : Context} (sound : context.Sound) (logger : Logger)
    (level : Level) : (context.setLevelOf logger level).Sound := by
  unfold setLevelOf
  split
  · rw [setLevelSound sound]
    exact sound
  · exact sound

theorem setTraceSound {context after : Context} (sound : context.Sound) {trace : Bool}
    (done : context.setTrace trace = some after) : after.Sound := by
  unfold setTrace at done
  split at done
  · rename_i sink old lines
    cases Option.some.inj done
    rw [Sound, lines] at sound
    exact sound
  · contradiction

theorem emitSound {context : Context} (sound : context.Sound) (event : Event) :
    (context.emit event).Sound := by
  unfold Sound at sound ⊢
  change match context.backend.output with | .lines sink _ => _ | .events => _ | .calls _ => _
  split
  · rename_i sink _ lines
    rw [lines] at sound
    cases sink <;> exact sound
  · trivial
  · rename_i calls
    rw [calls] at sound
    exact sound

theorem sendSound {context : Context} (sound : context.Sound) (now : Moment) (message : Message) :
    (context.send now message).Sound := by
  unfold send
  split
  · rename_i sink trace lines
    rw [Sound, lines] at sound
    unfold Sound
    simp only [lines]
    exact Outputs.writeLineOpen sound _ _
  · split
    · exact emitSound sound _
    · exact sound
  · exact emitSound sound _

theorem writeBytesSound {context after : Context} (sound : context.Sound) {insistent bytes r}
    (done : context.writeBytes insistent bytes = some (r, after)) : after.Sound := by
  unfold writeBytes at done
  split at done
  · rename_i sink trace lines
    have isOpen : context.outputs.Open sink := by rwa [Sound, lines] at sound
    have kept : ∀ outputs, (if insistent = true then context.outputs.offer sink bytes
        else context.outputs.writeBytes sink bytes) = .ok outputs → outputs.Open sink := by
      intro outputs written
      by_cases takes : sink = .broken
      · subst takes
        trivial
      · split at written
        · obtain ⟨_, offered, gains⟩ := Outputs.offerReceives isOpen takes bytes
          cases Except.ok.inj (offered.symm.trans written)
          exact gains.isOpen isOpen
        · obtain ⟨_, offered, gains⟩ := Outputs.writeReceives isOpen takes bytes
          cases Except.ok.inj (offered.symm.trans written)
          exact gains.isOpen isOpen
    have settled : ∀ outputs, outputs.Open sink → ({ context with outputs } : Context).Sound := by
      intro outputs isOpen
      simpa only [Sound, lines] using isOpen
    dsimp only at done
    split at done
    · rename_i outputs written _
      cases done
      exact settled outputs (kept outputs written)
    · rename_i outputs fault written _
      cases done
      exact settled outputs (kept outputs written)
    · cases done
      exact sound
  · contradiction

theorem sendBackend (context : Context) (now : Moment) (message : Message) :
    (context.send now message).backend = context.backend := by
  unfold send
  split
  · rfl
  · split <;> rfl
  · rfl

theorem writeBytesBackend (context : Context) (insistent : Bool) (bytes : ByteArray) :
    (((context.writeBytes insistent bytes).map Prod.snd).getD context).backend = context.backend := by
  unfold writeBytes
  split
  · dsimp only
    split <;> rfl
  · rfl

theorem performSound {context : Context} (sound : context.Sound) (operation : Operation) :
    (context.perform operation).Sound := by
  cases operation with
  | configure verbosity path => exact configureSound sound verbosity path
  | configureProgram verbosity path quiet => exact configureSound sound _ path
  | applySettings settings => exact applySettingsSound sound settings
  | applyLevels settings => exact applyLevelsSound sound settings
  | setLevel name level =>
    rw [perform, setLevelSound sound]
    exact sound
  | setLevelOf logger level => exact setLevelOfSound sound logger level
  | setTrace trace =>
    rw [perform]
    cases done : context.setTrace trace with
    | none => exact sound
    | some after => exact setTraceSound sound done
  | send now message => exact sendSound sound now message
  | write insistent bytes =>
    rw [perform]
    cases done : context.writeBytes insistent bytes with
    | none => exact sound
    | some result => exact writeBytesSound sound done
  | report event => exact emitSound sound event

theorem runSound {context : Context} (sound : context.Sound) (operations : List Operation) :
    (context.run operations).Sound := by
  induction operations generalizing context with
  | nil => exact sound
  | cons operation rest ih => exact ih (performSound sound operation)

theorem Reachable.sound {context : Context} (reachable : context.Reachable) : context.Sound := by
  obtain ⟨start, operations, fresh, rfl⟩ := reachable
  exact runSound fresh.2 operations

theorem Reachable.run {context : Context} (reachable : context.Reachable)
    (operations : List Operation) : (context.run operations).Reachable := by
  obtain ⟨start, before, fresh, rfl⟩ := reachable
  refine ⟨start, before ++ operations, fresh, ?_⟩
  rw [Context.run, Context.run, Context.run, List.foldl_append]

end Context

end LeveledLogging
