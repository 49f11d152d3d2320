import LeveledLogging.Proofs.Sessions
/-! What a negative verbosity silences. A backend that writes lines discards them from then on, whatever
levels are set and whenever its messages were made, until it is configured again. One that makes events
has no place to discard them at. It only takes the level of the root away: messages that it has made
already come out, and so do those of names with a level of their own
(`negativeVerbositySilencesLines`). -/
namespace LeveledLogging

def Step.configures : Step → Bool
  | configure .. => true
  | _ => false

namespace Outputs

def emitAll (outputs : Outputs) (events : List Event) : Outputs :=
  { outputs with events := outputs.events ++ events }

theorem emitAllNil (outputs : Outputs) : outputs.emitAll [] = outputs := by simp [emitAll]

theorem emitAllAppend (outputs : Outputs) (events more : List Event) :
    (outputs.emitAll events).emitAll more = outputs.emitAll (events ++ more) := by
  simp [emitAll]

theorem emitAllSame {outputs : Outputs} {events : List Event} :
    outputs.emitAll events = outputs ↔ events = [] := by
  constructor
  · intro same
    simpa [emitAll] using congrArg Outputs.events same
  · rintro rfl
    exact emitAllNil outputs

theorem writeBytesDiscards (outputs : Outputs) (bytes : ByteArray) :
    outputs.writeBytes .discard bytes = .ok outputs := by
  unfold writeBytes
  split <;> rfl

theorem writeLineDiscards (outputs : Outputs) (line : String) :
    outputs.writeLine .discard line = outputs := by
  rw [writeLine, write, writeBytesDiscards]

end Outputs

namespace Context

def Muted (context : Context) : Prop :=
  context.backend.output = .events ∨ ∃ trace, context.backend.output = .lines .discard trace

theorem Muted.sound {context : Context} (muted : context.Muted) : context.Sound := by
  unfold Sound
  rcases muted with events | ⟨trace, lines⟩
  · rw [events]
    trivial
  · rw [lines]
    trivial

def event? (context : Context) (message : Message) : Option Event :=
  match context.backend.output with
  | .events => message.level.severity.map fun severity =>
      .message severity (LoggerName.dots message.name) message.record
  | _ => none

theorem sendMuted {context : Context} (muted : context.Muted) (now : Moment) (message : Message) :
    (context.send now message).outputs = context.outputs.emitAll (context.event? message).toList := by
  unfold send event?
  rcases muted with events | ⟨trace, lines⟩
  · simp only [events]
    cases message.level.severity with
    | none => exact (Outputs.emitAllNil _).symm
    | some severity => rfl
  · simp only [lines]
    exact (Outputs.writeLineDiscards _ _).trans (Outputs.emitAllNil _).symm

theorem writeBytesMuted {context : Context} (muted : context.Muted) (insistent : Bool)
    (bytes : ByteArray) :
    (((context.writeBytes insistent bytes).map Prod.snd).getD context).outputs = context.outputs := by
  unfold writeBytes
  rcases muted with events | ⟨trace, lines⟩
  · simp only [events]
    rfl
  · have discarded : (if insistent = true then context.outputs.offer .discard bytes
        else context.outputs.writeBytes .discard bytes) = .ok context.outputs := by
      split
      · rfl
      · exact Outputs.writeBytesDiscards _ _
    simp only [lines, discarded]
    rfl

theorem configureNegative {context : Context} (sound : context.Sound) {verbosity : Int32}
    (negative : verbosity.toInt < 0) (path : Option String) :
    (context.configure verbosity path).1 = .ok () ∧ (context.configure verbosity path).2.Muted := by
  have off : Level.ofVerbosity verbosity.toInt = .off := Level.ofVerbosityOff.mpr negative
  cases found : context.backend.output with
  | lines sink trace =>
    rw [configureLines found, off]
    exact ⟨rfl, .inr ⟨trace, rfl⟩⟩
  | events =>
    rw [configureEvents found]
    exact ⟨rfl, .inl found⟩
  | calls refusing =>
    rw [Sound, found] at sound
    contradiction

theorem configureKind {context : Context} (sound : context.Sound) (verbosity : Int32)
    (path : Option String) :
    (context.configure verbosity path).2.backend.output = .events ↔
      context.backend.output = .events := by
  cases found : context.backend.output with
  | lines sink trace =>
    rw [configureLines found]
    split
    · rw [found]
    · simp
  | events =>
    rw [configureEvents found]
    exact iff_of_true found rfl
  | calls refusing =>
    rw [Sound, found] at sound
    contradiction

theorem setTraceKind (context : Context) (trace : Bool) :
    ((context.setTrace trace).getD context).backend.output = .events ↔
      context.backend.output = .events := by
  unfold setTrace
  split
  · rename_i lines
    simp [lines]
  · rfl

end Context

namespace Session

def publication (session : Session) : Step → List Event
  | .send number _ => ((session.held number).bind session.context.event?).toList
  | _ => []

def published (session : Session) : List Step → List Event
  | [] => []
  | step :: rest => session.publication step ++ (session.perform step).published rest

theorem performKind {session : Session} (sound : session.context.Sound) (step : Step) :
    (session.perform step).context.backend.output = .events ↔
      session.context.backend.output = .events := by
  cases step with
  | configure verbosity path => exact Context.configureKind sound verbosity path
  | setLevel name level =>
    rw [perform, Context.setLevelSound sound]
    rfl
  | setTrace trace => exact Context.setTraceKind session.context trace
  | create name level depth =>
    simp only [perform, Context.newMessageSound sound]
  | set number key value => rfl
  | send number now =>
    rcases performSend session number now with ⟨_, same⟩ | ⟨message, _, sent⟩
    · rw [same]
    · rw [sent, Context.sendBackend]
  | write insistent bytes => rw [perform, Context.writeBytesBackend]

theorem runKind {session : Session} (sound : session.context.Sound) (steps : List Step) :
    (session.run steps).context.backend.output = .events ↔
      session.context.backend.output = .events := by
  induction steps generalizing session with
  | nil => rfl
  | cons step rest ih => exact (ih (performSound sound step)).trans (performKind sound step)

theorem performMuted {session : Session} (muted : session.context.Muted) {step : Step}
    (staying : step.configures = false) :
    (session.perform step).context.Muted ∧
      (session.perform step).context.outputs =
        session.context.outputs.emitAll (session.publication step) := by
  have silent : session.context.outputs = session.context.outputs.emitAll [] :=
    (Outputs.emitAllNil _).symm
  cases step with
  | configure verbosity path => contradiction
  | setLevel name level =>
    rw [perform, Context.setLevelSound muted.sound]
    exact ⟨muted, silent⟩
  | setTrace trace =>
    rw [perform, Context.setTrace]
    rcases muted with events | ⟨old, lines⟩
    · simp only [events]
      exact ⟨.inl events, silent⟩
    · simp only [lines]
      exact ⟨.inr ⟨trace, rfl⟩, silent⟩
  | create name level depth =>
    simp only [perform, Context.newMessageSound muted.sound]
    exact ⟨muted, silent⟩
  | set number key value => exact ⟨muted, silent⟩
  | send number now =>
    rcases performSend session number now with ⟨gone, same⟩ | ⟨message, found, sent⟩
    · rw [same, publication, gone]
      exact ⟨muted, silent⟩
    · rw [sent, publication, found]
      refine ⟨?_, Context.sendMuted muted now message⟩
      rw [Context.Muted, Context.sendBackend]
      exact muted
  | write insistent bytes =>
    refine ⟨?_, (Context.writeBytesMuted muted insistent bytes).trans silent⟩
    rw [perform, Context.Muted, Context.writeBytesBackend]
    exact muted

theorem runMuted {session : Session} (muted : session.context.Muted) {steps : List Step}
    (staying : ∀ step ∈ steps, step.configures = false) :
    (session.run steps).context.outputs =
      session.context.outputs.emitAll (session.published steps) := by
  induction steps generalizing session with
  | nil => exact (Outputs.emitAllNil _).symm
  | cons step rest ih =>
    obtain ⟨still, outputs⟩ := performMuted muted (staying step List.mem_cons_self)
    have later := ih still fun other inside => staying other (List.mem_cons_of_mem _ inside)
    rw [outputs, Outputs.emitAllAppend] at later
    exact later

theorem publishedNothing {session : Session} {steps : List Step} :
    session.published steps = [] ↔
      ∀ earlier step rest, steps = earlier ++ step :: rest →
        (session.run earlier).publication step = [] := by
  induction steps generalizing session with
  | nil => simp [published]
  | cons first others ih =>
    rw [published, List.append_eq_nil_iff, ih]
    constructor
    · rintro ⟨here, later⟩ earlier step rest parts
      rcases List.cons_eq_append_iff.mp parts with ⟨rfl, same⟩ | ⟨before, rfl, same⟩
      · cases same
        exact here
      · exact later before step rest same
    · intro silent
      refine ⟨silent [] first others rfl, ?_⟩
      rintro earlier step rest rfl
      exact silent (first :: earlier) step rest rfl

theorem applyLevelsSteps (session : Session) (settings : Settings) :
    ∃ steps, (∀ step ∈ steps, step.configures = false) ∧
      (session.context.applyLevels settings).2 = (session.run steps).context := by
  unfold Context.applyLevels
  cases settings.overrides with
  | error e => exact ⟨[], by simp, rfl⟩
  | ok overrides =>
    let level (setting : LoggerName × Level) : Step := .setLevel setting.1.segments setting.2
    have each : ∀ session : Session, (session.run (overrides.map level)).context =
        session.context.setLevels overrides := by
      induction overrides with
      | nil => exact fun _ => rfl
      | cons setting rest ih => exact fun session => ih (session.perform (level setting))
    refine ⟨.setLevel [] settings.rootLevel :: overrides.map level, ?_, ?_⟩
    · intro step inside
      rcases List.mem_cons.mp inside with rfl | inside
      · rfl
      · obtain ⟨setting, _, rfl⟩ := List.mem_map.mp inside
        rfl
    · exact (each (session.perform (.setLevel [] settings.rootLevel))).symm

end Session

theorem Waiting.loggable {start : Context} {steps : List Step} {number : Nat} {message : Message}
    (waiting : Waiting start steps number message) : message.level ≠ .off := by
  cases waiting with
  | made loggable _ _ => exact loggable

theorem publicationNothing {start : Context} (sound : start.Sound) (steps : List Step) (step : Step) :
    (Session.after start steps).publication step = [] ↔
      (start.backend.output = .events →
        ∀ number now message, step = .send number now → ¬ Waiting start steps number message) := by
  have kind : (Session.after start steps).context.backend.output = .events ↔
      start.backend.output = .events := Session.runKind sound steps
  cases step with
  | send number now =>
    rw [Session.publication, Option.toList_eq_nil_iff, Option.bind_eq_none_iff]
    simp only [heldIff sound]
    constructor
    · rintro silent events _ _ message ⟨⟩ waiting
      have none := silent message waiting
      rw [Context.event?, kind.mpr events, Option.map_eq_none_iff] at none
      exact waiting.loggable (Level.severityNone.mp none)
    · intro nobody message waiting
      unfold Context.event?
      split
      · rename_i events
        exact absurd waiting (nobody (kind.mp events) number now message rfl)
      · rfl
  | _ => simp [Session.publication]

theorem negativeVerbositySilencesLines {start : Context} (sound : start.Sound)
    (before later : List Step) {verbosity : Int32} (negative : verbosity.toInt < 0)
    (path : Option String) (staying : ∀ step ∈ later, step.configures = false) :
    let configured := Session.after start (before ++ [.configure verbosity path])
    let final := Session.after start (before ++ .configure verbosity path :: later)
    ((Session.after start before).context.configure verbosity path).1 = .ok () ∧
    (start.backend.output ≠ .events → final.context.outputs = configured.context.outputs) ∧
    (start.backend.output = .events →
      final.context.outputs = configured.context.outputs.emitAll (configured.published later) ∧
      (final.context.outputs = configured.context.outputs ↔
        ∀ earlier number now rest message, later = earlier ++ .send number now :: rest →
          ¬ Waiting start (before ++ .configure verbosity path :: earlier) number message)) ∧
    ∀ settings, ∃ steps, (∀ step ∈ steps, step.configures = false) ∧
      (final.context.applyLevels settings).2 = (final.run steps).context := by
  intro configured final
  have reached : (Session.after start before).context.Sound := afterSound sound before
  obtain ⟨succeeds, muted⟩ := Context.configureNegative reached negative path
  have first : configured = (Session.after start before).perform (.configure verbosity path) :=
    Session.runSnoc _ before _
  have onward : ∀ steps, Session.after start (before ++ .configure verbosity path :: steps) =
      configured.run steps := by
    intro steps
    rw [first]
    exact Session.runAppend _ before _
  have quiet : configured.context.Muted := by
    rw [first]
    exact muted
  have outputs : final.context.outputs =
      configured.context.outputs.emitAll (configured.published later) := by
    rw [show final = configured.run later from onward later]
    exact Session.runMuted quiet staying
  have nothing : final.context.outputs = configured.context.outputs ↔
      (start.backend.output = .events →
        ∀ earlier number now rest message, later = earlier ++ .send number now :: rest →
          ¬ Waiting start (before ++ .configure verbosity path :: earlier) number message) := by
    rw [outputs, Outputs.emitAllSame, Session.publishedNothing]
    simp only [← onward, publicationNothing sound]
    constructor
    · intro silent events earlier number now rest message parts
      exact silent earlier _ rest parts events number now message rfl
    · rintro nobody earlier step rest parts events number now message rfl
      exact nobody events earlier number now rest message parts
  refine ⟨succeeds, ?_, ?_, final.applyLevelsSteps⟩
  · intro lines
    exact nothing.mpr fun events => absurd events lines
  · intro events
    refine ⟨outputs, nothing.trans ?_⟩
    exact ⟨fun silent => silent events, fun silent _ => silent⟩

/- A message from before a negative verbosity comes out as an event, and so does one of a name that is
given a level after it. -/
theorem eventsThroughNegativeVerbosity :
    let start : Context := ⟨BackendKind.tracing.create, .start ⟨[], []⟩⟩
    let now : Moment := ⟨0, 0, 0⟩
    let before : List Step := [.setLevel [] .info, .create ["b"] .info 0]
    let later : List Step :=
      [.send 0 now, .setLevel ["a"] .debug, .create ["a"] .info 0, .set 1 messageKey (.text "hello"),
        .send 1 now]
    start.Sound ∧ (∀ step ∈ later, step.configures = false) ∧
      ((Session.after start before).context.configure (-1) none).1 = .ok () ∧
      (Session.after start (before ++ [.configure (-1) none])).context.outputs.events = [] ∧
      (Session.after start (before ++ .configure (-1) none :: later)).context.outputs.events =
        [.message .info "b" .empty, .message .info "a" ⟨"", "hello", [], "", none⟩] := by
  refine ⟨trivial, by decide, rfl, rfl, ?_⟩
  decide +kernel

theorem linesSilenced :
    let start : Context := ⟨⟨.empty, .lines .supplied false⟩, .start ⟨[], []⟩⟩
    let now : Moment := ⟨0, 0, 0⟩
    let before : List Step :=
      [.setLevel [] .info, .create ["b"] .info 0, .create ["b"] .info 0, .send 0 now]
    let later : List Step :=
      [.send 1 now, .setLevel ["a"] .debug, .create ["a"] .info 0, .send 2 now, .write true ⟨#[0x61]⟩]
    start.Sound ∧ (-1 : Int32).toInt < 0 ∧ (∀ step ∈ later, step.configures = false) ∧
      (Session.after start (before ++ .configure (-1) (some "/log") :: later)).context.outputs =
        ⟨⟨[], []⟩, "", (Record.empty.logLine now ["b"] .info false : String), []⟩ := by
  intro start now before later
  have sound : start.Sound := trivial
  have negative : (-1 : Int32).toInt < 0 := by decide
  have staying : ∀ step ∈ later, step.configures = false := by decide
  refine ⟨sound, negative, staying, ?_⟩
  rw [(negativeVerbositySilencesLines sound before later negative (some "/log") staying).2.1 (by decide)]
  decide +kernel

end LeveledLogging
