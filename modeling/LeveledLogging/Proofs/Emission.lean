import LeveledLogging.Proofs.Ceiling
import LeveledLogging.Proofs.Delivery
import LeveledLogging.Proofs.Opening
import LeveledLogging.Proofs.Diagnostics
import LeveledLogging.Proofs.Loaded
import LeveledLogging.Proofs.Resolution
/-! One message sent by the program, against the level that the program shows for its name. The levels
are set up twice, on a backend without output and on the one that sends; both hold the same history of
settings, so that they answer alike. -/
namespace LeveledLogging

def SubjectFilter.passesLevel (filter : SubjectFilter) (level : Level) : Bool :=
  level.severity.any (filter.passes .message)

theorem choosePasses {settings : Settings} {level : Level} (loggable : level ≠ .off)
    (bounded : level ≤ settings.maxLevel) :
    (SubjectFilter.choose none settings).passesLevel level = true := by
  obtain ⟨severity, rated⟩ : ∃ severity, level.severity = some severity :=
    Option.ne_none_iff_exists'.mp fun none => loggable (Level.severityNone.mp none)
  rw [SubjectFilter.passesLevel, rated]
  exact EventFilter.ofLevelPasses.mpr ⟨level, bounded, rated⟩

namespace Command

theorem outputSettingsLoud {options : Options} (loud : options.quiet = false) (settings : Settings) :
    outputSettings options settings = settings := by
  unfold outputSettings Context.programVerbosity
  rw [loud]
  rfl

inductive OutputContext (settings : Settings) (overrides : List (LoggerName × Level))
    (files : FileSystem) : BackendKind → Context → Prop where
  | simple {sink after}
    (opens : Context.openSink files settings.rootLevel settings.path = .ok (sink, after)) :
    OutputContext settings overrides files .simple
      ⟨⟨.setAll .empty (settings.history overrides), .lines sink settings.trace⟩, .start after⟩
  | tracing :
    OutputContext settings overrides files .tracing
      ⟨⟨.setAll .empty (settings.history overrides), .events⟩, .start files⟩

theorem configuredLines (options : Options) (settings : Settings) (files : FileSystem) :
    let heard := outputSettings options settings
    let bare : Context := ⟨⟨.empty, .lines .errorStream settings.trace⟩, .start files⟩
    bare.configureProgram settings.verbosity settings.path options.quiet =
      match Context.openSink files heard.rootLevel settings.path with
      | .error fault => (.error (.io fault), bare)
      | .ok (sink, after) =>
        (.ok (), ⟨⟨.set [] heard.rootLevel .empty, .lines sink settings.trace⟩, .start after⟩) := by
  intro heard bare
  have lines : bare.backend.output = .lines .errorStream settings.trace := rfl
  exact Context.configureLines lines _ _

theorem outputContextCases (options : Options) {settings : Settings}
    {overrides : List (LoggerName × Level)} (valid : settings.overrides = .ok overrides)
    (kind : BackendKind) (files : FileSystem) :
    let heard := outputSettings options settings
    (∃ fault context, kind = .simple ∧
      Context.openSink files heard.rootLevel settings.path = .error fault ∧
      context.outputs = .start files ∧
      ∀ s subscriber, outputContext s options settings subscriber kind files =
        (.error ((Failure.ofError (.io fault)).under "Failed to configure log output"), context)) ∨
    ∃ context, OutputContext heard overrides files kind context ∧
      ∀ s subscriber, outputContext s options settings subscriber kind files =
        (.ok (), { context with
          outputs := tell s subscriber context.outputs (setupTold heard kind) }) := by
  intro heard
  cases kind with
  | simple =>
    have configured := configuredLines options settings files
    dsimp only at configured
    cases opens : Context.openSink files heard.rootLevel settings.path with
    | error fault =>
      rw [opens] at configured
      refine .inl ⟨fault, ⟨⟨.empty, .lines .errorStream settings.trace⟩, .start files⟩, rfl, rfl, rfl,
        fun s subscriber => ?_⟩
      unfold outputContext
      dsimp only
      rw [configured]
      rfl
    | ok result =>
      obtain ⟨sink, after⟩ := result
      rw [opens] at configured
      refine .inr ⟨_, .simple opens, fun s subscriber => ?_⟩
      have isOpen := (Context.openSinkOpened opens).1.isOpen (rfl : (Outputs.start after).files = after)
      have sound : Context.Sound ⟨⟨.set [] heard.rootLevel .empty, .lines sink settings.trace⟩,
          tell s subscriber (.start after) (setupTold heard .simple)⟩ :=
        tellOpen isOpen.1 s subscriber _
      unfold outputContext
      dsimp only
      rw [configured, valid]
      exact congrArg _ (Context.setLevelsSound sound overrides)
  | tracing =>
    refine .inr ⟨_, .tracing, fun s subscriber => ?_⟩
    have sound : Context.Sound ⟨⟨.set [] heard.rootLevel .empty, .events⟩,
        tell s subscriber (.start files) (setupTold heard .tracing)⟩ := trivial
    unfold outputContext
    rw [valid]
    exact congrArg _ (Context.setLevelsSound sound overrides)

def rendering (s : Surroundings) (settings : Settings) (kind : BackendKind) (name : LoggerName)
    (level : Level) (text : String) (fields : List (String × Value)) : String :=
  let record := Record.ofPairs
    (s.site.pairs ++ (Fields.ofPairs fields).pairs ++ [(messageKey, .text text)])
  match kind with
  | .simple => record.logLine s.now name.segments level settings.trace
  | .tracing =>
    Event.line s.now (if settings.trace then some (s.eventSite .message) else none)
      (level.severity.getD .error) name.dotted record

/- What stands on the error stream and in the log file. Diagnostics are events, which go to the log file
only if messages are events, too. -/
def dividedOver (told text : String) : BackendKind → String × String
  | .simple => (told, text)
  | .tracing => ("", told ++ text)

/- Apart from an empty log file that may be new, the diagnostics and the text of the message are all
that a run has left behind. -/
def Leaves (s : Surroundings) (kind : BackendKind) (path : Option String) (outcome : Outcome)
    (told text : String) : Prop :=
  outcome.output = "" ∧
    match path with
    | none =>
      outcome.errorText = told ++ text ∧ ∀ p, outcome.files.content? p = s.files.content? p
    | some path =>
      let (errors, entry) := dividedOver told text kind
      outcome.errorText = errors ∧
      (entry = "" ∧ (∀ p, outcome.files.content? p = s.files.content? p) ∨
        ∃ place, outcome.files.locate (kind.logPath path) = .ok place ∧
          ∀ p, outcome.files.content? p =
            if p = place then some ((s.files.content? place).getD .empty ++ entry.toUTF8)
            else s.files.content? p)

theorem writesRendering {s : Surroundings} {settings : Settings} {subscriber : Subscriber}
    {level : Level} {severity : Severity} (rated : level.severity = some severity)
    (trace : subscriber.trace = settings.trace) (name : LoggerName) (text : String)
    (pairs : List (String × Value)) (outputs : Outputs) :
    let record := Record.ofPairs
      (s.site.pairs ++ (Fields.ofPairs pairs).pairs ++ [(messageKey, .text text)])
    subscriber.write s.now s.eventSite outputs (.message severity name.dotted record) =
      if subscriber.filter.passes .message severity then
        outputs.writeLine subscriber.sink (rendering s settings .tracing name level text pairs)
      else outputs := by
  intro record
  rw [rendering, rated, Subscriber.write, Subscriber.shownSite, trace]
  rfl

def toldSink (kind : BackendKind) (sink : Sink) : Sink :=
  match kind with
  | .simple => .errorStream
  | .tracing => sink

theorem gainsLeave {s : Surroundings} {kind : BackendKind} {path : Option String}
    {files : FileSystem} {sink : Sink} (opened : Opened kind s.files files path sink)
    (somewhere : kind = .tracing → sink ≠ .discard) {before between after : Outputs}
    (start : before.files = files) (silent : before.errorText = "") {told text : String}
    (tells : before.Gains between (toldSink kind sink) told)
    (gains : between.Gains after sink text) :
    Leaves s kind path ⟨0, "", after.errorText, after.files⟩ told
      (if sink = .discard then "" else text) := by
  have errors : after.errorText.text = (if toldSink kind sink = .errorStream then told else "") ++
      if sink = .errorStream then text else "" := by
    rw [gains.errorText (tells.errorText silent), Transcript.textOfText, String.empty_append]
  have contents : ∀ place, after.files.content? place = _ := gains.content
  simp only [tells.content, start] at contents
  cases opened with
  | nowhere same =>
    have lines : kind = .simple := by
      cases kind with
      | simple => rfl
      | tracing => exact absurd rfl (somewhere rfl)
    subst lines
    have kept : ∀ p, after.files.content? p = s.files.content? p := by
      intro p
      rw [contents, if_neg (by simp), if_neg (by simp [toldSink]), same]
    refine ⟨rfl, ?_⟩
    rw [if_pos rfl]
    cases path with
    | none => exact ⟨errors, kept⟩
    | some path => exact ⟨errors.trans String.append_empty, .inl ⟨rfl, kept⟩⟩
  | errors same =>
    refine ⟨rfl, ?_, ?_⟩
    · rw [if_neg (by simp)]
      refine errors.trans ?_
      rw [if_pos (by cases kind <;> rfl), if_pos rfl]
    · intro p
      rw [contents, if_neg (by simp), if_neg (by cases kind <;> simp [toldSink]), same]
  | @file path place opens =>
    have there := (Opened.isOpen (.file opens) start).1
    have ways : FileSystem.KeepsWays before.files after.files := by
      have first : FileSystem.KeepsWays before.files between.files := by
        cases kind with
        | simple => exact tells.keepsWays trivial
        | tracing => exact tells.keepsWays there
      exact first.trans (gains.keepsWays (tells.isOpen there))
    rw [start] at ways
    refine ⟨rfl, ?_, .inr ⟨place, ways.locate opens.located, ?_⟩⟩
    · cases kind with
      | simple => exact errors.trans String.append_empty
      | tracing => exact errors
    · intro p
      rw [contents, opens.contents]
      cases kind with
      | simple =>
        by_cases same : p = place
        · subst same
          simp [toldSink]
        · simp [same, Ne.symm same, toldSink]
      | tracing =>
        by_cases same : p = place
        · subst same
          simp [toldSink, ByteArray.append_assoc]
        · simp [same, Ne.symm same, toldSink]

def sentTold (settings : Settings) (kind : BackendKind) (name : String) (level most : Level) :
    List Diagnostic :=
  setupTold settings kind ++ if level ≤ most then [] else [.filtered name level]

section
variable (s : Surroundings) (options : Options) (settings : Settings) (subscriber : Subscriber)
variable (files : FileSystem) (name : String) {level : Level} (text : String) {fields : List String}
variable (kind : BackendKind) (loggable : level ≠ .off)

include loggable

theorem sendBroken {failure : Failure} (broken : fields.mapM readField = .error failure) :
    send s options settings subscriber files name level text fields kind =
      (.error failure, .start files) := by
  have carried : (!level.isLoggable) = false := by simp [Level.isLoggable, loggable]
  unfold send
  rw [carried, if_neg Bool.false_ne_true, broken]

theorem sendComposed {pairs : List (String × Value)} (read : fields.mapM readField = .ok pairs) :
    send s options settings subscriber files name level text fields kind =
      match outputContext s options settings subscriber kind files with
      | (.error failure, context) => (.error failure, context.outputs)
      | (.ok (), context) =>
        match LoggerName.read name with
        | .error e =>
          (.error ((Failure.ofError e).under ("Invalid logger name '" ++ name ++ "'")),
            context.outputs)
        | .ok parsed =>
          let refused := if level ≤ context.level parsed.segments then [] else [.filtered name level]
          let outputs := tell s subscriber context.outputs refused
          (.ok (), writeEvents s subscriber (Context.log { context with outputs } s.now s.site
            (.named parsed) level 0 text (Fields.ofPairs pairs)).outputs) := by
  have carried : (!level.isLoggable) = false := by simp [Level.isLoggable, loggable]
  unfold send
  rw [carried, if_neg Bool.false_ne_true, read]
  unfold Context.logger
  cases LoggerName.read name with
  | error e => rfl
  | ok parsed =>
    obtain ⟨r, context⟩ := outputContext s options settings subscriber kind files
    have same : context.allowsOf (.named parsed) level = true ↔
        level ≤ context.level parsed.segments := decide_eq_true_iff
    cases r with
    | error failure => rfl
    | ok _ =>
      simp only [explain, Functor.map, Except.map, same]

end

/- Sending stops, at the latest once the log is open, or comes to a message. Which of them it is does not
depend on the text, on the surroundings or on the subscriber. -/
theorem sendCases (options : Options) {settings : Settings} {overrides : List (LoggerName × Level)}
    (valid : settings.overrides = .ok overrides) (files : FileSystem) (name : String)
    (level : Level) (fields : List String) (kind : BackendKind) :
    let heard := outputSettings options settings
    (∃ failure outputs told, (outputs = .start files ∧ told = [] ∨
        ∃ context, OutputContext heard overrides files kind context ∧ outputs = context.outputs ∧
          told = setupTold heard kind) ∧
      ∀ s subscriber text,
        send s options settings subscriber files name level text fields kind =
          (.error failure, tell s subscriber outputs told)) ∨
    ∃ pairs context parsed, level ≠ .off ∧ fields.mapM readField = .ok pairs ∧
      OutputContext heard overrides files kind context ∧ LoggerName.read name = .ok parsed ∧
      ∀ s subscriber text,
        send s options settings subscriber files name level text fields kind =
          let outputs := tell s subscriber context.outputs
            (sentTold heard kind name level (context.level parsed.segments))
          (.ok (), writeEvents s subscriber (Context.log { context with outputs } s.now s.site
            (.named parsed) level 0 text (Fields.ofPairs pairs)).outputs) := by
  intro heard
  by_cases loggable : level = .off
  · subst loggable
    exact .inl ⟨_, _, [], .inl ⟨rfl, rfl⟩, fun _ _ _ => rfl⟩
  cases read : fields.mapM readField with
  | error failure =>
    exact .inl ⟨failure, _, [], .inl ⟨rfl, rfl⟩, fun s subscriber text =>
      sendBroken s options settings subscriber files name text kind loggable read⟩
  | ok pairs =>
    have composed := fun s subscriber text =>
      sendComposed s options settings subscriber files name text kind loggable read
    rcases outputContextCases options valid kind files with
      ⟨fault, context, _, _, untouched, fails⟩ | ⟨context, output, made⟩
    · refine .inl ⟨(Failure.ofError (.io fault)).under "Failed to configure log output", .start files, [],
        .inl ⟨rfl, rfl⟩, fun s subscriber text => ?_⟩
      rw [composed, fails]
      dsimp only
      rw [untouched]
      rfl
    · cases named : LoggerName.read name with
      | error e =>
        refine .inl ⟨(Failure.ofError e).under ("Invalid logger name '" ++ name ++ "'"), context.outputs,
          setupTold heard kind, .inr ⟨context, output, rfl, rfl⟩, fun s subscriber text => ?_⟩
        rw [composed, made, named]
      | ok parsed =>
        refine .inr ⟨pairs, context, parsed, loggable, rfl, output, rfl, fun s subscriber text => ?_⟩
        rw [composed, made, named]
        dsimp only
        rw [tellAppend]
        rfl

section
variable {s : Surroundings} {options : Options} {settings : Settings}
variable (loaded : loadSettings s options = .ok settings)
variable (name : String) (level : Level) (text : String) (fields : List String) (kind : BackendKind)

include loaded

theorem emitUninstalled {failure : Failure} {files : FileSystem}
    (failed : installSubscriber s options settings (kind = .tracing) = (.error failure, files)) :
    run s ⟨.emit name level text fields kind, options⟩ =
      finish s (.error failure) [] "" files := by
  unfold run
  simp only [loaded, failed]

theorem emitInstalled {subscriber : Subscriber} {files : FileSystem}
    (installed : installSubscriber s options settings (kind = .tracing) = (.ok subscriber, files)) :
    run s ⟨.emit name level text fields kind, options⟩ =
      let (r, outputs) := send s options settings subscriber files name level text fields kind
      finish s r [] outputs.errorText outputs.files := by
  unfold run
  simp only [loaded, installed]

end

theorem emitSucceeds {s : Surroundings} {options : Options} {name : String} {level : Level}
    {text : String} {fields : List String} {kind : BackendKind}
    (succeeded : (run s ⟨.emit name level text fields kind, options⟩).status = 0) :
    ∃ settings subscriber files outputs, loadSettings s options = .ok settings ∧
      installSubscriber s options settings (kind = .tracing) = (.ok subscriber, files) ∧
      send s options settings subscriber files name level text fields kind = (.ok (), outputs) ∧
      run s ⟨.emit name level text fields kind, options⟩ =
        ⟨0, "", outputs.errorText, outputs.files⟩ := by
  unfold run at succeeded ⊢
  dsimp only at succeeded ⊢
  cases loaded : loadSettings s options with
  | error e =>
    rw [loaded] at succeeded
    contradiction
  | ok settings =>
    rw [loaded] at succeeded
    dsimp only at succeeded ⊢
    cases installed : installSubscriber s options settings (kind = .tracing) with
    | mk r files =>
    rw [installed] at succeeded
    cases r with
    | error e => contradiction
    | ok subscriber =>
      dsimp only at succeeded ⊢
      cases sent : send s options settings subscriber files name level text fields kind with
      | mk r outputs =>
      rw [sent] at succeeded
      cases r with
      | error e => contradiction
      | ok u => exact ⟨settings, subscriber, files, outputs, rfl, installed, sent, rfl⟩

theorem installedWhole {s : Surroundings} {options : Options} {settings : Settings}
    {subscriber : Subscriber} {files : FileSystem}
    (whole : options.quiet = true → settings.path ≠ none)
    (installed : installSubscriber s options settings true = (.ok subscriber, files)) :
    Opened .tracing s.files files settings.path subscriber.sink ∧ subscriber.sink ≠ .discard ∧
      subscriber.filter = .choose s.askedFilter settings ∧ subscriber.trace = settings.trace := by
  have same : subscriberSettings options settings true = settings := by
    unfold subscriberSettings
    rw [if_neg fun muted => whole muted.1 muted.2]
    rfl
  unfold installSubscriber Subscriber.install at installed
  rw [same] at installed
  cases opened : Subscriber.openSink s.files settings.path with
  | mk r after =>
  rw [opened] at installed
  cases r with
  | error e => cases installed
  | ok sink =>
    cases installed
    obtain ⟨goes, somewhere⟩ := Subscriber.openSinkOpened opened
    exact ⟨goes, somewhere, rfl, rfl⟩

theorem writeNoEvents (s : Surroundings) (subscriber : Subscriber) {outputs : Outputs}
    (none : outputs.events = []) : writeEvents s subscriber outputs = outputs := by
  rw [writeEvents, none]
  rfl

/- A negative verbosity makes the simple backend drop its lines, whatever the levels of names are. -/
def Dropped (kind : BackendKind) (settings : Settings) : Prop :=
  kind = .simple ∧ settings.verbosity.toInt < 0

instance (kind : BackendKind) (settings : Settings) : Decidable (Dropped kind settings) :=
  inferInstanceAs (Decidable (_ ∧ _))

theorem rootOff (settings : Settings) : settings.rootLevel = .off ↔ settings.verbosity.toInt < 0 :=
  Level.ofVerbosityOff

section
variable (s : Surroundings) (settings : Settings) (levels : Hierarchy)
variable (name : LoggerName) {level : Level} (loggable : level ≠ .off)
variable (subscriber : Subscriber) (text : String) (pairs : List (String × Value))
variable {before : Outputs} (silent : before.events = [])

include loggable silent

theorem simpleSends {sink : Sink} (isOpen : before.Open sink) (takes : sink ≠ .broken) :
    let outputs := writeEvents s subscriber
      (Context.log ⟨⟨levels, .lines sink settings.trace⟩, before⟩ s.now s.site (.named name) level 0
        text (Fields.ofPairs pairs)).outputs
    if level ≤ levels.get name.segments then
      before.write sink (rendering s settings .simple name level text pairs) = .ok outputs
    else outputs = before := by
  intro outputs
  let context : Context := ⟨⟨levels, .lines sink settings.trace⟩, before⟩
  have sound : context.Sound := isOpen
  let call : Call := .log level 0 text (Fields.ofPairs pairs)
  have bound : (Logger.named name).name? = some name := rfl
  have quiet : ∀ {result}, call.run context s.now s.site (.named name) = result →
      result.outputs.events = [] → outputs = result.outputs := by
    rintro _ rfl none
    exact writeNoEvents s subscriber none
  split
  · rename_i allowed
    have healthy : ∀ trace, context.backend.output ≠ .lines .broken trace :=
      fun _ broken => takes (Output.lines.inj broken).1
    obtain ⟨written, gains⟩ :=
      (Context.callDelivers sound s.now s.site bound call loggable allowed healthy).outputs
    rw [quiet rfl (gains.events.trans silent)]
    exact written
  · rename_i refused
    exact quiet (Context.callRefused sound s.now s.site bound call fun both => refused both.2) silent

theorem tracingSends (trace : subscriber.trace = settings.trace) :
    let outputs := writeEvents s subscriber
      (Context.log ⟨⟨levels, .events⟩, before⟩ s.now s.site (.named name) level 0 text
        (Fields.ofPairs pairs)).outputs
    if level ≤ levels.get name.segments then
      ∃ event, outputs =
        if subscriber.filter.passesLevel level then
          (before.emit event).writeLine subscriber.sink
            (rendering s settings .tracing name level text pairs)
        else before.emit event
    else outputs = before := by
  intro outputs
  let context : Context := ⟨⟨levels, .events⟩, before⟩
  have sound : context.Sound := trivial
  let call : Call := .log level 0 text (Fields.ofPairs pairs)
  have bound : (Logger.named name).name? = some name := rfl
  split
  · rename_i allowed
    have takes : ∀ trace, context.backend.output ≠ .lines .broken trace := by
      intro trace broken
      cases broken
    obtain ⟨severity, rated, emitted⟩ :=
      (Context.callDelivers sound s.now s.site bound call loggable allowed takes).outputs
    let event : Event := .message severity name.dotted (Record.ofPairs
      (s.site.pairs ++ (Fields.ofPairs pairs).pairs ++ [(messageKey, .text text)]))
    have one : (before.emit event).events = [event] := congrArg (· ++ [event]) silent
    have written : writeEvents s subscriber (before.emit event) = _ :=
      (congrArg (List.foldl _ (before.emit event)) one).trans
        (writesRendering rated trace name text pairs _)
    have asked : subscriber.filter.passesLevel level = subscriber.filter.passes .message severity :=
      congrArg (Option.any (subscriber.filter.passes .message)) rated
    refine ⟨event, (congrArg (writeEvents s subscriber) emitted).trans ?_⟩
    rw [asked]
    exact written
  · rename_i refused
    have same : call.run context s.now s.site (.named name) = context :=
      Context.callRefused sound s.now s.site bound call fun both => refused both.2
    refine Eq.trans (congrArg (fun c => writeEvents s subscriber c.outputs) same) ?_
    exact writeNoEvents s subscriber silent

end

section
variable {s : Surroundings} {settings : Settings} (levels : Hierarchy)
variable (name : LoggerName) {level : Level} (loggable : level ≠ .off)
variable {subscriber : Subscriber} (told : List Diagnostic) (text : String)
variable (pairs : List (String × Value))

include loggable

theorem simpleLeaves {after : FileSystem} {sink : Sink}
    (opens : Context.openSink s.files settings.rootLevel settings.path = .ok (sink, after))
    (aside : subscriber.sink = .errorStream) :
    let before := tell s subscriber (.start after) told
    let outputs := writeEvents s subscriber
      (Context.log ⟨⟨levels, .lines sink settings.trace⟩, before⟩ s.now s.site (.named name) level 0
        text (Fields.ofPairs pairs)).outputs
    Leaves s .simple settings.path ⟨0, "", outputs.errorText, outputs.files⟩
      (toldText s subscriber.filter subscriber.trace told)
      (if level ≤ levels.get name.segments ∧ ¬ Dropped .simple settings then
        rendering s settings .simple name level text pairs else "") := by
  intro before outputs
  obtain ⟨opened, discards⟩ := Context.openSinkOpened opens
  obtain ⟨isOpen, healthy⟩ := opened.isOpen (rfl : (Outputs.start after).files = after)
  have tells : (Outputs.start after).Gains before (toldSink .simple sink)
      (toldText s subscriber.filter subscriber.trace told) := by
    have errors : (Outputs.start after).Open subscriber.sink ∧ subscriber.sink ≠ .broken := by
      rw [aside]
      exact ⟨trivial, by simp⟩
    have gains := tellGains errors.1 errors.2 s told
    rwa [aside] at gains
  have stillOpen : before.Open sink := tells.isOpen isOpen
  have sends := simpleSends s settings levels name loggable subscriber text pairs tells.events
    stillOpen healthy
  have gains : before.Gains outputs sink
      (if level ≤ levels.get name.segments then rendering s settings .simple name level text pairs
        else "") := by
    split at sends
    · rename_i allowed
      obtain ⟨_, written, gains⟩ := Outputs.writeGains stillOpen healthy
        (rendering s settings .simple name level text pairs)
      rw [if_pos allowed]
      cases written.symm.trans sends
      exact gains
    · rename_i refused
      rw [if_neg refused, show outputs = before from sends]
      exact Outputs.gainsNothing _ _
  have left := gainsLeave opened (fun other => nomatch other) rfl rfl tells gains
  by_cases dropped : settings.verbosity.toInt < 0
  · rw [if_neg fun both => both.2 ⟨rfl, dropped⟩]
    rwa [if_pos (discards.mpr ((rootOff settings).mpr dropped))] at left
  · have heard : sink ≠ .discard := fun same => dropped ((rootOff settings).mp (discards.mp same))
    rw [if_neg heard] at left
    simpa [Dropped, dropped] using left

theorem tracingLeaves {files : FileSystem}
    (opened : Opened .tracing s.files files settings.path subscriber.sink)
    (somewhere : subscriber.sink ≠ .discard) (trace : subscriber.trace = settings.trace) :
    let before := tell s subscriber (.start files) told
    let outputs := writeEvents s subscriber
      (Context.log ⟨⟨levels, .events⟩, before⟩ s.now s.site (.named name) level 0 text
        (Fields.ofPairs pairs)).outputs
    Leaves s .tracing settings.path ⟨0, "", outputs.errorText, outputs.files⟩
      (toldText s subscriber.filter subscriber.trace told)
      (if level ≤ levels.get name.segments ∧ subscriber.filter.passesLevel level = true then
        rendering s settings .tracing name level text pairs else "") := by
  intro before outputs
  obtain ⟨isOpen, healthy⟩ := opened.isOpen (rfl : (Outputs.start files).files = files)
  have tells : (Outputs.start files).Gains before subscriber.sink
      (toldText s subscriber.filter subscriber.trace told) :=
    tellGains isOpen healthy s told
  have sends := tracingSends s settings levels name loggable subscriber text pairs tells.events trace
  have entered : ∃ begun between : Outputs, begun.files = files ∧ begun.errorText = "" ∧
      begun.Gains between subscriber.sink (toldText s subscriber.filter subscriber.trace told) ∧
      between.Gains outputs subscriber.sink
        (if level ≤ levels.get name.segments ∧ subscriber.filter.passesLevel level = true then
          rendering s settings .tracing name level text pairs else "") := by
    split at sends
    · rename_i allowed
      obtain ⟨event, written⟩ := sends
      refine ⟨(Outputs.start files).emit event, before.emit event, rfl, rfl, tells.emit event, ?_⟩
      rw [show outputs = _ from written]
      by_cases passes : subscriber.filter.passesLevel level = true
      · rw [if_pos passes, if_pos ⟨allowed, passes⟩]
        have stillOpen := (tells.emit event).isOpen (Outputs.Open.ofFiles rfl isOpen)
        exact Outputs.writeLineGains stillOpen healthy _
      · rw [if_neg passes, if_neg fun both => passes both.2]
        exact Outputs.gainsNothing _ _
    · rename_i refused
      refine ⟨.start files, before, rfl, rfl, tells, ?_⟩
      rw [if_neg fun both => refused both.1, show outputs = before from sends]
      exact Outputs.gainsNothing _ _
  obtain ⟨begun, between, start, silent, first, second⟩ := entered
  have left := gainsLeave opened (fun _ => somewhere) start silent first second
  rwa [if_neg somewhere] at left

end

theorem renderingVisible (s : Surroundings) (settings : Settings) (kind : BackendKind)
    (name : LoggerName) (level : Level) (text : String) (pairs : List (String × Value)) :
    rendering s settings kind name level text pairs ≠ "" := by
  obtain ⟨body, ends⟩ : ∃ body, rendering s settings kind name level text pairs = body ++ "\n" := by
    cases kind with
    | simple => exact ⟨_, rfl⟩
    | tracing => exact ⟨_, rfl⟩
  intro empty
  have letters := congrArg String.toList (ends.symm.trans empty)
  simp at letters

theorem emitsWhatResolveShows {s : Surroundings} (unasked : s.variableOf "RUST_LOG" = none)
    {options : Options} (loud : options.quiet = false) {name : LoggerName} {level : Level}
    {text : String} {fields : List String} {kind : BackendKind}
    (succeeded : (run s ⟨.emit name.dotted level text fields kind, options⟩).status = 0) :
    ∃ settings shown pairs, loadSettings s options = .ok settings ∧
      fields.mapM readField = .ok pairs ∧
      run s ⟨.resolve [name.dotted], options⟩ =
        ⟨0, unlines [shownName name.dotted ++ " = " ++ shown.title], "", s.files⟩ ∧
      rendering s settings kind name level text pairs ≠ "" ∧
      Leaves s kind settings.path (run s ⟨.emit name.dotted level text fields kind, options⟩)
        (toldText s (.choose none settings) settings.trace
          (sentTold settings kind name.dotted level shown))
        (if level ≤ shown ∧ ¬ Dropped kind settings then
          rendering s settings kind name level text pairs else "") := by
  obtain ⟨settings, subscriber, files, outputs, loaded, installed, done, ends⟩ :=
    emitSucceeds succeeded
  obtain ⟨overrides, valid⟩ := Settings.overridesOk (loadedNamed loaded)
  have cases := sendCases options valid files name.dotted level fields kind
  rw [outputSettingsLoud loud] at cases
  rcases cases with
    ⟨_, _, _, _, fails⟩ | ⟨pairs, context, parsed, loggable, read, output, named, sends⟩
  · rw [fails] at done
    cases done
  cases (LoggerName.readDotted name).symm.trans named
  rw [sends] at done
  cases done
  refine ⟨settings, _, pairs, loaded, read, resolveRuns loaded valid [name],
    renderingVisible s settings kind name level text pairs, ?_⟩
  rw [ends]
  have unfiltered : s.askedFilter = none := by rw [Surroundings.askedFilter, unasked]; rfl
  cases output with
  | simple opens =>
    change installSubscriber s options settings false = _ at installed
    rw [installWithoutFile, unfiltered] at installed
    cases installed
    have shown : subscriberSettings options settings false = { settings with path := none } := by
      unfold subscriberSettings
      rw [loud]
      rfl
    rw [shown]
    exact simpleLeaves _ name loggable _ text pairs opens rfl
  | tracing =>
    have whole : options.quiet = true → settings.path ≠ none := fun quiet => nomatch loud.symm.trans quiet
    obtain ⟨opened, somewhere, filter, trace⟩ := installedWhole whole installed
    rw [unfiltered] at filter
    let levels := Hierarchy.setAll .empty (settings.history overrides)
    have left := tracingLeaves levels name loggable
      (sentTold settings .tracing name.dotted level (levels.get name.segments)) text pairs opened
      somewhere trace
    have passes : level ≤ levels.get name.segments →
        (SubjectFilter.choose none settings).passesLevel level = true := fun allowed =>
      choosePasses loggable (Level.leTrans allowed (Settings.levelBound valid name.segments))
    have undropped : ¬ Dropped .tracing settings := fun dropped => nomatch dropped.1
    have wanted := and_congr_right fun allowed => iff_of_true (passes allowed) undropped
    rw [filter, trace, if_congr wanted rfl rfl] at left
    exact left

theorem discardedThoughShown :
    let s : Surroundings :=
      ⟨[("COMMONLOG_VERBOSITY", "-1")], none, ⟨[], []⟩, ⟨0, 0, 0⟩, ⟨"m", 1⟩, fun _ => "",
        SubjectFilter.read, "", ""⟩
    let options : Options := ⟨0, false, none, ["a=info"]⟩
    s.variableOf "RUST_LOG" = none ∧
      run s ⟨.emit "a" .info "hello" [] .simple, options⟩ = ⟨0, "", "", s.files⟩ ∧
      run s ⟨.resolve ["a"], options⟩ = ⟨0, "a = Info\n", "", s.files⟩ ∧
      Level.info ≤ Level.info := by
  decide +kernel

theorem emittedAsShown :
    let s : Surroundings :=
      ⟨[("COMMONLOG_LEVELS", "a=info")], none, ⟨[], []⟩, ⟨0, 0, 0⟩, ⟨"m", 1⟩, fun _ => "",
        SubjectFilter.read, "", ""⟩
    let options : Options := ⟨0, false, none, []⟩
    (run s ⟨.emit "a.b" .info "hello" ["k=1"] .tracing, options⟩).errorText ≠ "" := by
  intro s options
  let name : LoggerName := ⟨["a", "b"], by decide⟩
  have dotted : name.dotted = "a.b" := by decide
  have unasked : s.variableOf "RUST_LOG" = none := by decide
  have loud : options.quiet = false := rfl
  have succeeded :
      (run s ⟨.emit name.dotted .info "hello" ["k=1"] .tracing, options⟩).status = 0 := by
    decide +kernel
  obtain ⟨settings, shown, pairs, loaded, read, line, visible, left⟩ :=
    emitsWhatResolveShows unasked loud succeeded
  have path : settings.path = none := by
    have same : (loadSettings s options).toOption.bind Settings.path = none := by decide +kernel
    rw [loaded] at same
    exact same
  have allowed : Level.info ≤ shown := by
    have printed : (run s ⟨.resolve [name.dotted], options⟩).output = "a.b = Info\n" := by
      decide +kernel
    rw [line] at printed
    revert printed
    cases shown <;> decide +kernel
  have out := left.2
  rw [path, if_pos ⟨allowed, fun dropped => nomatch dropped.1⟩] at out
  rw [← dotted, out.1]
  intro empty
  exact visible (String.append_eq_empty_iff.mp empty).2

end Command

end LeveledLogging
