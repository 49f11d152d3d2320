import LeveledLogging.Proofs.Emission
/-! A message sent by a quiet program that has no log file. Its backend keeps the levels of names and
only loses that of the root. Lines are discarded all the same, and so are events, unless the user asks
for them by a filter of their own; then a message of a name with a level comes out
(`quietWritesOnlyWhatIsAskedFor`). -/
namespace LeveledLogging.Command

def rootless (settings : Settings) : Settings := { settings with verbosity := Context.quietVerbosity }

def quietFilter (s : Surroundings) : SubjectFilter := s.askedFilter.getD (.everywhere ⟨none⟩)

def quietSubscriber (s : Surroundings) (settings : Settings) : Subscriber :=
  ⟨quietFilter s, .errorStream, settings.trace⟩

def askedFor (s : Surroundings) (level : Level) : Bool :=
  s.askedFilter.any fun filter => filter.passesLevel level

theorem quietFilterPasses (s : Surroundings) (settings : Settings) (level : Level) :
    (quietSubscriber s settings).filter.passesLevel level = askedFor s level := by
  change (quietFilter s).passesLevel level = askedFor s level
  unfold quietFilter askedFor
  cases s.askedFilter with
  | none => cases level <;> rfl
  | some filter => rfl

theorem toldUnasked {s : Surroundings} (unasked : s.askedFilter = none) (trace : Bool)
    (told : List Diagnostic) : toldText s (quietFilter s) trace told = "" := by
  rw [quietFilter, unasked]
  exact toldNothing s trace told

def quietContext (settings : Settings) (overrides : List (LoggerName × Level)) (kind : BackendKind)
    (files : FileSystem) : Context :=
  ⟨⟨.setAll .empty ((rootless settings).history overrides), match kind with
    | .simple => .lines .discard settings.trace
    | .tracing => .events⟩, .start files⟩

section
variable {s : Surroundings} {options : Options} (quiet : options.quiet = true)
variable {settings : Settings} (pathless : settings.path = none)

include quiet pathless

theorem outputSettingsQuiet : outputSettings options settings = rootless settings := by
  unfold outputSettings Context.programVerbosity
  rw [quiet, if_pos ⟨rfl, pathless⟩]
  rfl

theorem installQuiet (toFile : Bool) :
    installSubscriber s options settings toFile = (.ok (quietSubscriber s settings), s.files) := by
  have nowhere : (if toFile = true then settings.path else none) = none := by simp [pathless]
  unfold installSubscriber subscriberSettings
  rw [nowhere, quiet, if_pos (by simp)]
  rfl

end

theorem OutputContext.isQuiet {settings : Settings} {overrides : List (LoggerName × Level)}
    {files : FileSystem} {kind : BackendKind} {context : Context}
    (output : OutputContext (rootless settings) overrides files kind context) :
    context = quietContext settings overrides kind files := by
  cases output with
  | simple opens =>
    rw [show (rootless settings).rootLevel = .off from rfl] at opens
    cases opens
    rfl
  | tracing => rfl

section
variable {s : Surroundings} {settings : Settings} {overrides : List (LoggerName × Level)}
variable (name : LoggerName) {level : Level} (loggable : level ≠ .off) (told : List Diagnostic)
variable (text : String) (pairs : List (String × Value)) {before : Outputs} (none : before.events = [])

include loggable none

theorem quietDropsLines :
    let context := quietContext settings overrides .simple s.files
    writeEvents s (quietSubscriber s settings) (Context.log { context with outputs := before } s.now
      s.site (.named name) level 0 text (Fields.ofPairs pairs)).outputs = before := by
  intro context
  have isOpen : before.Open .discard := trivial
  have sends := simpleSends s settings context.backend.levels name loggable
    (quietSubscriber s settings) text pairs none isOpen (by simp)
  split at sends
  · rw [Outputs.writeNowhere] at sends
    exact (Except.ok.inj sends).symm
  · exact sends

theorem quietWritesEvents {already : String} (said : before.errorText = already) :
    let context := quietContext settings overrides .tracing s.files
    let outputs := writeEvents s (quietSubscriber s settings)
      (Context.log { context with outputs := before } s.now s.site (.named name) level 0 text
        (Fields.ofPairs pairs)).outputs
    outputs.files = before.files ∧ outputs.errorText.text = already ++
      if askedFor s level = true ∧ level ≤ context.level name.segments then
        rendering s settings .tracing name level text pairs else "" := by
  intro context outputs
  have sends := tracingSends s settings context.backend.levels name loggable
    (quietSubscriber s settings) text pairs none rfl
  rw [quietFilterPasses] at sends
  split at sends
  · rename_i allowed
    obtain ⟨event, written⟩ := sends
    rw [show outputs = _ from written]
    by_cases asked : askedFor s level = true
    · have isOpen : (before.emit event).Open .errorStream := trivial
      have gains := Outputs.writeLineGains isOpen (by simp)
        (rendering s settings .tracing name level text pairs)
      have saidThen := gains.errorText said
      rw [if_pos rfl] at saidThen
      rw [if_pos asked, if_pos ⟨asked, allowed⟩]
      exact ⟨Outputs.writeLineErrors _ _,
        (congrArg Transcript.text saidThen).trans (Transcript.textOfText _)⟩
    · rw [if_neg asked, if_neg fun both => asked both.1, String.append_empty]
      exact ⟨rfl, (congrArg Transcript.text said).trans (Transcript.textOfText _)⟩
  · rename_i refused
    rw [show outputs = before from sends, if_neg fun both => refused both.2, String.append_empty, said,
      Transcript.textOfText]
    exact ⟨rfl, rfl⟩

end

theorem quietWrites (s : Surroundings) (settings : Settings) (overrides : List (LoggerName × Level))
    (kind : BackendKind) (name : LoggerName) {level : Level} (loggable : level ≠ .off)
    (told : List Diagnostic) (text : String) (pairs : List (String × Value)) :
    let context := quietContext settings overrides kind s.files
    let before := tell s (quietSubscriber s settings) context.outputs told
    let outputs := writeEvents s (quietSubscriber s settings)
      (Context.log { context with outputs := before } s.now s.site (.named name) level 0 text
        (Fields.ofPairs pairs)).outputs
    outputs.files = s.files ∧ outputs.errorText.text = toldText s (quietFilter s) settings.trace told ++
      if kind = .tracing ∧ askedFor s level = true ∧ level ≤ context.level name.segments then
        rendering s settings kind name level text pairs else "" := by
  intro context before outputs
  obtain ⟨kept, none, said⟩ :=
    toldErrors (rfl : (quietSubscriber s settings).sink = .errorStream) s s.files told
  cases kind with
  | simple =>
    have dropped : outputs = before := quietDropsLines name loggable text pairs none
    have said : before.errorText.text = toldText s (quietFilter s) settings.trace told :=
      (congrArg Transcript.text said).trans (Transcript.textOfText _)
    rw [dropped, if_neg fun wanted => nomatch wanted.1]
    exact ⟨kept, said.trans String.append_empty.symm⟩
  | tracing =>
    obtain ⟨files, written⟩ := quietWritesEvents name loggable text pairs none said
    refine ⟨files.trans kept, written.trans ?_⟩
    simp only [true_and]
    rfl

theorem runQuiet {s : Surroundings} {options : Options} (quiet : options.quiet = true)
    (pathless : ∀ settings, loadSettings s options = .ok settings → settings.path = none)
    (name : String) (level : Level) (fields : List String) (kind : BackendKind) :
    (∃ failure errors, ∀ text, run s ⟨.emit name level text fields kind, options⟩ =
      finish s (.error failure) [] errors s.files) ∨
    ∃ settings overrides parsed pairs, loadSettings s options = .ok settings ∧
      settings.overrides = .ok overrides ∧ level ≠ .off ∧ LoggerName.read name = .ok parsed ∧
      fields.mapM readField = .ok pairs ∧
      ∀ text, run s ⟨.emit name level text fields kind, options⟩ =
        let context := quietContext settings overrides kind s.files
        let told := sentTold (rootless settings) kind name level (context.level parsed.segments)
        let before := tell s (quietSubscriber s settings) context.outputs told
        let outputs := writeEvents s (quietSubscriber s settings)
          (Context.log { context with outputs := before } s.now s.site (.named parsed) level 0 text
            (Fields.ofPairs pairs)).outputs
        ⟨0, "", outputs.errorText, outputs.files⟩ := by
  cases loaded : loadSettings s options with
  | error failure =>
    refine .inl ⟨failure, "", fun text => ?_⟩
    unfold run
    simp only [loaded]
  | ok settings =>
    have nowhere := pathless settings loaded
    obtain ⟨overrides, valid⟩ := Settings.overridesOk (loadedNamed loaded)
    have runs := fun text =>
      emitInstalled loaded name level text fields kind (installQuiet quiet nowhere _)
    have cases := sendCases options valid s.files name level fields kind
    rw [outputSettingsQuiet quiet nowhere] at cases
    rcases cases with
      ⟨failure, outputs, told, origin, fails⟩ |
      ⟨pairs, context, parsed, loggable, read, output, named, sends⟩
    · have start : outputs = .start s.files := by
        rcases origin with ⟨start, _⟩ | ⟨context, output, same, _⟩
        · exact start
        · rw [same, output.isQuiet]
          rfl
      refine .inl ⟨failure, (tell s (quietSubscriber s settings) outputs told).errorText, fun text => ?_⟩
      rw [runs, fails, start]
      dsimp only
      rw [tellErrors rfl]
      rfl
    · refine .inr ⟨settings, overrides, parsed, pairs, rfl, valid, loggable, named, read, ?_⟩
      intro text
      rw [runs, sends, output.isQuiet]
      rfl

theorem quietWritesOnlyWhatIsAskedFor {s : Surroundings} {options : Options}
    (quiet : options.quiet = true)
    (pathless : ∀ settings, loadSettings s options = .ok settings → settings.path = none)
    (name : String) (level : Level) (text : String) (fields : List String) (kind : BackendKind) :
    let outcome := run s ⟨.emit name level text fields kind, options⟩
    outcome.output = "" ∧ outcome.files = s.files ∧
    (outcome.status ≠ 0 → ∀ other,
      run s ⟨.emit name level other fields kind, options⟩ = outcome) ∧
    (outcome.status = 0 → ∃ settings parsed pairs own, loadSettings s options = .ok settings ∧
      LoggerName.read name = .ok parsed ∧ fields.mapM readField = .ok pairs ∧
      Inherits (fun p => settings.levels.find? (LoggerName.dots p)) .off parsed.segments own ∧
      rendering s settings kind parsed level text pairs ≠ "" ∧
      outcome.errorText =
        toldText s (quietFilter s) settings.trace (sentTold (rootless settings) kind name level own) ++
          if kind = .tracing ∧ askedFor s level = true ∧ level ≤ own then
            rendering s settings kind parsed level text pairs else "") ∧
    (outcome.status = 0 → s.askedFilter = none → outcome.errorText = "") := by
  intro outcome
  rcases runQuiet quiet pathless name level fields kind with ⟨failure, errors, failed⟩ |
    ⟨settings, overrides, parsed, pairs, loaded, valid, loggable, named, read, runs⟩
  · rw [show outcome = _ from failed text]
    refine ⟨rfl, rfl, fun _ other => failed other, ?_, ?_⟩
    · intro succeeded
      cases succeeded
    · intro succeeded
      cases succeeded
  · have history : (rootless settings).overrides = .ok overrides := valid
    have most : (quietContext settings overrides kind s.files).level parsed.segments =
        (rootless settings).levelOf parsed := Settings.getHistory history parsed
    obtain ⟨files, written⟩ := quietWrites s settings overrides kind parsed loggable
      (sentTold (rootless settings) kind name level ((rootless settings).levelOf parsed)) text pairs
    have ends := runs text
    dsimp only at ends
    rw [most] at ends written
    rw [show outcome = _ from ends]
    refine ⟨rfl, files, fun failed => absurd rfl failed, ?_, ?_⟩
    · intro _
      exact ⟨settings, parsed, pairs, (rootless settings).levelOf parsed, loaded, named, read,
        (rootless settings).levelOfInherits parsed,
        renderingVisible s settings kind parsed level text pairs, written⟩
    · intro _ unasked
      refine written.trans ?_
      rw [toldUnasked unasked, askedFor, unasked, String.empty_append]
      exact if_neg fun wanted => nomatch wanted.2.1

theorem writtenThoughQuiet :
    let s : Surroundings :=
      ⟨[("RUST_LOG", "info")], none, ⟨[], []⟩, ⟨0, 0, 0⟩, ⟨"m", 1⟩, fun _ => "",
        SubjectFilter.read, "", ""⟩
    let options : Options := ⟨0, true, none, ["a=info"]⟩
    (loadSettings s options).toOption.bind Settings.path = none ∧
      (run s ⟨.emit "a" .info "hello" [] .tracing, options⟩).status = 0 ∧
      (run s ⟨.emit "a" .info "hello" [] .tracing, options⟩).errorText =
        Event.line s.now none .info "a" ⟨"", "hello", [], "m", some 1⟩ := by
  decide +kernel

theorem quietUnasked :
    let s : Surroundings :=
      ⟨[("COMMONLOG_LEVELS", "a=info")], none, ⟨[], []⟩, ⟨0, 0, 0⟩, ⟨"m", 1⟩, fun _ => "",
        SubjectFilter.read, "", ""⟩
    let options : Options := ⟨2, true, none, []⟩
    (run s ⟨.emit "a.b" .info "hello" ["k=1"] .tracing, options⟩) = ⟨0, "", "", s.files⟩ := by
  intro s options
  have quiet : options.quiet = true := rfl
  have pathless : ∀ settings, loadSettings s options = .ok settings → settings.path = none := by
    intro settings loaded
    have same : (loadSettings s options).toOption.bind Settings.path = none := by decide +kernel
    rw [loaded] at same
    exact same
  have succeeded : (run s ⟨.emit "a.b" .info "hello" ["k=1"] .tracing, options⟩).status = 0 := by
    decide +kernel
  obtain ⟨output, files, _, _, silent⟩ :=
    quietWritesOnlyWhatIsAskedFor quiet pathless "a.b" .info "hello" ["k=1"] .tracing
  have errors := silent succeeded rfl
  generalize run s ⟨.emit "a.b" .info "hello" ["k=1"] .tracing, options⟩ = outcome at *
  obtain ⟨status, _, _, _⟩ := outcome
  cases succeeded
  cases output
  cases errors
  cases files
  rfl

end LeveledLogging.Command
