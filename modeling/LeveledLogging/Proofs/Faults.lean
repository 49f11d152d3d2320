import LeveledLogging.Proofs.Replacement
/-! Two runs of the same operations, over a sink that takes what comes and over one that takes nothing.
Their levels, their answers and what they open stay the same throughout (`performTogether`), since the
sink has no part in any of them. The failing run is left with the messages up to the first
configuration that succeeds as warnings, and with everything from there on where the other run has it
(`failingRun`). -/
namespace LeveledLogging

inductive Answer where
  | done
  | outcome (result : Except LogError Unit)
  | written (result : Option (Except LogError Unit))
  | made (message : Option Message)
  | whether (holds : Bool)
  | level (level : Level)
  | listed (levels : List (String × Level)) (nodes : Nat)

def Operation.raw : Operation → Bool
  | write .. => true
  | _ => false

namespace Context

def answer (context : Context) : Operation → Answer
  | .configure verbosity path => .outcome (context.configure verbosity path).1
  | .configureProgram verbosity path quiet =>
    .outcome (context.configureProgram verbosity path quiet).1
  | .applySettings settings => .outcome (context.applySettings settings).1
  | .applyLevels settings => .outcome (context.applyLevels settings).1
  | .setTrace trace => .whether (context.setTrace trace).isSome
  | .write insistent bytes => .written ((context.writeBytes insistent bytes).map Prod.fst)
  | .setLevel .. | .setLevelOf .. | .send .. | .report .. => .done

def failing (context : Context) : Context :=
  { context with backend.output := .lines .broken context.trace }

def journal (context : Context) : List Operation → List (Sink × ByteArray)
  | [] => []
  | operation :: rest =>
    ((context.perform operation).destination, operation.bytes) ::
      journal (context.perform operation) rest

def lost (context : Context) : List Operation → List Operation
  | [] => []
  | operation :: rest =>
    if context.replaces operation then []
    else operation :: lost (context.perform operation) rest

def kept (context : Context) : List Operation → List Operation
  | [] => []
  | operation :: rest =>
    if context.replaces operation then operation :: rest
    else kept (context.perform operation) rest

theorem runCons (context : Context) (operation : Operation) (rest : List Operation) :
    context.run (operation :: rest) = (context.perform operation).run rest := rfl

theorem runAppend (context : Context) (before after : List Operation) :
    context.run (before ++ after) = (context.run before).run after := List.foldl_append

theorem lostKept (context : Context) (operations : List Operation) :
    context.lost operations ++ context.kept operations = operations := by
  induction operations generalizing context with
  | nil => rfl
  | cons operation rest ih =>
    rw [lost, kept]
    split
    · rfl
    · exact congrArg (operation :: ·) (ih _)

theorem keptReplaces {context : Context} {operations rest : List Operation} {operation : Operation}
    (found : context.kept operations = operation :: rest) :
    (context.run (context.lost operations)).replaces operation = true := by
  induction operations generalizing context with
  | nil => cases found
  | cons first others ih =>
    rw [kept] at found
    rw [lost]
    split at found
    · rename_i here
      cases found
      rw [if_pos here]
      exact here
    · rename_i later
      rw [if_neg later]
      exact ih found

theorem runChain {context : Context} (healthy : context.Healthy) (operations : List Operation) :
    context.Chain (context.journal operations) (context.run operations) := by
  induction operations generalizing context with
  | nil => exact .none context
  | cons operation rest ih =>
    have adds := performAdds healthy operation
    exact .entry adds (ih adds.healthy)

theorem runEvents {context : Context} (healthy : context.Healthy) (operations : List Operation) :
    (context.run operations).outputs.events =
      context.outputs.events ++ operations.flatMap Operation.events := by
  induction operations generalizing context with
  | nil => exact (List.append_nil _).symm
  | cons operation rest ih =>
    rw [runCons, ih (performAdds healthy operation).healthy, performEvents healthy,
      List.flatMap_cons, List.append_assoc]

theorem lostRun {context : Context} {trace} (lines : context.backend.output = .lines .broken trace)
    (operations : List Operation) :
    (context.run (context.lost operations)).outputs =
        context.outputs.emitAll ((context.lost operations).flatMap Operation.lostEvents) ∧
      ∃ flag, (context.run (context.lost operations)).backend.output = .lines .broken flag := by
  induction operations generalizing context trace with
  | nil => exact ⟨(Outputs.emitAllNil _).symm, trace, lines⟩
  | cons operation rest ih =>
    rw [lost]
    split
    · exact ⟨(Outputs.emitAllNil _).symm, trace, lines⟩
    · rename_i stays
      obtain ⟨same, flag, linesToo⟩ := performBroken lines (Bool.eq_false_iff.mpr stays)
      obtain ⟨outputs, there⟩ := ih linesToo
      refine ⟨?_, there⟩
      rw [runCons, outputs, same, Outputs.emitAllAppend, List.flatMap_cons]

structure Alike (one other : Context) : Prop where
  sound : one.Sound
  soundToo : other.Sound
  lines : one.backend.output = .lines one.destination one.trace
  linesToo : other.backend.output = .lines other.destination one.trace
  levels : other.backend.levels = one.backend.levels
  files : one.outputs.files.Alike other.outputs.files

inductive Agree (one other : Context) :
    Except LogError Unit × Context → Except LogError Unit × Context → Prop where
  | refused (e : LogError) : Agree one other (.error e, one) (.error e, other)
  | opened {after afterToo : Context} (alike : after.Alike afterToo)
      (same : afterToo.destination = after.destination) :
      Agree one other (.ok (), after) (.ok (), afterToo)

theorem alikeLines {one other : Context} {sink sinkToo trace}
    (lines : one.backend.output = .lines sink trace)
    (linesToo : other.backend.output = .lines sinkToo trace) (sound : one.Sound)
    (soundToo : other.Sound) (levels : other.backend.levels = one.backend.levels)
    (files : one.outputs.files.Alike other.outputs.files) : one.Alike other := by
  have here : one.destination = sink := by rw [destination, lines]
  have flag : one.trace = trace := by rw [Context.trace, lines]
  have there : other.destination = sinkToo := by rw [destination, linesToo]
  subst here flag there
  exact ⟨sound, soundToo, lines, linesToo, levels, files⟩

theorem Alike.withLevels {one other : Context} (alike : one.Alike other) (levels : Hierarchy) :
    Alike { one with backend.levels := levels } { other with backend.levels := levels } :=
  ⟨alike.sound, alike.soundToo, alike.lines, alike.linesToo, rfl, alike.files⟩

theorem Alike.written {one other after afterToo : Context} (alike : one.Alike other)
    (sound : after.Sound) (soundToo : afterToo.Sound) (same : after.backend = one.backend)
    (sameToo : afterToo.backend = other.backend)
    (files : one.outputs.files.Alike after.outputs.files)
    (filesToo : other.outputs.files.Alike afterToo.outputs.files) : after.Alike afterToo := by
  refine alikeLines ((congrArg Backend.output same).trans alike.lines)
    ((congrArg Backend.output sameToo).trans alike.linesToo) sound soundToo ?_
    ((files.symm.trans alike.files).trans filesToo)
  rw [same, sameToo]
  exact alike.levels

theorem sendFiles (context : Context) (now : Moment) (message : Message) :
    context.outputs.files.Alike (context.send now message).outputs.files := by
  unfold send
  split
  · rename_i sink _ _
    exact context.outputs.writeLineFiles sink
      (message.record.logLine now message.name message.level message.trace)
  · split <;> exact context.outputs.files.alikeItself
  · exact context.outputs.files.alikeItself

theorem configureAgree {one other : Context} (alike : one.Alike other) (verbosity : Int32)
    (path : Option String) :
    one.Agree other (one.configure verbosity path) (other.configure verbosity path) := by
  have done := configureLines alike.lines verbosity path
  have doneToo := configureLines alike.linesToo verbosity path
  have sound := configureSound alike.sound verbosity path
  have soundToo := configureSound alike.soundToo verbosity path
  rcases openSinkAlike alike.files (.ofVerbosity verbosity.toInt) path with
    ⟨fault, closed, closedToo⟩ | ⟨sink, files, filesToo, opened, openedToo, same⟩
  · rw [done, doneToo, closed, closedToo]
    exact .refused _
  · rw [opened] at done
    rw [openedToo] at doneToo
    rw [done] at sound ⊢
    rw [doneToo] at soundToo ⊢
    refine .opened (alikeLines rfl rfl sound soundToo ?_ ?_) rfl
    · exact congrArg (Hierarchy.set [] (.ofVerbosity verbosity.toInt)) alike.levels
    · rw [Outputs.releaseParts, Outputs.releaseParts]
      exact same

theorem applySettingsAgree {one other : Context} (alike : one.Alike other) (settings : Settings) :
    one.Agree other (one.applySettings settings) (other.applySettings settings) := by
  unfold applySettings
  cases settings.overrides with
  | error e => exact .refused e
  | ok overrides =>
    have configured := configureAgree alike settings.verbosity settings.path
    dsimp only
    generalize one.configure settings.verbosity settings.path = result at configured
    generalize other.configure settings.verbosity settings.path = resultToo at configured
    cases configured with
    | refused e => exact .refused e
    | opened later same =>
      dsimp only
      rw [setLevelsSound later.sound, setLevelsSound later.soundToo, later.levels]
      exact .opened (later.withLevels _) same

structure Together (one other : Context) (operation : Operation) : Prop where
  answer : operation.raw = false → other.answer operation = one.answer operation
  replaces : other.replaces operation = one.replaces operation
  alike : (one.perform operation).Alike (other.perform operation)
  destination : one.replaces operation = true →
    (other.perform operation).destination = (one.perform operation).destination

theorem Agree.together {one other : Context} {result resultToo : Except LogError Unit × Context}
    (agree : one.Agree other result resultToo) (alike : one.Alike other) :
    resultToo.1 = result.1 ∧ result.2.Alike resultToo.2 ∧
      (result.1.isOk = true → resultToo.2.destination = result.2.destination) := by
  cases agree with
  | refused e => exact ⟨rfl, alike, nofun⟩
  | opened later same => exact ⟨rfl, later, fun _ => same⟩

theorem keptTogether {one other : Context} {operation : Operation}
    (kept : one.replaces operation = false) (keptToo : other.replaces operation = false)
    (answer : operation.raw = false → other.answer operation = one.answer operation)
    (alike : (one.perform operation).Alike (other.perform operation)) :
    one.Together other operation where
  answer := answer
  replaces := keptToo.trans kept.symm
  alike := alike
  destination replaced := absurd (kept.symm.trans replaced) Bool.false_ne_true

theorem setTraceTogether {one other : Context} (alike : one.Alike other) (trace : Bool) :
    one.Together other (.setTrace trace) := by
  have sound := performSound alike.sound (.setTrace trace)
  have soundToo := performSound alike.soundToo (.setTrace trace)
  have done : one.setTrace trace =
      some { one with backend.output := .lines one.destination trace } := by
    rw [setTrace, alike.lines]
  have doneToo : other.setTrace trace =
      some { other with backend.output := .lines other.destination trace } := by
    rw [setTrace, alike.linesToo]
  refine keptTogether rfl rfl (fun _ => ?_) ?_
  · rw [answer, answer, done, doneToo]
    rfl
  · rw [perform, done] at sound ⊢
    rw [perform, doneToo] at soundToo ⊢
    exact alikeLines rfl rfl sound soundToo alike.levels alike.files

theorem performTogether {one other : Context} (alike : one.Alike other) (operation : Operation) :
    one.Together other operation := by
  cases operation with
  | configure verbosity path =>
    obtain ⟨same, later, goes⟩ := (configureAgree alike verbosity path).together alike
    exact ⟨fun _ => congrArg Answer.outcome same, congrArg Except.isOk same, later, goes⟩
  | configureProgram verbosity path quiet =>
    obtain ⟨same, later, goes⟩ := (configureAgree alike _ path).together alike
    exact ⟨fun _ => congrArg Answer.outcome same, congrArg Except.isOk same, later, goes⟩
  | applySettings settings =>
    obtain ⟨same, later, goes⟩ := (applySettingsAgree alike settings).together alike
    exact ⟨fun _ => congrArg Answer.outcome same, congrArg Except.isOk same, later, goes⟩
  | applyLevels settings =>
    have same : (other.applyLevels settings).1 = (one.applyLevels settings).1 := by
      unfold applyLevels
      cases settings.overrides <;> rfl
    refine keptTogether rfl rfl (fun _ => congrArg Answer.outcome same) ?_
    rw [perform, perform, applyLevelsRelevels alike.sound, applyLevelsRelevels alike.soundToo,
      alike.levels]
    exact alike.withLevels _
  | setLevel name level =>
    refine keptTogether rfl rfl (fun _ => rfl) ?_
    rw [perform, perform, setLevelSound alike.sound, setLevelSound alike.soundToo, withLevel,
      withLevel, alike.levels]
    exact alike.withLevels _
  | setLevelOf logger level =>
    refine keptTogether rfl rfl (fun _ => rfl) ?_
    rw [perform, perform, setLevelOfRelevels alike.sound, setLevelOfRelevels alike.soundToo,
      alike.levels]
    exact alike.withLevels _
  | setTrace trace => exact setTraceTogether alike trace
  | send now message =>
    refine keptTogether rfl rfl (fun _ => rfl) ?_
    exact alike.written (performSound alike.sound (.send now message))
      (performSound alike.soundToo (.send now message)) (sendBackend one now message)
      (sendBackend other now message) (sendFiles one now message) (sendFiles other now message)
  | write insistent bytes =>
    refine keptTogether rfl rfl (fun plain => absurd plain.symm Bool.false_ne_true) ?_
    exact alike.written (performSound alike.sound (.write insistent bytes))
      (performSound alike.soundToo (.write insistent bytes)) (writeBytesBackend one insistent bytes)
      (writeBytesBackend other insistent bytes) (writeBytesOffered one insistent bytes).files
      (writeBytesOffered other insistent bytes).files
  | report event =>
    refine keptTogether rfl rfl (fun _ => rfl) ?_
    exact alike.written (emitSound alike.sound event) (emitSound alike.soundToo event) rfl rfl
      one.outputs.files.alikeItself other.outputs.files.alikeItself

theorem Together.destinationStays {one other : Context} {operation : Operation}
    (together : one.Together other operation) (alike : one.Alike other)
    (same : other.destination = one.destination) :
    (other.perform operation).destination = (one.perform operation).destination := by
  cases replaced : one.replaces operation with
  | true => exact together.destination replaced
  | false =>
    rw [performDestination alike.sound alike.lines replaced,
      performDestination alike.soundToo alike.linesToo (together.replaces.trans replaced), same]

theorem runAlike {one other : Context} (alike : one.Alike other) (operations : List Operation) :
    (one.run operations).Alike (other.run operations) := by
  induction operations generalizing one other with
  | nil => exact alike
  | cons operation rest ih => exact ih (performTogether alike operation).alike

theorem lostAlike {one other : Context} (alike : one.Alike other) (operations : List Operation) :
    other.lost operations = one.lost operations ∧ other.kept operations = one.kept operations := by
  induction operations generalizing one other with
  | nil => exact ⟨rfl, rfl⟩
  | cons operation rest ih =>
    have together := performTogether alike operation
    obtain ⟨lost, kept⟩ := ih together.alike
    rw [Context.lost, Context.lost, Context.kept, Context.kept, together.replaces, lost, kept]
    exact ⟨rfl, rfl⟩

theorem journalAlike {one other : Context} (alike : one.Alike other)
    (same : other.destination = one.destination) (operations : List Operation) :
    other.journal operations = one.journal operations ∧
      (other.run operations).destination = (one.run operations).destination := by
  induction operations generalizing one other with
  | nil => exact ⟨rfl, same⟩
  | cons operation rest ih =>
    have together := performTogether alike operation
    have goes := together.destinationStays alike same
    obtain ⟨entries, last⟩ := ih together.alike goes
    rw [journal, journal, entries, goes]
    exact ⟨rfl, last⟩

theorem replacedRun {one other : Context} (alike : one.Alike other) {operation : Operation}
    (replaced : one.replaces operation = true) (rest : List Operation) :
    let after := other.run (operation :: rest)
    other.Chain (one.journal (operation :: rest)) after ∧
      after.destination = (one.run (operation :: rest)).destination ∧
      after.outputs.events = other.outputs.events ++
        (Outputs.parting other.destination ++ (operation :: rest).flatMap Operation.events) := by
  have together := performTogether alike operation
  have goes := together.destination replaced
  obtain ⟨adds, parted⟩ := replacesAdds alike.soundToo alike.linesToo
    (together.replaces.trans replaced)
  obtain ⟨entries, last⟩ := journalAlike together.alike goes rest
  refine ⟨?_, last, ?_⟩
  · rw [journal, ← goes, ← entries]
    exact .entry adds (runChain adds.healthy rest)
  · rw [runCons, runEvents adds.healthy, parted, List.flatMap_cons]
    simp only [List.append_assoc]

theorem failingAlike {context : Context} (healthy : context.Healthy) :
    context.Alike context.failing :=
  ⟨healthy.sound, trivial, healthy.lines, rfl, rfl, context.outputs.files.alikeItself⟩

/- What is left of a run over a sink that takes nothing. Of each message up to the first configuration
that succeeds there is a warning, and one more for the sink that is given up then; from there on
everything is where a sink that takes what comes would have led it. -/
structure Outlives (start : Context) (operations : List Operation) (after : Context) : Prop where
  events : after.outputs.events =
    start.outputs.events ++ (start.lost operations).flatMap Operation.lostEvents ++
      if start.kept operations = [] then []
      else Outputs.parting .broken ++ (start.kept operations).flatMap Operation.events
  destination : after.destination =
    if start.kept operations = [] then .broken else (start.run operations).destination
  contents : start.outputs.Gathers after.outputs
    ((start.run (start.lost operations)).journal (start.kept operations))

theorem failingRun {start : Context} (healthy : start.Healthy) (operations : List Operation) :
    start.Outlives operations (start.failing.run operations) := by
  have alike := failingAlike healthy
  obtain ⟨sameLost, _⟩ := lostAlike alike operations
  have linesBefore : start.failing.backend.output = .lines .broken start.trace := rfl
  obtain ⟨outputs, flag, lines⟩ := lostRun linesBefore operations
  rw [sameLost] at outputs lines
  have events := congrArg Outputs.events outputs
  have parts := start.lostKept operations
  have reached : start.failing.run operations =
      (start.failing.run (start.lost operations)).run (start.kept operations) := by
    rw [← runAppend, parts]
  have held : ∀ sink, (start.failing.run (start.lost operations)).outputs.contents sink =
      start.outputs.contents sink := by
    intro sink
    rw [outputs]
    exact Outputs.contentsEmitAll start.outputs _ sink
  have broken : (start.failing.run (start.lost operations)).destination = .broken := by
    rw [destination, lines]
  rw [reached]
  cases found : start.kept operations with
  | nil =>
    refine ⟨?_, ?_, ?_⟩
    · rw [found, if_pos rfl, List.append_nil]
      exact events
    · rw [found, if_pos rfl]
      exact broken
    · rw [found]
      exact held
  | cons operation rest =>
    obtain ⟨chain, last, told⟩ := replacedRun (runAlike alike (start.lost operations))
      (keptReplaces found) rest
    refine ⟨?_, ?_, ?_⟩
    · rw [found, if_neg (List.cons_ne_nil _ _), told, events, broken]
      rfl
    · rw [found, if_neg (List.cons_ne_nil _ _), last, ← runAppend, ← found, parts]
    · rw [found]
      intro sink
      rw [← held]
      exact chain.gathers sink

end Context

end LeveledLogging
