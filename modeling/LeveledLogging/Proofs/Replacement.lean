import LeveledLogging.Proofs.Journal
import LeveledLogging.Proofs.Silence
import LeveledLogging.Proofs.Trees
/-! What one operation does to the output of a backend that writes lines. A sink that takes its bytes
gains them (`performAdds`). One that takes nothing turns each message into a warning and leaves the rest
as it is (`performBroken`), until it is replaced; whichever sink there was before, the new one is open
and takes what comes (`Reopens`). -/
namespace LeveledLogging

namespace Operation

def bytes : Operation → ByteArray
  | send now message =>
    (message.record.logLine now message.name message.level message.trace).toUTF8
  | write _ bytes => bytes
  | _ => .empty

def events : Operation → List Event
  | report event => [event]
  | _ => []

def lostEvents : Operation → List Event
  | send .. => [.warning ("Failed to write log line: " ++ Outputs.writeFault.message)]
  | operation => operation.events

structure Silent (operation : Operation) : Prop where
  bytes : operation.bytes = .empty
  events : operation.events = []
  lostEvents : operation.lostEvents = []

def relevel : Operation → Hierarchy → Hierarchy
  | applyLevels settings, levels =>
    match settings.overrides with
    | .error _ => levels
    | .ok overrides =>
      (levels.set [] settings.rootLevel).setAll
        (overrides.map fun setting => (setting.1.segments, setting.2))
  | setLevel name level, levels => levels.set name level
  | setLevelOf logger level, levels =>
    match logger.name? with
    | some name => levels.set name.segments level
    | none => levels
  | _, levels => levels

end Operation

theorem Record.logLineVisible (record : Record) (now : Moment) (name : List String) (level : Level)
    (trace : Bool) : (record.logLine now name level trace).toUTF8.size ≠ 0 := by
  intro nothing
  have empty : record.logLine now name level trace = "" := String.utf8ByteSize_eq_zero_iff.mp nothing
  simp [logLine] at empty

namespace Outputs

def parting (sink : Sink) : List Event :=
  match flush sink with
  | .ok () => []
  | .error fault => [.warning ("Failed to flush previous log output: " ++ fault.message)]

theorem releaseParts (outputs : Outputs) (sink : Sink) :
    outputs.release sink = outputs.emitAll (parting sink) := by
  unfold release parting
  cases flush sink with
  | ok done => exact (emitAllNil outputs).symm
  | error fault => rfl

theorem partingTakes {sink : Sink} (takes : sink ≠ .broken) : parting sink = [] := by
  rw [parting, flushTakes takes]

theorem contentsEmitAll (outputs : Outputs) (events : List Event) (sink : Sink) :
    (outputs.emitAll events).contents sink = outputs.contents sink := by
  cases sink <;> rfl

theorem emitAllOpen {outputs : Outputs} {events : List Event} {sink : Sink} :
    (outputs.emitAll events).Open sink ↔ outputs.Open sink := by
  cases sink <;> exact Iff.rfl

theorem writeLineBroken (outputs : Outputs) {line : String} (visible : line.toUTF8.size ≠ 0) :
    outputs.writeLine .broken line =
      outputs.emitAll [.warning ("Failed to write log line: " ++ writeFault.message)] := by
  unfold writeLine write writeBytes
  rw [if_neg visible]
  rfl

structure Offered (before after : Outputs) (sink : Sink) : Prop where
  events : after.events = before.events
  files : before.files.Alike after.files
  refused : sink = .broken → after = before

theorem offeredNothing (outputs : Outputs) (sink : Sink) : outputs.Offered outputs sink :=
  ⟨rfl, outputs.files.alikeItself, fun _ => rfl⟩

theorem offerOffers {outputs after : Outputs} {sink : Sink} {bytes : ByteArray}
    (taken : outputs.offer sink bytes = .ok after) : outputs.Offered after sink := by
  cases sink with
  | broken => cases taken
  | file place =>
    cases taken
    exact ⟨rfl, outputs.files.appendAlike place bytes, nofun⟩
  | _ =>
    cases taken
    exact ⟨rfl, outputs.files.alikeItself, nofun⟩

theorem writeBytesOffers {outputs after : Outputs} {sink : Sink} {bytes : ByteArray}
    (taken : outputs.writeBytes sink bytes = .ok after) : outputs.Offered after sink := by
  unfold writeBytes at taken
  split at taken
  · cases taken
    exact offeredNothing outputs sink
  · exact offerOffers taken

theorem writeLineFiles (outputs : Outputs) (sink : Sink) (line : String) :
    outputs.files.Alike (outputs.writeLine sink line).files := by
  unfold writeLine
  split
  · rename_i taken
    exact (writeBytesOffers taken).files
  · exact outputs.files.alikeItself

end Outputs

namespace Context

theorem writeBytesOffered (context : Context) (insistent : Bool) (bytes : ByteArray) :
    context.outputs.Offered
      (((context.writeBytes insistent bytes).map Prod.snd).getD context).outputs
      context.destination := by
  have taken : ∀ {outputs : Outputs}, (if insistent = true then
        context.outputs.offer context.destination bytes
      else context.outputs.writeBytes context.destination bytes) = .ok outputs →
      context.outputs.Offered outputs context.destination := by
    intro outputs done
    split at done
    · exact Outputs.offerOffers done
    · exact Outputs.writeBytesOffers done
  unfold writeBytes
  split
  · rename_i sink trace lines
    have goes : context.destination = sink := by rw [destination, lines]
    rw [goes] at taken ⊢
    dsimp only
    split
    · rename_i done _
      exact taken done
    · rename_i done _
      exact taken done
    · exact Outputs.offeredNothing _ _
  · exact Outputs.offeredNothing _ _

/- What is left after an attempt to get another sink: everything as it was, or a sink that is open and
takes what comes. -/
inductive Reopens (context : Context) : Except LogError Unit × Context → Prop where
  | refused (e : LogError) : Reopens context (.error e, context)
  | opened {after : Context} (adds : context.Adds after .empty)
      (parted : after.outputs.events =
        context.outputs.events ++ Outputs.parting context.destination) :
      Reopens context (.ok (), after)

theorem Adds.withLevels {before after : Context} {bytes : ByteArray} (adds : before.Adds after bytes)
    (levels : Hierarchy) : before.Adds { after with backend.levels := levels } bytes :=
  ⟨⟨adds.healthy.lines, adds.healthy.isOpen, adds.healthy.takes⟩, adds.contents⟩

theorem Adds.emit {before after : Context} {bytes : ByteArray} (adds : before.Adds after bytes)
    (event : Event) : before.Adds (after.emit event) bytes := by
  refine ⟨⟨adds.healthy.lines, Outputs.emitAllOpen.mpr adds.healthy.isOpen, adds.healthy.takes⟩, ?_⟩
  intro sink
  exact (Outputs.contentsEmitAll after.outputs [event] sink).trans (adds.contents sink)

theorem configureReopens {context : Context} {sink trace}
    (lines : context.backend.output = .lines sink trace) (verbosity : Int32)
    (path : Option String) : context.Reopens (context.configure verbosity path) := by
  have goes : context.destination = sink := by rw [destination, lines]
  rw [configureLines lines]
  split
  · exact .refused _
  · rename_i next files opened
    obtain ⟨found, _⟩ := openSinkOpened opened
    obtain ⟨isOpen, takes⟩ : Outputs.Open { context.outputs with files } next ∧ next ≠ .broken :=
      found.isOpen rfl
    refine .opened ⟨healthyLines rfl (releaseOpen isOpen sink) takes, ?_⟩ ?_
    · intro other
      simp only [ByteArray.append_empty, Outputs.releaseParts, Outputs.contentsEmitAll]
      exact found.contents rfl other
    · rw [Outputs.releaseParts, goes]
      rfl

theorem applySettingsReopens {context : Context} {sink trace}
    (lines : context.backend.output = .lines sink trace) (settings : Settings) :
    context.Reopens (context.applySettings settings) := by
  unfold applySettings
  split
  · exact .refused _
  · rename_i overrides _
    have configured := configureReopens lines settings.verbosity settings.path
    generalize context.configure settings.verbosity settings.path = result at configured
    cases configured with
    | refused e => exact .refused e
    | @opened after adds parted =>
      dsimp only
      rw [setLevelsSound adds.healthy.sound]
      exact .opened (adds.withLevels _) parted

def replaces (context : Context) : Operation → Bool
  | .configure verbosity path => (context.configure verbosity path).1.isOk
  | .configureProgram verbosity path quiet => (context.configureProgram verbosity path quiet).1.isOk
  | .applySettings settings => (context.applySettings settings).1.isOk
  | _ => false

inductive Performs (context : Context) : Operation → Context → Prop where
  | reopened {operation : Operation} {after : Context}
      (replaced : context.replaces operation = true) (silent : operation.Silent)
      (adds : context.Adds after .empty)
      (parted : after.outputs.events =
        context.outputs.events ++ Outputs.parting context.destination) :
      Performs context operation after
  | releveled {operation : Operation} (kept : context.replaces operation = false)
      (silent : operation.Silent) :
      Performs context operation
        { context with backend.levels := operation.relevel context.backend.levels }
  | traced (trace : Bool) :
      Performs context (.setTrace trace)
        { context with backend.output := .lines context.destination trace }
  | sent (now : Moment) (message : Message) :
      Performs context (.send now message)
        { context with
          outputs := context.outputs.writeLine context.destination
            (message.record.logLine now message.name message.level message.trace) }
  | wrote (insistent : Bool) (bytes : ByteArray) :
      Performs context (.write insistent bytes)
        (((context.writeBytes insistent bytes).map Prod.snd).getD context)
  | reported (event : Event) : Performs context (.report event) (context.emit event)

theorem Reopens.performs {context : Context} {result : Except LogError Unit × Context}
    (reopens : context.Reopens result) {operation : Operation}
    (same : context.replaces operation = result.1.isOk) (silent : operation.Silent)
    (levels : operation.relevel context.backend.levels = context.backend.levels) :
    context.Performs operation result.2 := by
  cases reopens with
  | refused e =>
    have kept : context.Performs operation _ := .releveled same silent
    rwa [levels] at kept
  | opened adds parted => exact .reopened same silent adds parted

theorem applyLevelsRelevels {context : Context} (sound : context.Sound) (settings : Settings) :
    (context.applyLevels settings).2 = { context with
      backend.levels := (Operation.applyLevels settings).relevel context.backend.levels } := by
  unfold applyLevels
  cases read : settings.overrides with
  | error e => simp only [Operation.relevel, read]
  | ok overrides =>
    have rooted : (context.withLevel [] settings.rootLevel).Sound := sound
    simp only [Operation.relevel, read, setLevelSound sound, setLevelsSound rooted]
    rfl

theorem setLevelOfRelevels {context : Context} (sound : context.Sound) (logger : Logger)
    (level : Level) :
    context.setLevelOf logger level = { context with
      backend.levels := (Operation.setLevelOf logger level).relevel context.backend.levels } := by
  unfold setLevelOf
  cases bound : logger.name? with
  | none => simp only [Operation.relevel, bound]
  | some name =>
    simp only [Operation.relevel, bound, setLevelSound sound]
    rfl

theorem performCases {context : Context} (sound : context.Sound) {sink trace}
    (lines : context.backend.output = .lines sink trace) (operation : Operation) :
    context.Performs operation (context.perform operation) := by
  have goes : context.destination = sink := by rw [destination, lines]
  cases operation with
  | configure verbosity path =>
    exact (configureReopens lines verbosity path).performs rfl ⟨rfl, rfl, rfl⟩ rfl
  | configureProgram verbosity path quiet =>
    exact (configureReopens lines _ path).performs rfl ⟨rfl, rfl, rfl⟩ rfl
  | applySettings settings =>
    exact (applySettingsReopens lines settings).performs rfl ⟨rfl, rfl, rfl⟩ rfl
  | applyLevels settings =>
    rw [perform, applyLevelsRelevels sound]
    exact .releveled rfl ⟨rfl, rfl, rfl⟩
  | setLevel name level =>
    rw [perform, setLevelSound sound]
    exact .releveled rfl ⟨rfl, rfl, rfl⟩
  | setLevelOf logger level =>
    rw [perform, setLevelOfRelevels sound]
    exact .releveled rfl ⟨rfl, rfl, rfl⟩
  | setTrace trace =>
    rw [perform, setTrace, lines, ← goes]
    exact .traced trace
  | send now message =>
    rw [perform, send, lines, ← goes]
    exact .sent now message
  | write insistent bytes => exact .wrote insistent bytes
  | report event => exact .reported event

theorem performAdds {context : Context} (healthy : context.Healthy) (operation : Operation) :
    context.Adds (context.perform operation) operation.bytes := by
  generalize reached : context.perform operation = after
  cases reached ▸ performCases healthy.sound healthy.lines operation with
  | reopened _ silent adds _ => exact silent.bytes ▸ adds
  | releveled _ silent =>
    rw [silent.bytes]
    exact healthy.addsNothing healthy.lines rfl
  | traced trace => exact healthy.addsNothing rfl rfl
  | sent now message =>
    have sent := sendAdds healthy now message
    rwa [send, healthy.lines] at sent
  | wrote insistent bytes => exact writeBytesAdds healthy insistent bytes
  | reported event => exact (healthy.addsNothing healthy.lines rfl).emit event

theorem replacesAdds {context : Context} (sound : context.Sound) {sink trace}
    (lines : context.backend.output = .lines sink trace) {operation : Operation}
    (replaced : context.replaces operation = true) :
    context.Adds (context.perform operation) operation.bytes ∧
      (context.perform operation).outputs.events =
        context.outputs.events ++ (Outputs.parting context.destination ++ operation.events) := by
  generalize reached : context.perform operation = after
  cases reached ▸ performCases sound lines operation with
  | reopened _ silent adds parted =>
    rw [silent.bytes, silent.events, List.append_nil]
    exact ⟨adds, parted⟩
  | releveled kept _ => cases kept.symm.trans replaced
  | _ => cases replaced

theorem performEvents {context : Context} (healthy : context.Healthy) (operation : Operation) :
    (context.perform operation).outputs.events = context.outputs.events ++ operation.events := by
  generalize reached : context.perform operation = after
  cases reached ▸ performCases healthy.sound healthy.lines operation with
  | reopened _ silent _ parted => rw [parted, silent.events, Outputs.partingTakes healthy.takes]
  | releveled _ silent => rw [silent.events, List.append_nil]
  | traced trace => exact (List.append_nil _).symm
  | sent now message =>
    have gains := Outputs.writeLineGains healthy.isOpen healthy.takes
      (message.record.logLine now message.name message.level message.trace)
    exact gains.events.trans (List.append_nil _).symm
  | wrote insistent bytes =>
    exact (context.writeBytesOffered insistent bytes).events.trans (List.append_nil _).symm
  | reported event => rfl

theorem performBroken {context : Context} {trace}
    (lines : context.backend.output = .lines .broken trace) {operation : Operation}
    (kept : context.replaces operation = false) :
    (context.perform operation).outputs = context.outputs.emitAll operation.lostEvents ∧
      ∃ flag, (context.perform operation).backend.output = .lines .broken flag := by
  have sound : context.Sound := by
    rw [Sound, lines]
    trivial
  have broken : context.destination = .broken := by rw [destination, lines]
  generalize reached : context.perform operation = after
  cases reached ▸ performCases sound lines operation with
  | reopened replaced => cases kept.symm.trans replaced
  | releveled _ silent =>
    rw [silent.lostEvents, Outputs.emitAllNil]
    exact ⟨rfl, trace, lines⟩
  | traced flag =>
    rw [broken]
    exact ⟨(Outputs.emitAllNil _).symm, flag, rfl⟩
  | sent now message =>
    rw [broken, Outputs.writeLineBroken _ (Record.logLineVisible _ _ _ _ _)]
    exact ⟨rfl, trace, lines⟩
  | wrote insistent bytes =>
    rw [(context.writeBytesOffered insistent bytes).refused broken, writeBytesBackend]
    exact ⟨(Outputs.emitAllNil _).symm, trace, lines⟩
  | reported event => exact ⟨rfl, trace, lines⟩

theorem performDestination {context : Context} (sound : context.Sound) {sink trace}
    (lines : context.backend.output = .lines sink trace) {operation : Operation}
    (kept : context.replaces operation = false) :
    (context.perform operation).destination = context.destination := by
  generalize reached : context.perform operation = after
  cases reached ▸ performCases sound lines operation with
  | reopened replaced => cases kept.symm.trans replaced
  | releveled _ _ => rfl
  | traced trace => rfl
  | sent now message =>
    unfold destination
    rfl
  | wrote insistent bytes =>
    exact (sameDirects (congrArg Backend.output (context.writeBytesBackend insistent bytes))).1
  | reported event => rfl

end Context

end LeveledLogging
