import LeveledLogging.Proofs.Faults
/-! A backend as a program uses it: configured, asked, given messages to keep and to send, and called
through loggers. Each use comes to some operations of the backend (`usedRuns`), which are the same
whether or not the sink takes anything; so a failing sink never shows in an answer, in a level or in
a message (`failingSinkFiltersAlike`). -/
namespace LeveledLogging

inductive Inquiry where
  | level (name : List String)
  | allows (name : List String) (level : Level)
  | levelOf (logger : Logger)
  | allowsOf (logger : Logger) (level : Level)
  | listing

inductive Use where
  | operate (operation : Operation)
  | inquire (inquiry : Inquiry)
  | create (name : List String) (level : Level) (depth : Nat)
  | createOf (logger : Logger) (level : Level) (depth : Nat) (fields : Fields)
  | set (number : Nat) (key : String) (value : Value)
  | send (number : Nat) (now : Moment)
  | call (call : Call) (now : Moment) (site : CallSite) (logger : Logger)
  | conclude (task : String) (outcome : Except String Unit) (now : Moment) (site : CallSite)
      (logger : Logger)

def Use.raw : Use → Bool
  | operate operation => operation.raw
  | _ => false

namespace Context

def inquire (context : Context) : Inquiry → Answer
  | .level name => .level (context.level name)
  | .allows name level => .whether (context.allows name level)
  | .levelOf logger => .level (context.levelOf logger)
  | .allowsOf logger level => .whether (context.allowsOf logger level)
  | .listing => .listed context.backend.levels.configured context.backend.levels.size

def operationsOf (context : Context) (call : Call) (now : Moment) (site : CallSite)
    (logger : Logger) : List Operation :=
  match (context.newMessageOf logger call.level call.depth .empty).1 with
  | some message => call.formatting ++ [.send now (message.setAll (call.pairs site))]
  | none => []

theorem newMessageOfMakes {context : Context} (sound : context.Sound) (logger : Logger)
    (level : Level) (depth : Nat) (fields : Fields) :
    context.newMessageOf logger level depth fields =
      (logger.name?.bind fun name =>
        if level ≠ .off ∧ level ≤ context.level name.segments then
          some ⟨name.segments, level, context.trace, logger.fixed ++ fields.pairs⟩
        else none, context) := by
  cases bound : logger.name? with
  | none => rw [newMessageOf, Logger.requestUnnamed bound, Option.bind_none]
  | some name => exact newMessageOfSound sound bound level depth fields

end Context

namespace Session

def use (session : Session) : Use → Session
  | .operate operation => { session with context := session.context.perform operation }
  | .inquire _ => session
  | .create name level depth => session.perform (.create name level depth)
  | .createOf logger level depth fields =>
    let (made, context) := session.context.newMessageOf logger level depth fields
    ⟨context, session.messages ++ [made]⟩
  | .set number key value => session.perform (.set number key value)
  | .send number now => session.perform (.send number now)
  | .call call now site logger =>
    { session with context := call.run session.context now site logger }
  | .conclude task outcome now site logger =>
    { session with context := session.context.logFailure now site logger task outcome }

def answer (session : Session) : Use → Answer
  | .operate operation => session.context.answer operation
  | .inquire inquiry => session.context.inquire inquiry
  | .create name level depth => .made (session.context.newMessage name level depth).1
  | .createOf logger level depth fields =>
    .made (session.context.newMessageOf logger level depth fields).1
  | .set .. | .send .. | .call .. | .conclude .. => .done

def operations (session : Session) : Use → List Operation
  | .operate operation => [operation]
  | .send number now => (session.held number).toList.map (.send now)
  | .call call now site logger => session.context.operationsOf call now site logger
  | .conclude task (.error failure) now site logger =>
    session.context.operationsOf (.sayFormatted .error [] (task ++ ": " ++ failure)) now site logger
  | _ => []

def used (session : Session) (uses : List Use) : Session := uses.foldl use session

def trail (session : Session) : List Use → List Operation
  | [] => []
  | use :: rest => session.operations use ++ trail (session.use use) rest

end Session

theorem Call.runOperations {context : Context} (sound : context.Sound) (call : Call) (now : Moment)
    (site : CallSite) (logger : Logger) :
    call.run context now site logger =
      context.run (context.operationsOf call now site logger) := by
  rw [Call.runSendNew, Context.sendNew, Context.operationsOf, Context.newMessageOfMakes sound]
  generalize logger.name?.bind _ = made
  cases made with
  | none => rfl
  | some message =>
    exact (context.runAppend call.formatting [.send now (message.setAll (call.pairs site))]).symm

theorem Session.useRuns {session : Session} (sound : session.context.Sound) (use : Use) :
    (session.use use).context = session.context.run (session.operations use) := by
  cases use with
  | operate operation => rfl
  | inquire inquiry => rfl
  | create name level depth =>
    simp only [Session.use, perform, Context.newMessageSound sound]
    rfl
  | createOf logger level depth fields =>
    simp only [Session.use, Context.newMessageOfMakes sound]
    rfl
  | set number key value => rfl
  | send number now =>
    rcases performSend session number now with ⟨gone, same⟩ | ⟨message, found, sent⟩
    · rw [Session.use, same, operations, gone]
      rfl
    · rw [Session.use, sent, operations, found]
      rfl
  | call call now site logger => exact call.runOperations sound now site logger
  | conclude task outcome now site logger =>
    cases outcome with
    | ok done => rfl
    | error failure =>
      exact Call.runOperations sound (.sayFormatted .error [] (task ++ ": " ++ failure)) now site logger

namespace Session

theorem usedRuns {session : Session} (sound : session.context.Sound) (uses : List Use) :
    (session.used uses).context = session.context.run (session.trail uses) := by
  induction uses generalizing session with
  | nil => rfl
  | cons use rest ih =>
    have here := useRuns sound use
    have soundThen : (session.use use).context.Sound := here ▸ Context.runSound sound _
    change ((session.use use).used rest).context = _
    rw [ih soundThen, here, trail, Context.runAppend]

structure Alike (one other : Session) : Prop where
  context : one.context.Alike other.context
  messages : other.messages = one.messages

end Session

namespace Context

variable {one other : Context} (alike : one.Alike other)
include alike

theorem Alike.level (name : List String) : other.level name = one.level name := by
  rw [Context.level, Context.level, alike.levels]

theorem Alike.trace : other.trace = one.trace := by rw [Context.trace, alike.linesToo]

theorem Alike.inquire (inquiry : Inquiry) : other.inquire inquiry = one.inquire inquiry := by
  cases inquiry <;>
    simp only [Context.inquire, Context.level, levelOf, allows, allowsOf, alike.levels]

theorem Alike.newMessage (name : List String) (level : Level) (depth : Nat) :
    (other.newMessage name level depth).1 = (one.newMessage name level depth).1 := by
  rw [newMessageSound alike.sound, newMessageSound alike.soundToo, alike.level, alike.trace]

theorem Alike.newMessageOf (logger : Logger) (level : Level) (depth : Nat) (fields : Fields) :
    (other.newMessageOf logger level depth fields).1 =
      (one.newMessageOf logger level depth fields).1 := by
  simp only [newMessageOfMakes alike.sound, newMessageOfMakes alike.soundToo, alike.level,
    alike.trace]

theorem Alike.operationsOf (call : Call) (now : Moment) (site : CallSite) (logger : Logger) :
    other.operationsOf call now site logger = one.operationsOf call now site logger := by
  rw [Context.operationsOf, Context.operationsOf, alike.newMessageOf]

end Context

namespace Session

theorem heldAlike {one other : Session} (alike : one.Alike other) (number : Nat) :
    other.held number = one.held number := by rw [held, held, alike.messages]

theorem operationsAlike {one other : Session} (alike : one.Alike other) (use : Use) :
    other.operations use = one.operations use := by
  cases use with
  | send number now => rw [operations, operations, heldAlike alike]
  | call call now site logger => exact alike.context.operationsOf call now site logger
  | conclude task outcome now site logger =>
    cases outcome with
    | ok done => rfl
    | error failure => exact alike.context.operationsOf _ now site logger
  | _ => rfl

theorem answerAlike {one other : Session} (alike : one.Alike other) {use : Use}
    (plain : use.raw = false) : other.answer use = one.answer use := by
  cases use with
  | operate operation => exact (Context.performTogether alike.context operation).answer plain
  | inquire inquiry => exact alike.context.inquire inquiry
  | create name level depth => exact congrArg Answer.made (alike.context.newMessage name level depth)
  | createOf logger level depth fields =>
    exact congrArg Answer.made (alike.context.newMessageOf logger level depth fields)
  | _ => rfl

theorem messagesAlike {one other : Session} (alike : one.Alike other) (use : Use) :
    (other.use use).messages = (one.use use).messages := by
  cases use with
  | create name level depth =>
    simp only [Session.use, perform, alike.messages, alike.context.newMessage]
  | createOf logger level depth fields =>
    simp only [Session.use, alike.messages, alike.context.newMessageOf]
  | set number key value => simp only [Session.use, perform, alike.messages]
  | send number now =>
    simp only [Session.use, perform, heldAlike alike]
    cases one.held number with
    | none => exact alike.messages
    | some message => exact congrArg (List.set · number none) alike.messages
  | _ => exact alike.messages

theorem useAlike {one other : Session} (alike : one.Alike other) (use : Use) :
    (one.use use).Alike (other.use use) := by
  refine ⟨?_, messagesAlike alike use⟩
  rw [useRuns alike.context.sound, useRuns alike.context.soundToo, operationsAlike alike]
  exact Context.runAlike alike.context _

theorem usedAlike {one other : Session} (alike : one.Alike other) (uses : List Use) :
    (one.used uses).Alike (other.used uses) ∧ other.trail uses = one.trail uses := by
  induction uses generalizing one other with
  | nil => exact ⟨alike, rfl⟩
  | cons use rest ih =>
    obtain ⟨later, same⟩ := ih (useAlike alike use)
    refine ⟨later, ?_⟩
    rw [trail, trail, operationsAlike alike, same]

end Session

theorem failingSinkFiltersAlike {start : Context} (healthy : start.Healthy) (uses : List Use) :
    let sound := Session.used ⟨start, []⟩ uses
    let failing := Session.used ⟨start.failing, []⟩ uses
    let operations := Session.trail ⟨start, []⟩ uses
    (∀ use, use.raw = false → failing.answer use = sound.answer use) ∧
    (∀ name, failing.context.level name = sound.context.level name) ∧
    failing.messages = sound.messages ∧
    Session.trail ⟨start.failing, []⟩ uses = operations ∧
    (∀ before operation, (start.run before).Together (start.failing.run before) operation) ∧
    start.outputs.Gathers sound.context.outputs (start.journal operations) ∧
    sound.context.outputs.events =
      start.outputs.events ++ operations.flatMap Operation.events ∧
    start.Outlives operations failing.context := by
  intro sound failing operations
  have alike := Context.failingAlike healthy
  have begun : Session.Alike ⟨start, []⟩ ⟨start.failing, []⟩ := ⟨alike, rfl⟩
  obtain ⟨together, sameTrail⟩ := Session.usedAlike begun uses
  have reached : sound.context = start.run operations := Session.usedRuns begun.context.sound uses
  have reachedToo : failing.context = start.failing.run operations :=
    (Session.usedRuns begun.context.soundToo uses).trans (congrArg start.failing.run sameTrail)
  refine ⟨fun use plain => Session.answerAlike together plain, together.context.level,
    together.messages, sameTrail, ?_, ?_, ?_, ?_⟩
  · intro before operation
    exact Context.performTogether (Context.runAlike alike before) operation
  · rw [reached]
    exact (Context.runChain healthy operations).gathers
  · rw [reached]
    exact Context.runEvents healthy operations
  · rw [reachedToo]
    exact Context.failingRun healthy operations

theorem keptAfterFailingSink :
    let start : Context := ⟨⟨.empty, .lines .supplied false⟩, .start ⟨[], []⟩⟩
    let now : Moment := ⟨0, 0, 0⟩
    let logger : Logger := .named ⟨["a"], by decide⟩
    let uses : List Use :=
      [.operate (.setLevel [] .info), .create ["a"] .info 0,
        .call (.say .info "lost") now ⟨"m", 1⟩ logger, .operate (.write true ⟨#[0x61]⟩),
        .operate (.configure 1 (some "/log")), .set 0 "k" (.boolean true), .send 0 now,
        .call (.say .debug "unwanted") now ⟨"m", 2⟩ logger]
    let line := (Record.ofPairs [("k", .boolean true)]).logLine now ["a"] .info false
    let failing := Session.used ⟨start.failing, []⟩ uses
    start.Healthy ∧
      failing.answer (.inquire (.levelOf logger)) =
        (Session.used ⟨start, []⟩ uses).answer (.inquire (.levelOf logger)) ∧
      failing.context.outputs.events =
        [.warning "Failed to write log line: disk full",
          .warning "Failed to flush previous log output: flush failed"] ∧
      failing.context.outputs.contents (.file ["log"]) = some line.toUTF8 := by
  intro start now logger uses line failing
  have healthy : start.Healthy := Context.healthyLines rfl trivial (by simp)
  obtain ⟨answers, _, _, _, _, _, _, outlives⟩ := failingSinkFiltersAlike healthy uses
  have events := outlives.events
  have contents := outlives.contents (.file ["log"])
  have listed : (start.run (start.lost (Session.trail ⟨start, []⟩ uses))).journal
      (start.kept (Session.trail ⟨start, []⟩ uses)) =
        [(.file ["log"], .empty), (.file ["log"], line.toUTF8)] := by decide +kernel
  rw [listed, if_pos (by decide)] at contents
  refine ⟨healthy, answers _ rfl, ?_, ?_⟩
  · rw [events]
    decide +kernel
  · exact contents.trans (by decide +kernel)

end LeveledLogging
