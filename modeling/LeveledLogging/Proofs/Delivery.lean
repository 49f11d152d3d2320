import LeveledLogging.Proofs.Operations
/-! What one call of a logger comes to. Whatever wraps the logger and whichever way the call is made,
the backend is asked once, under the name at the bottom; the answer depends on the name and the level
alone. An allowed call adds one record where messages go, any other call changes nothing and makes no
text. -/
namespace LeveledLogging
namespace Logger

def fixed : Logger → List (String × Value)
  | named _ => []
  | discarding => []
  | wrapping inner fields => inner.fixed ++ fields.pairs

def layers : Logger → Nat
  | named _ => 0
  | discarding => 0
  | wrapping inner _ => inner.layers + 1

theorem requestNamed {logger : Logger} {name} (bound : logger.name? = some name) (level : Level)
    (depth : Nat) (pairs : List (String × Value)) :
    logger.request level depth pairs =
      some ⟨name.segments, level, depth + logger.layers + 1, logger.fixed ++ pairs⟩ := by
  induction logger generalizing depth pairs with
  | named own =>
    cases Option.some.inj bound
    rfl
  | discarding => contradiction
  | wrapping inner fields ih =>
    rw [request, ih bound, Option.map_some, layers, fixed, Nat.add_right_comm depth 1,
      ← Nat.add_assoc]

theorem requestUnnamed {logger : Logger} (unbound : logger.name? = none) (level : Level)
    (depth : Nat) (pairs : List (String × Value)) : logger.request level depth pairs = none := by
  induction logger generalizing depth pairs with
  | named own => contradiction
  | discarding => rfl
  | wrapping inner fields ih => rw [request, ih unbound, Option.map_none]

end Logger

/- The ways to make a message and send it at once. `formatting` is what the backend is used for while
the text is made, which the program is free to do in the middle of a call. -/
inductive Call where
  | log (level : Level) (depth : Nat) (text : String) (fields : Fields)
  | logFormatted (level : Level) (depth : Nat) (formatting : List Operation) (text : String)
  | say (level : Level) (text : String)
  | sayFormatted (level : Level) (formatting : List Operation) (text : String)
  | logHere (level : Level) (formatting : List Operation) (text : String)

namespace Call

def level : Call → Level
  | log level .. | logFormatted level .. | say level _ | sayFormatted level .. | logHere level .. =>
    level

def depth : Call → Nat
  | log _ depth .. | logFormatted _ depth .. => depth + 1
  | say .. | sayFormatted .. => 2
  | logHere .. => 0

def formatting : Call → List Operation
  | log .. | say .. => []
  | logFormatted _ _ formatting _ | sayFormatted _ formatting _ | logHere _ formatting _ =>
    formatting

def text : Call → String
  | log _ _ text _ | logFormatted _ _ _ text | say _ text | sayFormatted _ _ text
  | logHere _ _ text => text

def fields : Call → Fields
  | log _ _ _ fields => fields
  | _ => .empty

def pairs (call : Call) (site : CallSite) : List (String × Value) :=
  site.pairs ++ call.fields.pairs ++ [(messageKey, .text call.text)]

def run (call : Call) (context : Context) (now : Moment) (site : CallSite) (logger : Logger) :
    Context :=
  match call with
  | log level depth text fields => context.log now site logger level depth text fields
  | logFormatted level depth formatting text =>
    context.logFormatted now site logger level depth (·.run formatting) text
  | say level text => context.say now site logger level text
  | sayFormatted level formatting text =>
    context.sayFormatted now site logger level text (·.run formatting)
  | logHere level formatting text => context.logHere now site logger level text (·.run formatting)

theorem runSendNew (call : Call) (context : Context) (now : Moment) (site : CallSite)
    (logger : Logger) :
    call.run context now site logger =
      context.sendNew now logger call.level call.depth (·.run call.formatting)
        (call.pairs site) := by
  cases call <;> rfl

end Call

namespace Context

def trace (context : Context) : Bool :=
  match context.backend.output with
  | .lines _ trace => trace
  | _ => false

theorem newMessageSound {context : Context} (sound : context.Sound) (name : List String)
    (level : Level) (depth : Nat) :
    context.newMessage name level depth =
      (if level ≠ .off ∧ level ≤ context.level name then some ⟨name, level, context.trace, []⟩
        else none, context) := by
  have condition : (level.isLoggable && context.allows name level) =
      decide (level ≠ .off ∧ level ≤ context.level name) := by
    rw [Bool.decide_and]
    rfl
  unfold newMessage trace
  cases found : context.backend.output with
  | lines sink trace => simp only [condition, decide_eq_true_eq]
  | events => simp only [condition, decide_eq_true_eq]
  | calls refusing =>
    rw [Sound, found] at sound
    contradiction

theorem newMessageOfSound {context : Context} (sound : context.Sound) {logger : Logger} {name}
    (bound : logger.name? = some name) (level : Level) (depth : Nat) (fields : Fields) :
    context.newMessageOf logger level depth fields =
      (if level ≠ .off ∧ level ≤ context.level name.segments then
        some ⟨name.segments, level, context.trace, logger.fixed ++ fields.pairs⟩ else none,
        context) := by
  rw [newMessageOf, Logger.requestNamed bound]
  by_cases allowed : level ≠ .off ∧ level ≤ context.level name.segments
  · have made := newMessageSound sound name.segments level (depth + logger.layers + 1)
    rw [if_pos allowed] at made
    simp only [ask, made, if_pos allowed, Message.setAll, List.nil_append]
  · have refused := newMessageSound sound name.segments level (depth + logger.layers + 1)
    rw [if_neg allowed] at refused
    simp only [ask, refused, if_neg allowed]

structure Delivers (before after : Context) (now : Moment) (message : Message) : Prop where
  backend : after.backend = before.backend
  outputs : match before.backend.output with
    | .lines sink _ =>
        let line := message.record.logLine now message.name message.level message.trace
        before.outputs.write sink line = .ok after.outputs ∧
          before.outputs.Gains after.outputs sink line
    | _ => ∃ severity, message.level.severity = some severity ∧
        after.outputs = before.outputs.emit
          (.message severity (LoggerName.dots message.name) message.record)

theorem sendDelivers {context : Context} (sound : context.Sound)
    (takes : ∀ trace, context.backend.output ≠ .lines .broken trace) (now : Moment)
    {message : Message} (loggable : message.level ≠ .off) :
    context.Delivers (context.send now message) now message := by
  unfold send
  cases found : context.backend.output with
  | lines sink trace =>
    refine ⟨rfl, ?_⟩
    rw [Sound, found] at sound
    rw [found]
    have healthy : sink ≠ .broken := by
      rintro rfl
      exact takes trace found
    obtain ⟨after, written, gains⟩ := Outputs.writeGains sound healthy
      (message.record.logLine now message.name message.level message.trace)
    simp only [Outputs.writeLine, written]
    exact ⟨trivial, gains⟩
  | events =>
    cases rated : message.level.severity with
    | none => exact absurd (Level.severityNone.mp rated) loggable
    | some severity =>
      refine ⟨rfl, ?_⟩
      rw [found]
      exact ⟨severity, rated, rfl⟩
  | calls refusing =>
    rw [Sound, found] at sound
    contradiction

theorem callDelivers {context : Context} (sound : context.Sound) (now : Moment) (site : CallSite)
    {logger : Logger} {name} (bound : logger.name? = some name) (call : Call)
    (loggable : call.level ≠ .off) (allowed : call.level ≤ context.level name.segments)
    (takes : ∀ trace, (context.run call.formatting).backend.output ≠ .lines .broken trace) :
    (context.run call.formatting).Delivers (call.run context now site logger) now
      ⟨name.segments, call.level, context.trace, logger.fixed ++ call.pairs site⟩ := by
  let message : Message :=
    ⟨name.segments, call.level, context.trace, logger.fixed ++ call.pairs site⟩
  have delivered : (context.run call.formatting).Delivers
      ((context.run call.formatting).send now message) now message :=
    sendDelivers (runSound sound call.formatting) takes now loggable
  rw [Call.runSendNew, sendNew, newMessageOfSound sound bound,
    if_pos (And.intro loggable allowed)]
  simpa [message, Message.setAll, Fields.empty] using delivered

theorem callRefused {context : Context} (sound : context.Sound) (now : Moment) (site : CallSite)
    {logger : Logger} {name} (bound : logger.name? = some name) (call : Call)
    (refused : ¬ (call.level ≠ .off ∧ call.level ≤ context.level name.segments)) :
    call.run context now site logger = context := by
  rw [Call.runSendNew, sendNew, newMessageOfSound sound bound, if_neg refused]

end Context

end LeveledLogging
