import LeveledLogging.Context
/-!
Loggers. A logger is bound to a name, discards everything, or sets fields on the messages of another
logger. What it asks the backend for is its `Request`; the fields of a wrapped logger are set before
those of the wrapper, and the fields of a call after both.
-/
namespace LeveledLogging

inductive Logger where
  | named (name : LoggerName)
  | discarding
  | wrapping (inner : Logger) (fields : Fields)
  deriving DecidableEq

structure CallSite where
  file : String
  line : Nat
  deriving DecidableEq, Repr

def CallSite.pairs (site : CallSite) : List (String × Value) :=
  [(fileKey, .text site.file), (lineKey, .integer (Int64.ofNat site.line))]

structure Request where
  name : List String
  level : Level
  -- The number of calls between the program and the backend.
  depth : Nat
  sets : List (String × Value)
  deriving DecidableEq, Repr

namespace Logger

def name? : Logger → Option LoggerName
  | named name => some name
  | discarding => none
  | wrapping inner _ => inner.name?

def request : Logger → Level → Nat → List (String × Value) → Option Request
  | named name, level, depth, pairs => some ⟨name.segments, level, depth + 1, pairs⟩
  | discarding, _, _, _ => none
  | wrapping inner fields, level, depth, pairs =>
    (request inner level (depth + 1) fields.pairs).map fun r => { r with sets := r.sets ++ pairs }

def withScope (inner : Logger) (scope : String) : Logger :=
  wrapping inner (Fields.empty.set scopeKey (.text scope))

def extendScope (fields : Fields) (scope : String) : Fields :=
  let whole := match fields.get? scopeKey with
    | none => scope
    | some present =>
      if present.display = "" then scope else present.display ++ "." ++ scope
  fields.set scopeKey (.text whole)

def withFields : Logger → Fields → Option Logger
  | wrapping inner fields, more => some (wrapping inner (fields.merge more))
  | _, _ => none

def scope : Logger → String → Option Logger
  | wrapping inner fields, s => some (wrapping inner (extendScope fields s))
  | _, _ => none

def fields? : Logger → Option Fields
  | wrapping _ fields => some fields
  | _ => none

def describeValue : Value → String
  | .text s => "Str(" ++ Text.quote s ++ ")"
  | .integer n => "Int(" ++ Text.integer n.toInt ++ ")"
  | .float x => "Float(" ++ x.text .structural ++ ")"
  | .boolean b => "Bool(" ++ boolWord b ++ ")"
  | .bytes bs => "Bytes([" ++ String.intercalate ", " (bs.map fun b => Text.integer b.toNat) ++ "])"

def describePair (pair : String × Value) : String :=
  "(" ++ Text.quote pair.1 ++ ", " ++ describeValue pair.2 ++ ")"

def describe : Logger → String
  | named name => "BackendLogger \x7b name: " ++ Text.quote name.dotted ++ ", .. \x7d"
  | discarding => "NoOpLogger"
  | wrapping _ fields =>
    "KeyValueLogger \x7b fields: Fields([" ++
      String.intercalate ", " (fields.pairs.map describePair) ++ "]), .. \x7d"

end Logger

namespace Context

def logger (name : String) : Except LogError Logger := Logger.named <$> LoggerName.read name

def levelOf (context : Context) (logger : Logger) : Level :=
  match logger.name? with
  | some name => context.level name.segments
  | none => .off

def allowsOf (context : Context) (logger : Logger) (level : Level) : Bool :=
  match logger.name? with
  | some name => context.allows name.segments level
  | none => false

def setLevelOf (context : Context) (logger : Logger) (level : Level) : Context :=
  match logger.name? with
  | some name => context.setLevel name.segments level
  | none => context

def ask (context : Context) (request : Request) : Option Message × Context :=
  match context.newMessage request.name request.level request.depth with
  | (some message, context) => (some (message.setAll request.sets), context)
  | (none, context) => (none, context)

def newMessageOf (context : Context) (logger : Logger) (level : Level) (depth : Nat)
    (fields : Fields) : Option Message × Context :=
  match logger.request level depth fields.pairs with
  | some request => context.ask request
  | none => (none, context)

def sendNew (context : Context) (now : Moment) (logger : Logger) (level : Level)
    (depth : Nat) (tell : Context → Context) (pairs : List (String × Value)) : Context :=
  match context.newMessageOf logger level depth .empty with
  | (some message, context) => (tell context).send now (message.setAll pairs)
  | (none, context) => context

/- Logs a text with fields. The place of the call goes in front of them, so that they prevail. -/
def log (context : Context) (now : Moment) (site : CallSite) (logger : Logger) (level : Level)
    (depth : Nat) (text : String) (fields : Fields) : Context :=
  context.sendNew now logger level (depth + 1) id
    (site.pairs ++ fields.pairs ++ [(messageKey, .text text)])

def logFormatted (context : Context) (now : Moment) (site : CallSite) (logger : Logger)
    (level : Level) (depth : Nat) (formatting : Context → Context) (text : String) : Context :=
  context.sendNew now logger level (depth + 1) formatting
    (site.pairs ++ [(messageKey, .text text)])

def say (context : Context) (now : Moment) (site : CallSite) (logger : Logger) (level : Level)
    (text : String) : Context :=
  context.log now site logger level 1 text .empty

def sayFormatted (context : Context) (now : Moment) (site : CallSite) (logger : Logger)
    (level : Level) (text : String) (formatting : Context → Context := id) : Context :=
  context.logFormatted now site logger level 1 formatting text

def logHere (context : Context) (now : Moment) (site : CallSite) (logger : Logger) (level : Level)
    (text : String) (formatting : Context → Context := id) : Context :=
  context.sendNew now logger level 0 formatting (site.pairs ++ [(messageKey, .text text)])

def logFailure (context : Context) (now : Moment) (site : CallSite) (logger : Logger)
    (task : String) (outcome : Except String Unit) : Context :=
  match outcome with
  | .ok () => context
  | .error failure => context.sayFormatted now site logger .error (task ++ ": " ++ failure)

end Context

end LeveledLogging
