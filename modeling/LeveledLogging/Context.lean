import LeveledLogging.Hierarchy
import LeveledLogging.Outputs
/-!
A backend and all that has come out of it. A backend decides by name and level whether there is a
message at all (`Context.newMessage`), and what becomes of a message that is sent (`Context.send`).
Every kind of backend filters by a hierarchy of levels of its own.
-/
namespace LeveledLogging

inductive Output where
  | lines (sink : Sink) (trace : Bool)
  | events
  -- A record of everything it is asked for; a refusing one cannot be configured.
  | calls (refusing : Bool)
  deriving DecidableEq, Repr

structure Backend where
  levels : Hierarchy
  output : Output

inductive BackendKind where
  | simple
  | tracing
  deriving DecidableEq, Repr

namespace BackendKind

def word : BackendKind → String
  | .simple => "simple"
  | .tracing => "tracing"

def read (s : String) : Except LogError BackendKind :=
  let w := Text.lowercase (Text.trim s)
  if w = "simple" then .ok .simple
  else if w = "tracing" then .ok .tracing
  else .error (.validation (.backend w))

def create : BackendKind → Backend
  | .simple => ⟨.empty, .lines .errorStream false⟩
  | .tracing => ⟨.empty, .events⟩

end BackendKind

structure Message where
  name : List String
  level : Level
  -- Show the place of origin, as it was asked for when the message was made.
  trace : Bool
  sets : List (String × Value)
  deriving DecidableEq, Repr

namespace Message

def set (message : Message) (key : String) (value : Value) : Message :=
  { message with sets := message.sets ++ [(key, value)] }

def setAll (message : Message) (pairs : List (String × Value)) : Message :=
  { message with sets := message.sets ++ pairs }

def record (message : Message) : Record := Record.ofPairs message.sets

end Message

structure Context where
  backend : Backend
  outputs : Outputs

namespace Context

def description : String := "LogContext \x7b .. \x7d"

def emit (context : Context) (event : Event) : Context :=
  { context with outputs := context.outputs.emit event }

def level (context : Context) (name : List String) : Level := context.backend.levels.get name

def allows (context : Context) (name : List String) (level : Level) : Bool :=
  context.backend.levels.allows name level

def withLevel (context : Context) (name : List String) (level : Level) : Context :=
  { context with backend.levels := context.backend.levels.set name level }

def setLevel (context : Context) (name : List String) (level : Level) : Context :=
  match context.backend.output with
  | .calls _ => (context.emit (.called (.setLevel name level))).withLevel name level
  | _ => context.withLevel name level

def setLevels (context : Context) (settings : List (LoggerName × Level)) : Context :=
  settings.foldl (fun c (name, level) => c.setLevel name.segments level) context

def openSink (files : FileSystem) (root : Level) (path : Option String) :
    Except IoFault (Sink × FileSystem) :=
  match root, path with
  | .off, _ => .ok (.discard, files)
  | _, none => .ok (.errorStream, files)
  | _, some path => do
    let (place, files) ← files.openFile path
    return (.file place, files)

def configure (context : Context) (verbosity : Int32) (path : Option String) :
    Except LogError Unit × Context :=
  let root := Level.ofVerbosity verbosity.toInt
  match context.backend.output with
  | .lines sink trace =>
    match openSink context.outputs.files root path with
    | .error fault => (.error (.io fault), context)
    | .ok (next, files) =>
      (.ok (), ⟨⟨context.backend.levels.set [] root, .lines next trace⟩,
        { context.outputs with files }.release sink⟩)
  | .events => (.ok (), context.withLevel [] root)
  | .calls refusing =>
    let context := context.emit (.called (.configure verbosity path))
    if refusing then (.error (.other "configure refused"), context)
    else (.ok (), context.withLevel [] root)

def quietVerbosity : Int32 := -4

/- A quiet program logs to its file or not at all. -/
def programVerbosity (verbosity : Int32) (path : Option String) (quiet : Bool) : Int32 :=
  if quiet ∧ path = none then quietVerbosity else verbosity

def configureProgram (context : Context) (verbosity : Int32) (path : Option String) (quiet : Bool) :
    Except LogError Unit × Context :=
  context.configure (programVerbosity verbosity path quiet) path

def applySettings (context : Context) (settings : Settings) : Except LogError Unit × Context :=
  match settings.overrides with
  | .error e => (.error e, context)
  | .ok overrides =>
    match context.configure settings.verbosity settings.path with
    | (.ok (), context) => (.ok (), context.setLevels overrides)
    | failed => failed

def applyLevels (context : Context) (settings : Settings) : Except LogError Unit × Context :=
  match settings.overrides with
  | .error e => (.error e, context)
  | .ok overrides => (.ok (), (context.setLevel [] settings.rootLevel).setLevels overrides)

def ofSettings (kind : BackendKind) (settings : Settings) (files : FileSystem) :
    Except LogError Unit × Context :=
  let backend := match kind with
    | .simple => ⟨.empty, .lines .errorStream settings.trace⟩
    | .tracing => kind.create
  applySettings ⟨backend, .start files⟩ settings

def setTrace (context : Context) (trace : Bool) : Option Context :=
  match context.backend.output with
  | .lines sink _ => some { context with backend.output := .lines sink trace }
  | _ => none

/- Writes bytes where the lines go at present, and flushes them. An insistent write bothers the sink
even if there is nothing to write. -/
def writeBytes (context : Context) (insistent : Bool) (bytes : ByteArray) :
    Option (Except LogError Unit × Context) :=
  match context.backend.output with
  | .lines sink _ =>
    let written :=
      if insistent then context.outputs.offer sink bytes
      else context.outputs.writeBytes sink bytes
    match written, Outputs.flush sink with
    | .ok outputs, .ok () => some (.ok (), { context with outputs })
    | .ok outputs, .error fault => some (.error (.io fault), { context with outputs })
    | .error fault, _ => some (.error (.io fault), context)
  | _ => none

def writeText (context : Context) (insistent : Bool) (s : String) :
    Option (Except LogError Unit × Context) :=
  context.writeBytes insistent s.toUTF8

def newMessage (context : Context) (name : List String) (level : Level) (depth : Nat) :
    Option Message × Context :=
  match context.backend.output with
  | .lines _ trace =>
    (if level.isLoggable && context.allows name level then some ⟨name, level, trace, []⟩ else none,
      context)
  | .events =>
    (if level.isLoggable && context.allows name level then some ⟨name, level, false, []⟩ else none,
      context)
  | .calls _ =>
    (if context.allows name level then some ⟨name, level, false, []⟩ else none,
      context.emit (.called (.newMessage name level depth)))

def send (context : Context) (now : Moment) (message : Message) : Context :=
  match context.backend.output with
  | .lines sink _ =>
    let line := message.record.logLine now message.name message.level message.trace
    { context with outputs := context.outputs.writeLine sink line }
  | .events =>
    match message.level.severity with
    | some severity =>
      context.emit (.message severity (LoggerName.dots message.name) message.record)
    | none => context
  | .calls _ => context.emit (.called (.send message.sets))

end Context

end LeveledLogging
