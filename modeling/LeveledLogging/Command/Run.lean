import LeveledLogging.Command.Arguments
import LeveledLogging.Config
import LeveledLogging.Logger
import LeveledLogging.Subscriber
/-!
The commands. `Command.run` says for every command line what is written, which files change and how
the program ends. Only a command that sends a message opens a log file.
-/
namespace LeveledLogging

inductive Style where
  | redBold
  | greenBold
  | yellowBold
  | cyanBold
  | cyan
  deriving DecidableEq, Repr

namespace Style

def start : Style → String
  | .redBold => "\x1b[1;31m"
  | .greenBold => "\x1b[1;32m"
  | .yellowBold => "\x1b[1;33m"
  | .cyanBold => "\x1b[1;36m"
  | .cyan => "\x1b[36m"

def reset : String := "\x1b[0m"

/- A text in a style; where the text turns styles off, this one is turned on again. -/
def apply (coloured : Bool) (style : Style) (s : String) : String :=
  if coloured then
    style.start ++ String.intercalate (reset ++ style.start) (s.splitOn reset) ++ reset
  else s

end Style

structure Surroundings where
  environment : List (String × String)
  userHome : Option String
  files : FileSystem
  now : Moment
  site : CallSite
  eventSite : Subject → String
  -- The filter that a text asks for, if it can be read as one.
  readFilter : String → Option SubjectFilter
  architecture : String
  system : String

namespace Surroundings

def variableOf (s : Surroundings) (name : String) : Option String := s.environment.lookup name

def home (s : Surroundings) : Option String :=
  ((s.variableOf "HOME").filter (· ≠ "")).or s.userHome

def coloured (s : Surroundings) : Bool := (s.variableOf "CLICOLOR_FORCE").any (· ≠ "0")

def askedFilter (s : Surroundings) : Option SubjectFilter := (s.variableOf "RUST_LOG").bind s.readFilter

end Surroundings

structure Outcome where
  status : Nat
  output : String
  errorText : String
  files : FileSystem
  deriving DecidableEq

structure Failure where
  causes : List String
  deriving DecidableEq, Repr

namespace Failure

def ofError (e : LogError) : Failure := ⟨e.chain⟩

def under (task : String) (failure : Failure) : Failure := ⟨task :: failure.causes⟩

def message (failure : Failure) : String := String.intercalate ": " failure.causes

end Failure

namespace Command

def programName : String := "commonlog"
def programVersion : String := "1.2.0"
def languageVersion : String := "1.75.0"

def explain {α : Type} (task : String) : Except LogError α → Except Failure α
  | .ok a => .ok a
  | .error e => .error ((Failure.ofError e).under task)

def plainly {α : Type} : Except LogError α → Except Failure α
  | .ok a => .ok a
  | .error e => .error (.ofError e)

def addDirective (settings : Settings) (directive : String) : Except Failure Settings := do
  let levels ← explain ("Invalid --level '" ++ directive ++ "'") (Directives.read directive)
  return { settings with table := settings.table.insertAll levels.entries }

def loadSettings (s : Surroundings) (options : Options) : Except Failure Settings := do
  let settings ← explain "Failed to load configuration"
    (Config.loadSettings s.home s.files options.config s.environment)
  let settings :=
    if options.verbosity = 0 then settings
    else { settings with verbosity := Int32.ofNat options.verbosity }
  options.levels.foldlM addDirective settings

/- The settings of the subscriber. Without `toFile` the log file is left alone, and a quiet program
without a log file shows no events. -/
def subscriberSettings (options : Options) (settings : Settings) (toFile : Bool) : Settings :=
  let path := if toFile then settings.path else none
  if options.quiet ∧ path = none then
    { settings with path, verbosity := Context.quietVerbosity, table := .empty }
  else { settings with path }

def installSubscriber (s : Surroundings) (options : Options) (settings : Settings) (toFile : Bool) :
    Except Failure Subscriber × FileSystem :=
  let (r, files) := Subscriber.install none s.askedFilter
    (subscriberSettings options settings toFile) s.files
  (explain "Failed to initialize logging" r, files)

/-! ## Sending a message -/

def readValue (s : String) : Value :=
  match Text.readInt64 s with
  | some n => .integer n
  | none => if s = "true" then .boolean true else if s = "false" then .boolean false else .text s

def readField (field : String) : Except Failure (String × Value) :=
  match Text.cut '=' field with
  | none => .error ⟨["Invalid field '" ++ field ++ "': expected KEY=VALUE"]⟩
  | some (key, value) =>
    let key := Text.trim key
    if key = "" then .error ⟨["Invalid field '" ++ field ++ "': empty key"]⟩
    else .ok (key, readValue value)

def tell (s : Surroundings) (subscriber : Subscriber) (outputs : Outputs) (told : List Diagnostic) :
    Outputs :=
  told.foldl (subscriber.report s.now s.eventSite) outputs

def outputSettings (options : Options) (settings : Settings) : Settings :=
  { settings with
    verbosity := Context.programVerbosity settings.verbosity settings.path options.quiet }

def setupTold (settings : Settings) : BackendKind → List Diagnostic
  | .simple => [.configured settings.verbosity settings.path settings.rootLevel]
  | .tracing => (settings.path.map .pathIgnored).toList

def outputContext (s : Surroundings) (options : Options) (settings : Settings)
    (subscriber : Subscriber) (kind : BackendKind) (files : FileSystem) :
    Except Failure Unit × Context :=
  let backend := match kind with
    | .simple => ⟨.empty, .lines .errorStream settings.trace⟩
    | .tracing => kind.create
  let (r, context) := Context.configureProgram ⟨backend, .start files⟩ settings.verbosity
    settings.path options.quiet
  match explain "Failed to configure log output" r with
  | .error e => (.error e, context)
  | .ok () =>
    let outputs := tell s subscriber context.outputs (setupTold (outputSettings options settings) kind)
    let context := { context with outputs }
    match plainly settings.overrides with
    | .error e => (.error e, context)
    | .ok overrides => (.ok (), context.setLevels overrides)

def writeEvents (s : Surroundings) (subscriber : Subscriber) (outputs : Outputs) : Outputs :=
  outputs.events.foldl (subscriber.write s.now s.eventSite) outputs

def send (s : Surroundings) (options : Options) (settings : Settings) (subscriber : Subscriber)
    (files : FileSystem) (name : String) (level : Level) (text : String) (fields : List String)
    (kind : BackendKind) : Except Failure Unit × Outputs :=
  if !level.isLoggable then
    (.error ⟨["Cannot emit a message at level '" ++ level.title ++ "'"]⟩, .start files)
  else match fields.mapM readField with
    | .error e => (.error e, .start files)
    | .ok pairs =>
      match outputContext s options settings subscriber kind files with
      | (.error e, context) => (.error e, context.outputs)
      | (.ok (), context) =>
        match explain ("Invalid logger name '" ++ name ++ "'") (Context.logger name) with
        | .error e => (.error e, context.outputs)
        | .ok logger =>
          let refused := if context.allowsOf logger level then [] else [.filtered name level]
          let context := { context with outputs := tell s subscriber context.outputs refused }
          let context := context.log s.now s.site logger level 0 text (Fields.ofPairs pairs)
          (.ok (), writeEvents s subscriber context.outputs)

/-! ## Looking at the configuration -/

def levelsOf (settings : Settings) : Except LogError Hierarchy :=
  match Context.applyLevels ⟨⟨.empty, .lines .discard false⟩, .start ⟨[], []⟩⟩ settings with
  | (.ok (), context) => .ok context.backend.levels
  | (.error e, _) => .error e

def shownName (name : String) : String := if name = "" then "<root>" else name

def resolveLines (levels : Hierarchy) : List String → Except Failure Unit × List String
  | [] => (.ok (), [])
  | name :: rest =>
    match explain ("Invalid logger name '" ++ name ++ "'") (LoggerName.read name) with
    | .error e => (.error e, [])
    | .ok parsed =>
      let (r, lines) := resolveLines levels rest
      (r, (shownName parsed.dotted ++ " = " ++ (levels.get parsed.segments).title) :: lines)

def levelLines (coloured : Bool) (levels : Hierarchy) : List String :=
  levels.configured.map fun (name, level) =>
    Style.cyan.apply coloured (shownName name) ++ " = " ++ level.title

def hasDirectory (files : FileSystem) (path : String) : Bool :=
  match FilePath.parent path with
  | none => true
  | some "" => true
  | some parent => files.isDirectory parent

def checkLines (s : Surroundings) (options : Options) (settings : Settings) (overrides : Nat) :
    List String :=
  let first := match options.config with
    | some path => Style.greenBold.apply s.coloured "Configuration OK:" ++ " " ++ path
    | none => Style.greenBold.apply s.coloured "Configuration OK" ++ " (no file)"
  let output := match settings.path with
    | none => ["  Output: stderr"]
    | some path =>
      ("  Output: " ++ path) ::
        if hasDirectory s.files path then []
        else ["  " ++ Style.yellowBold.apply s.coloured "Warning:" ++
          " log directory does not exist"]
  first :: ("  Root level: " ++ settings.rootLevel.title) :: output ++
    ["  Trace: " ++ boolWord settings.trace, "  Overrides: " ++ Text.integer overrides]

def versionLines (s : Surroundings) (options : Options) : List String :=
  (Style.cyanBold.apply s.coloured programName ++ " " ++ programVersion) ::
    if options.verbosity = 0 then []
    else ["", "Build Information:", "  Version: " ++ programVersion,
      "  Library: " ++ programVersion, "  Target: " ++ s.architecture, "  OS: " ++ s.system,
      "  Rust Version: " ++ languageVersion]

/-! ## Running -/

def unlines (lines : List String) : String :=
  String.join (lines.map fun line => line ++ "\n")

def finish (s : Surroundings) (r : Except Failure Unit) (lines : List String)
    (errorText : String) (files : FileSystem) : Outcome :=
  match r with
  | .ok () => ⟨0, unlines lines, errorText, files⟩
  | .error e =>
    ⟨1, unlines lines,
      errorText ++ Style.redBold.apply s.coloured "Error:" ++ " " ++ e.message ++ "\n", files⟩

def inspect (s : Surroundings) (options : Options)
    (look : Settings → Except Failure Unit × List String) : Outcome :=
  match loadSettings s options with
  | .error e => finish s (.error e) [] "" s.files
  | .ok settings =>
    match installSubscriber s options settings false with
    | (.error e, files) => finish s (.error e) [] "" files
    | (.ok _, files) =>
      let (r, lines) := look settings
      finish s r lines "" files

def run (s : Surroundings) (invocation : Invocation) : Outcome :=
  let options := invocation.options
  match invocation.command with
  | .resolve names =>
    inspect s options fun settings =>
      match plainly (levelsOf settings) with
      | .error e => (.error e, [])
      | .ok tree => resolveLines tree names
  | .levels =>
    inspect s options fun settings =>
      match plainly (levelsOf settings) with
      | .error e => (.error e, [])
      | .ok tree => (.ok (), levelLines s.coloured tree)
  | .check =>
    inspect s options fun settings =>
      match plainly settings.overrides with
      | .error e => (.error e, [])
      | .ok overrides => (.ok (), checkLines s options settings overrides.length)
  | .version => finish s (.ok ()) (versionLines s options) "" s.files
  | .emit name level text fields kind =>
    match loadSettings s options with
    | .error e => finish s (.error e) [] "" s.files
    | .ok settings =>
      match installSubscriber s options settings (kind = .tracing) with
      | (.error e, files) => finish s (.error e) [] "" files
      | (.ok subscriber, files) =>
        let (r, outputs) := send s options settings subscriber files name level text fields kind
        finish s r [] outputs.errorText outputs.files

def usage : String :=
  "Inspect and exercise hierarchical log level configuration\n\n" ++
    "Usage: commonlog [OPTIONS] <COMMAND>\n\n" ++
    "Commands:\n" ++
    "  resolve  Show the effective max level of logger names\n" ++
    "  levels   List explicitly configured levels\n" ++
    "  emit     Send one message through a backend\n" ++
    "  check    Validate the configuration\n" ++
    "  version  Show version information\n" ++
    "  help     Print this message or the help of the given subcommand(s)\n\n" ++
    "Options:\n" ++
    "  -v, --verbose...          Increase verbosity (-v for info, -vv for debug)\n" ++
    "  -q, --quiet               Suppress log output unless a log file is configured\n" ++
    "  -c, --config <FILE>       Configuration file (YAML or JSON) [env: COMMONLOG_CONFIG=]\n" ++
    "  -l, --level <NAME=LEVEL>  Level override such as \x60server.http=debug\x60 (repeatable)\n" ++
    "  -h, --help                Print help\n" ++
    "  -V, --version             Print version\n"

def pathsOf (s : Surroundings) (args : List String) : List String :=
  match Arguments.read (s.variableOf "COMMONLOG_CONFIG") args with
  | .error _ => []
  | .ok { options, .. } =>
    (options.config.map (FilePath.expand s.home)).toList ++
      match loadSettings s options with
      | .error _ => []
      | .ok settings => settings.path.toList

def runArguments (s : Surroundings) (args : List String) : Outcome :=
  match Arguments.read (s.variableOf "COMMONLOG_CONFIG") args with
  | .ok invocation => run s invocation
  | .error .help => ⟨0, usage, "", s.files⟩
  | .error .version => ⟨0, programName ++ " " ++ programVersion ++ "\n", "", s.files⟩
  | .error .fault => ⟨2, "", usage, s.files⟩

end Command

end LeveledLogging
