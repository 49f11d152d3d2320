import LeveledLogging.Document.Conversion
/-!
The settings of a log: their directives and their document. A directive such as `server.http=debug` is
a name, an equals sign and a level, or a level alone for the root; later ones win over earlier ones.
`Settings.ofDocument` reads a document, where every member may be absent, and `Settings.toDocument`
writes one.
-/
namespace LeveledLogging

namespace Directives

def explain (directive : String) {α : Type} : Except LogError α → Except LogError α
  | .error (.validation cause) => .error (.config (.directive directive cause))
  | r => r

def readOne (directive : String) : Except LogError (String × Level) := do
  let (name, level) := match Text.cut '=' directive with
    | some (name, level) => (Text.trim name, level)
    | none => ("", directive)
  let _ ← explain directive (LoggerName.read name)
  let level ← explain directive (Level.read level)
  return (name, level)

def pieces (s : String) : List String :=
  ((Text.split ',' s).map Text.trim).filter (· ≠ "")

def readAll (s : String) : Except LogError (List (String × Level)) := (pieces s).mapM readOne

def read (s : String) : Except LogError LevelTable := do
  return Table.ofList (← readAll s)

end Directives

inductive LineFormat where
  | full
  | compact
  deriving DecidableEq, Repr

namespace LineFormat

def word : LineFormat → String
  | .full => "full"
  | .compact => "compact"

def all : List LineFormat := [.full, .compact]

def read : Document → Except DecodeFault LineFormat :=
  Document.asWord (all.map fun format => (format.word, format))

end LineFormat

structure Settings where
  verbosity : Int32
  path : Option String
  trace : Bool
  format : LineFormat
  table : LevelTable
  deriving DecidableEq, Repr

namespace Settings

def standard : Settings := ⟨0, none, false, .full, .empty⟩

instance : Inhabited Settings := ⟨standard⟩

def levels (settings : Settings) : Entries Level := settings.table.entries

theorem ascending (settings : Settings) : settings.levels.Ascending := settings.table.ascending

def rootLevel (settings : Settings) : Level := Level.ofVerbosity settings.verbosity.toInt

def overrides (settings : Settings) : Except LogError (List (LoggerName × Level)) :=
  settings.levels.mapM fun (name, level) => return (← LoggerName.read name, level)

def maxLevel (settings : Settings) : Level :=
  settings.levels.foldl (fun most (_, level) => max most level) settings.rootLevel

def setMember (settings : Settings) (key : String) (value : Document) :
    Except DecodeFault Settings := do
  match key with
  | "verbosity" => return { settings with verbosity := ← value.asInt32 }
  | "path" => return { settings with path := ← Document.asOptional Document.asPath value }
  | "trace" => return { settings with trace := ← value.asBoolean }
  | "format" => return { settings with format := ← LineFormat.read value }
  | "levels" => return { settings with table := ← value.asLevels }
  | _ => return settings

def places : List String := ["verbosity", "path", "trace", "format", "levels"]

/- The settings that a document gives: an object, or a list of values in the order of `places` that
may end early. -/
def ofDocument : Document → Except DecodeFault Settings
  | .object members =>
    members.foldlM (fun settings (key, value) => settings.setMember key value) standard
  | .list items => do
    let settings ← (places.zip items).foldlM
      (fun settings (key, value) => settings.setMember key value) standard
    if places.length < items.length then throw (.tooMany items.length)
    return settings
  | document => .error (.wrongKind document.kind "struct LogConfig")

def toDocument (settings : Settings) : Document :=
  .object (
    [("format", .text settings.format.word)] ++
    (if settings.levels = [] then []
      else [("levels", .ofLevels settings.table)]) ++
    (settings.path.toList.map fun path => ("path", .text path)) ++
    [("trace", .boolean settings.trace), ("verbosity", .integer settings.verbosity.toInt)])

end Settings

end LeveledLogging
