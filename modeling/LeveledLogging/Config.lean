import LeveledLogging.Document
import LeveledLogging.Document.Conversion
import LeveledLogging.FileSystem
import LeveledLogging.Settings
import LeveledLogging.Text.Lowercase
import LeveledLogging.Yaml.Document
import LeveledLogging.Yaml.Printer
/-!
A configuration of four layers. Each layer is a document of its own; `Config.merged` lays them over
each other, and `Config.get` asks them one by one from the top.
-/
namespace LeveledLogging

inductive Layer where
  | standard
  | loaded
  | set
  | environment
  deriving DecidableEq, Repr

namespace Layer

def all : List Layer := [.standard, .loaded, .set, .environment]

def rank : Layer → Nat
  | .standard => 0
  | .loaded => 1
  | .set => 2
  | .environment => 3

def title : Layer → String
  | .standard => "Default"
  | .loaded => "Loaded"
  | .set => "Set"
  | .environment => "Environment"

end Layer

structure Config where
  standard : Option OrderedDocument
  loaded : Option OrderedDocument
  set : Option OrderedDocument
  environment : Option OrderedDocument
  file : Option String
  autoSave : Bool

namespace Config

def empty : Config := ⟨none, none, none, none, none, false⟩

def stored (config : Config) : Layer → Option OrderedDocument
  | .standard => config.standard
  | .loaded => config.loaded
  | .set => config.set
  | .environment => config.environment

def layer (config : Config) (layer : Layer) : Option Document :=
  (config.stored layer).map OrderedDocument.document

def withLayer (config : Config) (layer : Layer) (document : Option OrderedDocument) : Config :=
  match layer with
  | .standard => { config with standard := document }
  | .loaded => { config with loaded := document }
  | .set => { config with set := document }
  | .environment => { config with environment := document }

def readDocument (files : FileSystem) (path : String) : Except LoadFault OrderedDocument := do
  match files.readText path with
  | .error fault => throw (.io fault)
  | .ok s =>
    match Yaml.readDocument s with
    | some document => return document
    | none => throw .malformed

/- The configuration of a file. A missing file is no fault: it is made when the configuration is
saved. -/
def load (home : Option String) (files : FileSystem) (path : String) : Except LogError Config := do
  let path := FilePath.expand home path
  if !files.contains path then return { empty with file := some path }
  match readDocument files path with
  | .error fault => throw (.config (.unreadable path fault))
  | .ok document =>
    let loaded := if document.isNull then none else some document
    return { empty with loaded, file := some path }

def get {α : Type} (config : Config) (key : String) (read : Document → Except DecodeFault α) :
    Option α :=
  Layer.all.reverse.findSome? fun layer => do (read (← (← config.layer layer).get? key)).toOption

/- Sets a value in one layer. A layer that has no document gets one, whether or not the key is
valid. -/
def setIn (config : Config) (layer : Layer) (key : String) (value : OrderedDocument) :
    Except LogError Unit × Config :=
  let document := (config.stored layer).getD .empty
  match Document.place key with
  | .ok parts => (.ok (), config.withLayer layer (some (.put parts value document)))
  | .error e => (.error e, config.withLayer layer (some document))

def merged (config : Config) : Document :=
  Document.mergeAll (Layer.all.filterMap config.layer)

def save (config : Config) (files : FileSystem) : Except LogError FileSystem :=
  match config.file with
  | none => .error (.config .noFile)
  | some path =>
    match files.write path (Yaml.print config.merged).toUTF8 with
    | .ok files => .ok files
    | .error fault => .error (.config (.unwritable path fault))

def setValue {α : Type} (config : Config) (files : FileSystem) (key : String)
    (write : α → Except DecodeFault OrderedDocument) (value : α) :
    Except LogError Unit × Config × FileSystem :=
  match write value with
  | .error fault => (.error (.json fault), config, files)
  | .ok document =>
    match config.setIn .set key document with
    | (.error e, config) => (.error e, config, files)
    | (.ok (), config) =>
      if config.autoSave then
        match config.save files with
        | .ok files => (.ok (), config, files)
        | .error e => (.error e, config, files)
      else (.ok (), config, files)

/-! ## Environment -/

def verbosityVariable : String := "COMMONLOG_VERBOSITY"
def pathVariable : String := "COMMONLOG_PATH"
def traceVariable : String := "COMMONLOG_TRACE"
def levelsVariable : String := "COMMONLOG_LEVELS"

def readFlag (s : String) : Option Bool :=
  let word := Text.lowercase (Text.trim s)
  if word ∈ ["1", "true", "yes", "on"] then some true
  else if word ∈ ["0", "false", "no", "off", ""] then some false
  else none

def readVariable (name value : String) : Except LogError (Option (String × OrderedDocument)) :=
  if name = verbosityVariable then
    match Text.readInt32 (Text.trim value) with
    | some n => .ok (some ("log.verbosity", .integer n.toInt))
    | none => .error (.config (.notInteger name value))
  else if name = pathVariable then .ok (some ("log.path", .text value))
  else if name = traceVariable then
    match readFlag value with
    | some b => .ok (some ("log.trace", .boolean b))
    | none => .error (.config (.notBoolean name value))
  else if name = levelsVariable then do
    let levels ← Directives.read value
    return some ("log.levels", .ofLevels levels)
  else .ok none

def setVariable (config : Config) (entry : String × String) : Except LogError Config := do
  match ← readVariable entry.1 entry.2 with
  | none => return config
  | some (key, value) =>
    match config.setIn .environment key value with
    | (.ok (), config) => return config
    | (.error e, _) => throw e

def withEnvironment (config : Config) (entries : List (String × String)) :
    Except LogError Config :=
  entries.foldlM setVariable { config with environment := none }

/-! ## Settings of the log -/

def settings (home : Option String) (config : Config) : Except LogError Settings := do
  match Settings.ofDocument ((config.merged.member? "log").getD .empty) with
  | .error fault => throw (.config (.badSection fault))
  | .ok settings =>
    let settings := { settings with path := settings.path.map (FilePath.expand home) }
    let _ ← settings.overrides
    return settings

def loadSettings (home : Option String) (files : FileSystem) (path : Option String)
    (entries : List (String × String)) : Except LogError Settings := do
  let config ← match path with
    | none => pure empty
    | some path =>
      let expanded := FilePath.expand home path
      if !files.contains expanded then throw (.config (.missingFile expanded))
      load home files expanded
  (← config.withEnvironment entries).settings home

end Config

end LeveledLogging
