import LeveledLogging.Command.Run
import Std.Time
/-!
The program. What a run depends on is collected first, `Command.runArguments` decides all that
happens, and then the outcome is carried out. Log files only grow, so what was added to one is
written behind what it holds by then.
-/
namespace LeveledLogging.Program

def environment : IO (List (String × String)) := do
  let content ← IO.FS.readBinFile "/proc/self/environ"
  let texts := (Text.split '\x00' ((String.fromUTF8? content).getD "")).filter (· ≠ "")
  return texts.filterMap (Text.cut '=')

def now : IO Moment := do
  let time ← Std.Time.Timestamp.now
  let zone := (← Std.Time.Database.defaultGetLocalZoneRules).timezoneAt time
  return ⟨time.val.second.val, time.val.nano.val.toNat, zone.offset.second.val⟩

def workingDirectory : IO Place := do
  return (← IO.currentDir).components.filter (· ≠ "")

def node? (place : Place) : IO (Option FileNode) := do
  let path := place.foldl (· / ·) (← IO.FS.realPath "/")
  if ← path.isDir then return some .directory
  else if ← path.pathExists then return some (.file (← IO.FS.readBinFile path))
  else return none

def snapshot (directory : Place) (paths : List String) : IO FileSystem := do
  let places := FileSystem.waypoints [] directory ++
    paths.flatMap (FileSystem.placesOf directory)
  let nodes ← places.eraseDups.filterMapM fun place => do
    return (← node? place).map (place, ·)
  return ⟨nodes, directory⟩

def update (before : FileSystem) (place : Place) (node : FileNode) : IO Unit := do
  let path := place.foldl (· / ·) (← IO.FS.realPath "/")
  match before.node? place, node with
  | none, .directory => IO.FS.createDirAll path
  | none, .file content => add path content
  | some (.file old), .file content => add path (content.extract old.size content.size)
  | _, _ => return
where
  add path (bytes : ByteArray) : IO Unit := do
    (← IO.FS.Handle.mk path .append).write bytes

def sourceFile : String := "LeveledLogging/Main.lean"

/- The line of `sourceFile` that runs the command. -/
def sourceLine : Nat := 67

def run (args : List String) : IO UInt32 := do
  let directory ← workingDirectory
  let bare : Surroundings :=
    { environment := ← environment
      userHome := none
      files := ← snapshot directory []
      now := ← now
      site := ⟨sourceFile, sourceLine⟩
      eventSite := fun _ => sourceFile ++ ":" ++ Text.integer sourceLine
      readFilter := SubjectFilter.read
      architecture := "x86_64"
      system := "linux" }
  -- the log file is known once the configuration has been read
  let configured := { bare with files := ← snapshot directory (Command.pathsOf bare args) }
  let files ← snapshot directory (Command.pathsOf configured args)
  let outcome := Command.runArguments { configured with files } args
  outcome.files.nodes.forM fun (place, node) => update files place node
  IO.print outcome.output
  IO.eprint outcome.errorText
  return outcome.status.toUInt32

end LeveledLogging.Program

def main (args : List String) : IO UInt32 :=
  LeveledLogging.Program.run args
